import SpendCraft.Ios.Accounts
import SpendCraft.Lib.Binary64
import SpendCraft.Lib.Machine
import SpendCraft.Lib.Months
import SpendCraft.Lib.Schedule

/-!
# Recurring Transactions of the iOS App

A `RecurringTransactionEntity` is a rule: it has a next due date, `nextExecution`, and two
executors look for rules that are due. `RecurringViewModel.executeDueTransactions` runs
when the app appears, `RecurringAutomationManager.processDueRecurringTransactions` in the
background. `AddTransactionView.saveTransaction` enters rules.

Dates are milliseconds since 1970. Adding to a date is left to the `CalendarSystem` of the
device. An amount is the rational that a finite `Double` stands for.

## Conventions

A rule names its category and account by ids, and the executors look for the objects in what they
have fetched. The calendar is a function, `CalendarSystem`, that adds a number of components to a
date or has no answer. Two things are asked of it: adding none gives the date itself, and adding
more gives a later date. An amount goes through a `Double`, and one that does not fit an `Int64`
ends the app: that is followed where a rule is entered, and the executors book the amount of the
rule as it is stored. What such a stored amount does to an executor is in `RecurringBooking`.

The context is what the executors read and write: the rules, the categories and the accounts.
Saving succeeds. A call is one executor at one time, or one save of the form.

## Main definitions

* `RecurringTransactionEntity`: a rule.
* `RecurringViewModel.executeDueTransactions`: the executor in the foreground.
* `RecurringAutomationManager.processDueRecurringTransactions`: the one in the background.
* `AddTransactionView.saveTransaction`: the form that enters rules.
-/

namespace SpendCraft.Ios

open Kotlin Relational

/-! ### Objects -/

/-- A category of the store, as the lists and the sums read it. -/
structure CategoryEntity where
  id : ℤ
  name : Text
  deriving DecidableEq, Repr

/-- A transaction of the store. The category and the account are named by their ids. -/
structure TransactionEntity where
  id : ℤ
  amountMinor : ℤ
  timestampUtcMillis : ℤ
  note : Option Text
  categoryId : ℤ
  accountId : ℤ
  isIncome : Bool
  deriving DecidableEq, Repr

/-- A recurring transaction of the store. -/
structure RecurringTransactionEntity where
  objectID : ℤ
  id : ℤ
  name : Text
  amount : ℤ
  categoryId : ℤ
  accountId : ℤ
  isIncome : Bool
  frequency : Text
  startDate : ℤ
  endDate : ℤ
  isActive : Bool
  lastExecuted : ℤ
  nextExecution : ℤ
  note : Option Text
  deriving DecidableEq, Repr

/-- A rule is stored under its object id. -/
instance : RowId RecurringTransactionEntity where
  id := RecurringTransactionEntity.objectID
  withId n r := { r with objectID := n }
  id_withId _ _ := rfl

/-- The objects of the Core Data store. -/
structure Context where
  categories : List CategoryEntity
  accounts : Accounts
  transactions : List TransactionEntity
  recurringTransactions : AutoTable RecurringTransactionEntity

/-! ### The calendar of the device -/

/-- The components that `Calendar.date(byAdding:value:to:)` is called with. -/
inductive Component
  | day
  | weekOfYear
  | month
  | year
  deriving DecidableEq, Repr

/-- `date(byAdding:value:to:)`, which is `nil` where the calendar has no such date. Adding
nothing gives the same date, adding more a later one. -/
structure CalendarSystem where
  dateByAdding : Component → ℤ → ℤ → Option ℤ
  dateByAdding_zero : ∀ component date, dateByAdding component 0 date = some date
  dateByAdding_lt : ∀ component date k l d e, k < l →
    dateByAdding component k date = some d → dateByAdding component l date = some e → d < e

/-- The Gregorian calendar, at a place whose clock is ahead of UTC by `offset` milliseconds. -/
def CalendarSystem.gregorian (offset : ℤ) : CalendarSystem :=
  { dateByAdding := fun component k date =>
      match component with
      | .day => some (date + k * 86400000)
      | .weekOfYear => some (date + k * (7 * 86400000))
      | .month => some (JavaTime.plusMonths offset k date)
      | .year => some (JavaTime.plusMonths offset (12 * k) date)
    dateByAdding_zero := by
      intro component date
      cases component <;> simp
    dateByAdding_lt := by
      intro component date k l d e hkl hd he
      have hmonths := JavaTime.plusMonths_strictMono offset date
      cases component with
      | day =>
          rw [Option.some_inj] at hd he
          omega
      | weekOfYear =>
          rw [Option.some_inj] at hd he
          omega
      | month =>
          rw [Option.some_inj] at hd he
          exact hd.symm.trans_lt ((hmonths hkl).trans_eq he)
      | year =>
          rw [Option.some_inj] at hd he
          exact hd.symm.trans_lt
            ((hmonths (show 12 * k < 12 * l by omega)).trans_eq he) }

/-- `Date(timeIntervalSince1970: TimeInterval(millis / 1000))` -/
def dateOfMillis (millis : ℤ) : ℤ :=
  millis.tdiv 1000 * 1000

/-- The component that a frequency adds to a date. -/
def frequencyComponent (frequency : Text) : Option Component :=
  if frequency = "DAILY".toList then some .day
  else if frequency = "WEEKLY".toList then some .weekOfYear
  else if frequency = "MONTHLY".toList then some .month
  else if frequency = "YEARLY".toList then some .year
  else none

/-! ### Amounts -/

/-- `Int64(amount * 100)`. It ends the app when the result is not `FitsInt64`. -/
def minorUnits (amount : ℚ) : ℤ :=
  Binary64.truncated (Binary64.signedRounded (amount * 100))

/-- The conversion `Int64(_:)` does not trap. -/
def FitsInt64 (n : ℤ) : Prop :=
  -2 ^ 63 ≤ n ∧ n < 2 ^ 63

/-- Whether it does is a comparison of two integers. -/
instance (n : ℤ) : Decidable (FitsInt64 n) :=
  inferInstanceAs (Decidable (_ ∧ _))

/-- `Double(amount) / 100.0` -/
def majorUnits (amount : ℤ) : ℚ :=
  Binary64.signedRounded (Binary64.signedRounded amount / 100)

/-! ### Executing rules -/

/-- A transaction, with the rule as it was when the transaction was made for it. -/
abbrev Created := RecurringTransactionEntity × TransactionEntity

/-- What an executor makes of a rule that is due, and the transaction it creates. -/
abbrev RuleBody :=
  RecurringTransactionEntity → RecurringTransactionEntity × Option TransactionEntity

namespace Context

/-- The rules that are due. -/
def dueRecurring (now : ℤ) (context : Context) : List RecurringTransactionEntity :=
  context.recurringTransactions.rows.filter fun recurring =>
    recurring.isActive && decide (recurring.nextExecution ≤ now)

/-- What a loop over the rules that are due creates. -/
def createdForDue (now : ℤ) (body : RuleBody) (context : Context) : List Created :=
  (context.dueRecurring now).filterMap fun recurring =>
    (body recurring).2.map fun transaction => (recurring, transaction)

/-- A loop over the rules that are due. -/
def forEachDue (now : ℤ) (body : RuleBody)
    (hbody : ∀ recurring, (body recurring).1.objectID = recurring.objectID)
    (context : Context) : Context :=
  { context with
    transactions := context.transactions ++ (context.createdForDue now body).map Prod.snd
    recurringTransactions := context.recurringTransactions.updateSet
      (fun recurring =>
        if recurring.isActive && decide (recurring.nextExecution ≤ now) then
          (body recurring).1
        else recurring)
      (by
        intro recurring
        split_ifs
        · exact hbody recurring
        · rfl) }

end Context

namespace RecurringAutomationManager

/-- `calculateNextExecution` of the manager: an unknown frequency counts as monthly, and a date
that cannot be computed stays. -/
def calculateNextExecution (calendar : CalendarSystem) (date : ℤ) (frequency : Text) : ℤ :=
  (calendar.dateByAdding ((frequencyComponent frequency).getD .month) 1 date).getD date

/-- One round of the loop; `randomId` is the number drawn from `1...1000000`. -/
def executeRecurring (calendar : CalendarSystem) (now : ℤ) (randomId : ℤ → ℤ) : RuleBody :=
  fun recurring =>
    if recurring.endDate > 0 ∧ recurring.endDate < now then
      ({ recurring with isActive := false }, none)
    else
      ({ recurring with
          lastExecuted := now
          nextExecution :=
            calculateNextExecution calendar (dateOfMillis now) recurring.frequency },
        some
          { id := randomId recurring.objectID
            amountMinor := recurring.amount
            timestampUtcMillis := now
            note := some (recurring.name ++ " (Otomatik)".toList)
            categoryId := recurring.categoryId
            accountId := recurring.accountId
            isIncome := recurring.isIncome })

/-- The body of the manager keeps the identity of the rule. -/
theorem objectID_executeRecurring (calendar : CalendarSystem) (now : ℤ) (randomId : ℤ → ℤ)
    (recurring : RecurringTransactionEntity) :
    (executeRecurring calendar now randomId recurring).1.objectID = recurring.objectID := by
  rw [executeRecurring]
  split_ifs <;> rfl

/-- `processDueRecurringTransactions`: the body runs for every rule that is due. -/
def processDueRecurringTransactions (calendar : CalendarSystem) (now : ℤ) (randomId : ℤ → ℤ)
    (context : Context) : Context :=
  context.forEachDue now (executeRecurring calendar now randomId)
    (objectID_executeRecurring calendar now randomId)

end RecurringAutomationManager

namespace TransactionsViewModel

/-- The transaction that `addTransaction` saves. -/
def addTransaction (now randomId : ℤ) (amount : ℚ) (note : Option Text)
    (category : Option CategoryEntity) (account : Option AccountEntity) (isIncome : Bool) :
    TransactionEntity :=
  { id := randomId
    amountMinor := minorUnits amount
    timestampUtcMillis := now
    note := note
    categoryId := (category.map CategoryEntity.id).getD 0
    accountId := (account.map AccountEntity.id).getD 0
    isIncome := isIncome }

end TransactionsViewModel

namespace RecurringViewModel

/-- `calculateNextExecution` of the view model: an unknown frequency leaves the date. -/
def calculateNextExecution (calendar : CalendarSystem) (current : ℤ) (frequency : Text) : ℤ :=
  let currentDate := dateOfMillis current
  match frequencyComponent frequency with
  | some component => (calendar.dateByAdding component 1 currentDate).getD currentDate
  | none => currentDate

/-- One round of the loop over the loaded rules. A stored amount that does not come back from its
`Double` as an `Int64` ends the app in `addTransaction`; that is left out here, where every amount
has a transaction, and `executeDueTransactionsOrEnd` has it. -/
def executeRecurring (calendar : CalendarSystem) (categories : List CategoryEntity)
    (accounts : List AccountEntity) (now : ℤ) (randomId : ℤ → ℤ) : RuleBody :=
  fun recurring =>
    ({ recurring with
        lastExecuted := now
        nextExecution :=
          calculateNextExecution calendar recurring.nextExecution recurring.frequency },
      match categories.find? (fun category => category.id == recurring.categoryId),
        accounts.find? (fun account => account.id == recurring.accountId) with
      | some category, some account =>
          some (TransactionsViewModel.addTransaction now (randomId recurring.objectID)
            (majorUnits recurring.amount) recurring.note (some category) (some account)
            recurring.isIncome)
      | _, _ => none)

/-- The body of the view model keeps the identity of the rule. -/
theorem objectID_executeRecurring (calendar : CalendarSystem)
    (categories : List CategoryEntity) (accounts : List AccountEntity) (now : ℤ)
    (randomId : ℤ → ℤ) (recurring : RecurringTransactionEntity) :
    (executeRecurring calendar categories accounts now randomId recurring).1.objectID =
      recurring.objectID :=
  rfl

/-- The categories, the accounts and the rules are loaded before. -/
def executeDueTransactions (calendar : CalendarSystem) (now : ℤ) (randomId : ℤ → ℤ)
    (context : Context) : Context :=
  context.forEachDue now
    (executeRecurring calendar context.categories context.accounts.rows now randomId)
    (objectID_executeRecurring calendar context.categories context.accounts.rows now randomId)

/-- The rule before it is stored. -/
def addRecurringTransaction (randomId : ℤ) (name : Text) (amount : ℚ)
    (categoryId accountId : ℤ) (isIncome : Bool) (frequency : Text) (startDate : ℤ)
    (endDate : Option ℤ) (note : Option Text) : RecurringTransactionEntity :=
  { objectID := 0
    id := randomId
    name := name
    amount := minorUnits amount
    categoryId := categoryId
    accountId := accountId
    isIncome := isIncome
    frequency := frequency
    startDate := startDate
    endDate := endDate.getD 0
    isActive := true
    lastExecuted := 0
    nextExecution := startDate
    note := note }

end RecurringViewModel

/-! ### Entering a transaction -/

/-- What the view shows; `amount` is the number that the text reads as. -/
structure AddTransactionView where
  amount : Option ℚ
  note : Text
  selectedCategory : Option CategoryEntity
  selectedAccount : Option AccountEntity
  isIncome : Bool
  date : ℤ
  isRecurring : Bool
  recurringFrequency : Text
  deriving DecidableEq, Repr

namespace AddTransactionView

/-- The context after the save, and the transaction that was saved for a new rule. An
amount that does not fit ends the app before anything is saved. -/
def saveTransaction (view : AddTransactionView) (now randomId randomRuleId : ℤ)
    (context : Context) : Context × List Created :=
  match view.amount, view.selectedCategory, view.selectedAccount with
  | some amountValue, some category, some account =>
      if FitsInt64 (minorUnits amountValue) then
        let note := if view.note.isEmpty then none else some view.note
        let transaction := TransactionsViewModel.addTransaction now randomId amountValue note
          (some category) (some account) view.isIncome
        let added := { context with transactions := context.transactions ++ [transaction] }
        if view.isRecurring then
          let recurring := RecurringViewModel.addRecurringTransaction randomRuleId
            category.name amountValue category.id account.id view.isIncome
            view.recurringFrequency view.date none note
          ({ added with
              recurringTransactions := context.recurringTransactions.insertOrReplace recurring },
            [({ recurring with objectID := context.recurringTransactions.storedId recurring },
              transaction)])
        else (added, [])
      else (context, [])
  | _, _, _ => (context, [])

end AddTransactionView

/-! ### The machine -/

/-- A call of an executor, with the time and the numbers it draws. -/
inductive ExecutorCall
  | executeDueTransactions (now : ℤ) (randomId : ℤ → ℤ)
  | processDueRecurringTransactions (now : ℤ) (randomId : ℤ → ℤ)

namespace ExecutorCall

/-- The reading of the clock that decides which rules are due. -/
def now : ExecutorCall → ℤ
  | executeDueTransactions now _ => now
  | processDueRecurringTransactions now _ => now

/-- What the call does with each due rule. -/
def body (calendar : CalendarSystem) (context : Context) : ExecutorCall → RuleBody
  | executeDueTransactions now randomId =>
      RecurringViewModel.executeRecurring calendar context.categories context.accounts.rows
        now randomId
  | processDueRecurringTransactions now randomId =>
      RecurringAutomationManager.executeRecurring calendar now randomId

/-- The context after the call. -/
def step (calendar : CalendarSystem) (context : Context) : ExecutorCall → Context
  | executeDueTransactions now randomId =>
      RecurringViewModel.executeDueTransactions calendar now randomId context
  | processDueRecurringTransactions now randomId =>
      RecurringAutomationManager.processDueRecurringTransactions calendar now randomId context

/-- The transactions that a call creates. -/
def created (calendar : CalendarSystem) (context : Context) (call : ExecutorCall) :
    List Created :=
  context.createdForDue call.now (call.body calendar context)

end ExecutorCall

end SpendCraft.Ios
