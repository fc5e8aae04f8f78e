import SpendCraft.Lib.Months
import SpendCraft.Repositories

/-!
# Recurring Transactions

A rule of the Android app is stored with the date of its next execution, which is a period
after its start from the beginning. `addRecurringTransaction` makes the transaction of the
start itself, when the start lies in the twenty-four hours from the first instant of today.

The calendar of the device is a parameter: it adds one to a field, which leads to a later
instant, and it knows when the day began.

## Conventions

`JavaCalendar` has two functions of the source's calendar, adding one to a field and the first
instant of the day, and one fact, that adding leads to a later instant. `JavaCalendar.gregorian`
is an instance at a fixed offset. Each database call may throw or not (`Failures`), and what is
thrown while the first transaction is created is caught where the source catches it. A day is
twenty-four hours from the first instant of today, also where the clock is put forward.

The transaction has the time of the start; the rule is stored with the date of the next execution.

## Proof

The rows that are added are computed from the arguments, one lemma for the rules and one for the
transactions, with the failures as cases. `AccountsForStart` compares the two: a start with a
transaction and a rule that goes on, or no transaction and a rule that is due at its start. The
second never happens, since the stored date is later than the start (`lt_calculateNextExecution`).

## Main results

* `addRecurringTransaction_transactions`, `addRecurringTransaction_rules`: what the call
  stores.
* `accountsForStart_iff`: when the start of a new rule is accounted for.
-/

namespace SpendCraft

open Kotlin Relational

/-! ### Rules -/

/-- The frequencies of a rule. -/
inductive RecurringFrequency
  | daily
  | weekly
  | monthly
  | yearly
  deriving DecidableEq, Repr

/-- A row of the table `recurring_transactions`. -/
structure RecurringTransactionEntity where
  id : ℤ
  name : Text
  amount : Int64
  categoryId : ℤ
  accountId : ℤ
  type : TransactionType
  frequency : RecurringFrequency
  startDate : ℤ
  endDate : Option ℤ
  isActive : Bool
  lastExecuted : Option ℤ
  nextExecution : ℤ
  note : Option Text
  deriving DecidableEq, Repr

/-- Rows are inserted under their `id`, which Room generates for 0. -/
instance : RowId RecurringTransactionEntity where
  id := RecurringTransactionEntity.id
  withId n r := { r with id := n }
  id_withId _ _ := rfl

/-- The tables that the recurring rules have to do with. -/
structure RecurringStore extends Store where
  recurringTransactions : AutoTable RecurringTransactionEntity

/-- `@Insert(onConflict = REPLACE)`. -/
def RecurringTransactionDao.insertRecurringTransaction (rule : RecurringTransactionEntity)
    (store : RecurringStore) : RecurringStore :=
  { store with recurringTransactions := store.recurringTransactions.insertOrReplace rule }

/-! ### The calendar of the device -/

/-- The fields of `Calendar.add` that are in use. -/
inductive CalendarField
  | dayOfYear
  | dayOfMonth
  | weekOfYear
  | month
  | year
  deriving DecidableEq, Repr

/-- `java.util.Calendar` in the time zone of the device. -/
structure JavaCalendar where
  /-- `add(field, 1)`. -/
  add : CalendarField → ℤ → ℤ
  /-- The fields of the time of day set to zero. -/
  startOfDay : ℤ → ℤ
  lt_add : ∀ field millis, millis < add field millis

/-- The Gregorian calendar, at a place whose clock is ahead of UTC by `offset` milliseconds. -/
def JavaCalendar.gregorian (offset : ℤ) : JavaCalendar :=
  { add := fun field millis =>
      match field with
      | .dayOfYear => millis + 86400000
      | .dayOfMonth => millis + 86400000
      | .weekOfYear => millis + 7 * 86400000
      | .month => JavaTime.plusMonths offset 1 millis
      | .year => JavaTime.plusMonths offset 12 millis
    startOfDay := fun millis => JavaTime.atStartOfDay (JavaTime.localDate offset millis) - offset
    lt_add := by
      intro field millis
      have hmonths := JavaTime.plusMonths_strictMono offset millis
      have hzero : JavaTime.plusMonths offset 0 millis = millis := JavaTime.plusMonths_zero
      cases field with
      | dayOfYear => exact lt_add_of_pos_right _ (by decide)
      | dayOfMonth => exact lt_add_of_pos_right _ (by decide)
      | weekOfYear => exact lt_add_of_pos_right _ (by decide)
      | month => exact hzero.symm.trans_lt (hmonths (show (0 : ℤ) < 1 by decide))
      | year => exact hzero.symm.trans_lt (hmonths (show (0 : ℤ) < 12 by decide)) }

/-! ### The next execution -/

/-- `calculateNextExecution` of the manager. -/
def RecurringTransactionManager.calculateNextExecution (calendar : JavaCalendar)
    (frequency : RecurringFrequency) (currentNextExecution : ℤ) : ℤ :=
  match frequency with
  | .daily => calendar.add .dayOfMonth currentNextExecution
  | .weekly => calendar.add .weekOfYear currentNextExecution
  | .monthly => calendar.add .month currentNextExecution
  | .yearly => calendar.add .year currentNextExecution

namespace RecurringViewModel

/-- `calculateNextExecution` of the view model: a day is added as one of the year. -/
def calculateNextExecution (calendar : JavaCalendar) (startDate : ℤ)
    (frequency : RecurringFrequency) : ℤ :=
  match frequency with
  | .daily => calendar.add .dayOfYear startDate
  | .weekly => calendar.add .weekOfYear startDate
  | .monthly => calendar.add .month startDate
  | .yearly => calendar.add .year startDate

/-- The next date is later. -/
theorem lt_calculateNextExecution (calendar : JavaCalendar) (startDate : ℤ)
    (frequency : RecurringFrequency) :
    startDate < calculateNextExecution calendar startDate frequency := by
  cases frequency <;> exact calendar.lt_add _ _

/-! ### Adding a rule -/

/-- The database calls of `addRecurringTransaction` that throw. -/
structure Failures where
  insertRecurringTransaction : Bool
  upsert : Bool
  deriving DecidableEq

/-- The transaction for the execution of a rule. -/
def transactionOf (recurringTransaction : RecurringTransactionEntity) (executionDate : ℤ) :
    Transaction :=
  { id := none
    amount := { minorUnits := recurringTransaction.amount }
    timestampUtcMillis := executionDate
    note := recurringTransaction.note <|> some recurringTransaction.name
    categoryId := some recurringTransaction.categoryId
    accountId := some recurringTransaction.accountId
    type := recurringTransaction.type }

/-- What is thrown is caught here. -/
def createTransactionFromRecurring (upsertFails : Bool)
    (recurringTransaction : RecurringTransactionEntity) (executionDate : ℤ)
    (store : RecurringStore) : RecurringStore :=
  if upsertFails then store
  else
    { store with
      toDatabase := TransactionsRepositoryImpl.upsert
        (transactionOf recurringTransaction executionDate) store.toDatabase }

/-- The arguments of `addRecurringTransaction`. -/
structure NewRule where
  name : Text
  amount : Int64
  categoryId : ℤ
  accountId : ℤ
  type : TransactionType
  frequency : RecurringFrequency
  startDate : ℤ
  endDate : Option ℤ
  note : Option Text

/-- The rule before it is stored. -/
def newTransaction (calendar : JavaCalendar) (rule : NewRule) : RecurringTransactionEntity :=
  { id := 0
    name := rule.name
    amount := rule.amount
    categoryId := rule.categoryId
    accountId := rule.accountId
    type := rule.type
    frequency := rule.frequency
    startDate := rule.startDate
    endDate := rule.endDate
    isActive := true
    lastExecuted := none
    nextExecution := calculateNextExecution calendar rule.startDate rule.frequency
    note := rule.note }

/-- The start lies between the two instants that the code takes for the ends of today. -/
def StartsToday (calendar : JavaCalendar) (now startDate : ℤ) : Prop :=
  calendar.startOfDay now ≤ startDate ∧
    startDate ≤ calendar.startOfDay now + 24 * 60 * 60 * 1000 - 1

/-- Whether a rule starts today is a comparison of fields of the calendar. -/
instance (calendar : JavaCalendar) (now startDate : ℤ) :
    Decidable (StartsToday calendar now startDate) :=
  inferInstanceAs (Decidable (_ ∧ _))

/-- `addRecurringTransaction`: the rule is stored, and if it starts today, its first transaction
is created right away. -/
def addRecurringTransaction (calendar : JavaCalendar) (failures : Failures) (now : ℤ)
    (rule : NewRule) (store : RecurringStore) : RecurringStore :=
  if failures.insertRecurringTransaction then store
  else
    let stored := RecurringTransactionDao.insertRecurringTransaction
      (newTransaction calendar rule) store
    if StartsToday calendar now rule.startDate then
      createTransactionFromRecurring failures.upsert (newTransaction calendar rule)
        rule.startDate stored
    else stored

variable {calendar : JavaCalendar} {failures : Failures} {now : ℤ} {rule : NewRule}
  {store : RecurringStore}

/-- **The rule** is stored with the next execution of its period. -/
theorem addRecurringTransaction_rules :
    (addRecurringTransaction calendar failures now rule store).recurringTransactions.rows =
      if failures.insertRecurringTransaction then store.recurringTransactions.rows
      else
        store.recurringTransactions.rows ++
          [{ newTransaction calendar rule with
              id := store.recurringTransactions.sequence + 1 }] := by
  have hinsert : (RecurringTransactionDao.insertRecurringTransaction
      (newTransaction calendar rule) store).recurringTransactions.rows =
        store.recurringTransactions.rows ++
          [{ newTransaction calendar rule with
              id := store.recurringTransactions.sequence + 1 }] :=
    AutoTable.rows_insertOrReplace_generated _ rfl
  rw [addRecurringTransaction]
  dsimp only
  split_ifs with hfails htoday
  · rfl
  · rw [createTransactionFromRecurring]
    split_ifs
    · exact hinsert
    · exact hinsert
  · exact hinsert

/-- **A transaction** is stored for a rule that starts today. -/
theorem addRecurringTransaction_transactions :
    (addRecurringTransaction calendar failures now rule store).transactions.rows =
      if failures.insertRecurringTransaction = false ∧ failures.upsert = false ∧
          StartsToday calendar now rule.startDate then
        store.transactions.rows ++
          [TransactionsRepositoryImpl.rowWithId (store.transactions.sequence + 1)
            (transactionOf (newTransaction calendar rule) rule.startDate)]
      else store.transactions.rows := by
  have hupsert := @TransactionsRepositoryImpl.rows_upsert_new
    (transactionOf (newTransaction calendar rule) rule.startDate) rfl store.toDatabase
  rw [addRecurringTransaction]
  cases hinsert : failures.insertRecurringTransaction with
  | true => rfl
  | false =>
      by_cases htoday : StartsToday calendar now rule.startDate
      · cases hfails : failures.upsert with
        | true =>
            simp only [htoday, createTransactionFromRecurring, Bool.false_eq_true, if_true,
              if_false]
            rfl
        | false =>
            simp only [htoday, createTransactionFromRecurring, Bool.false_eq_true, if_true,
              if_false, and_self]
            exact hupsert
      · simp only [htoday, Bool.false_eq_true, if_false, and_false]
        rfl

/-! ### The start of a new rule -/

/-- The start has a transaction and the rule goes on with the following occurrence, or the
start is still to come. -/
def AccountsForStart (calendar : JavaCalendar) (failures : Failures) (now : ℤ) (rule : NewRule)
    (store : RecurringStore) : Prop :=
  ∃ stored, (addRecurringTransaction calendar failures now rule store).recurringTransactions.rows =
      store.recurringTransactions.rows ++ [stored] ∧
    ((∃ created, (addRecurringTransaction calendar failures now rule store).transactions.rows =
          store.transactions.rows ++ [created] ∧ created.timestampUtcMillis = rule.startDate ∧
        stored.nextExecution = calculateNextExecution calendar rule.startDate rule.frequency) ∨
      (addRecurringTransaction calendar failures now rule store).transactions.rows =
          store.transactions.rows ∧ stored.nextExecution = rule.startDate)

/-- **The start is accounted for** just when it lies in the twenty-four hours from the first
instant of today, and both database calls succeed. -/
theorem accountsForStart_iff :
    AccountsForStart calendar failures now rule store ↔
      failures.insertRecurringTransaction = false ∧ failures.upsert = false ∧
        calendar.startOfDay now ≤ rule.startDate ∧
          rule.startDate < calendar.startOfDay now + 86400000 := by
  have htoday : StartsToday calendar now rule.startDate ↔
      calendar.startOfDay now ≤ rule.startDate ∧
        rule.startDate < calendar.startOfDay now + 86400000 := by
    rw [StartsToday]
    omega
  rw [← htoday, AccountsForStart, addRecurringTransaction_rules,
    addRecurringTransaction_transactions]
  constructor
  · rintro ⟨stored, hrules, hstart⟩
    by_contra hnot
    rw [if_neg hnot] at hstart
    rcases hstart with ⟨created, hcreated, -⟩ | ⟨-, hnext⟩
    · exact absurd hcreated (by simp)
    · cases hinsert : failures.insertRecurringTransaction with
      | true =>
          rw [hinsert, if_pos rfl] at hrules
          exact absurd hrules (by simp)
      | false =>
          rw [hinsert, if_neg Bool.false_ne_true, List.append_cancel_left_eq, List.cons.injEq]
            at hrules
          have hlater := lt_calculateNextExecution calendar rule.startDate rule.frequency
          have hstored : stored.nextExecution =
              calculateNextExecution calendar rule.startDate rule.frequency := by
            rw [← hrules.1]
            rfl
          omega
  · rintro hall
    rw [if_pos hall, hall.1, if_neg Bool.false_ne_true]
    exact ⟨_, rfl, Or.inl ⟨_, rfl, rfl, rfl⟩⟩

/-- A rule that starts tomorrow. -/
def rentFromTomorrow : NewRule :=
  { name := "Rent".toList
    amount := 50000
    categoryId := 1
    accountId := 1
    type := .expense
    frequency := .monthly
    startDate := 86400000
    endDate := none
    note := none }

/-- No transaction is made of the start, and the rule goes on a month later. -/
theorem not_accountsForStart_tomorrow :
    ¬AccountsForStart (.gregorian 0)
      { insertRecurringTransaction := false, upsert := false } 0 rentFromTomorrow
      { Store.seeded with recurringTransactions := AutoTable.empty _ } := by
  rintro ⟨stored, hrules, hstart⟩
  have hrows : (addRecurringTransaction (.gregorian 0)
      { insertRecurringTransaction := false, upsert := false } 0 rentFromTomorrow
      { Store.seeded with
        recurringTransactions := AutoTable.empty _ }).recurringTransactions.rows =
      [{ newTransaction (.gregorian 0) rentFromTomorrow with id := 1 }] := by
    decide
  have htransactions : (addRecurringTransaction (.gregorian 0)
      { insertRecurringTransaction := false, upsert := false } 0 rentFromTomorrow
      { Store.seeded with recurringTransactions := AutoTable.empty _ }).transactions.rows = [] := by
    decide
  rw [hrows] at hrules
  rw [htransactions] at hstart
  obtain rfl := (List.cons.inj hrules).1
  rcases hstart with ⟨created, hcreated, -⟩ | ⟨-, hnext⟩
  · cases hcreated
  · exact absurd hnext (by decide)

end RecurringViewModel

end SpendCraft
