import SpendCraft.AddForms
import SpendCraft.BudgetMessages
import SpendCraft.CsvExporter
import SpendCraft.Lib.CachedFlow
import SpendCraft.MonthWindows

/-!
# The General Budget Alert

A save of `TransactionsViewModel` writes the transaction, and at its end compares the income
and the expense of the current month. It reads them from `items`, the cached value of the flow
of transactions, which is empty at first and is collected only while a screen is shown.

## Conventions

The check of a save runs at its end, as an event of its own, behind a write and the check of the
budgets; where the latter throws, the event `budgetsFail` ends the save. Other callers write the
tables in between. The transactions are read from the cached value of a flow (`Lib.CachedFlow`),
which holds an earlier result, or none while no screen collects it. The month is that of the
calendar of the device (`MonthWindows`). The sums are `Long`s.

`AnnouncesExcess` compares the alert of a check with the excess of the table, the text of the
alert included, for every format of amounts.

## Proof

A check alerts by the cached list, so the property is a comparison of two sums, which
`CountsSaved` states in the state before the check, in 64 bits. That the cached list is the table
when all results have arrived is the invariant of the flow (`CachedFlow.Consistent`), kept by
every event. The runs follow step by step.

## Main results

* `Session.rows_save`: the transaction is in the table when the check runs.
* `announcesExcess_iff_countsSaved`: one check.
* `announcesExcess_of_delivered`: checks that run when the results have arrived.
* `allSteps_announcesExcess_iff`: the checks of a run.
-/

namespace SpendCraft

open Kotlin Machine

namespace TransactionsViewModel

/-! ### The check -/

/-- The `Long` sum of the amounts of a type. -/
def totalOf (type : TransactionType) (transactions : List Transaction) : Int64 :=
  ((transactions.filter fun tx => decide (tx.type = type)).map
    fun tx : Transaction => tx.amount.minorUnits).foldl (· + ·) 0

/-- The transactions of the current month of the device. -/
def monthTransactions (calendar : DeviceCalendar) (now : ℤ) (transactions : List Transaction) :
    List Transaction :=
  transactions.filter fun tx => inCurrentMonth calendar now tx.timestampUtcMillis

/-- The `deficit` of `checkGeneralBudgetBreach`; `none` is a month without one. -/
def deficit (calendar : DeviceCalendar) (now : ℤ) (items : List Transaction) : Option Int64 :=
  let allTransactions := monthTransactions calendar now items
  let netAmount := totalOf .income allTransactions - totalOf .expense allTransactions
  if netAmount < 0 then some (-netAmount) else none

/-- The alert about a deficit, and the event that goes with it. -/
def deficitAlert (fmt : AmountFormat) (deficit : ℤ) : BudgetNotification × NotificationEvent :=
  let deficitFormatted := CsvExporter.amountText fmt.decimalSeparator (fmt.hundredths deficit)
  let text := "Toplam açığınız: ".toList ++ deficitFormatted ++ " TL".toList
  (.budgetAlert "Açık".toList text, { title := "⚠️ Genel Bütçe Uyarısı".toList, message := text })

/-- `checkGeneralBudgetBreach`: an alert with the deficit, if there is one. -/
def checkGeneralBudgetBreach (fmt : AmountFormat) (calendar : DeviceCalendar) (now : ℤ)
    (items : List Transaction) : Option (BudgetNotification × NotificationEvent) :=
  (deficit calendar now items).map fun deficit => deficitAlert fmt deficit.toInt

/-! ### Quick transactions -/

/-- `contains(part, ignoreCase = true)`; Kotlin decides which characters are equal so. -/
def containsIgnoringCase (equalsIgnoringCase : Char → Char → Bool) (text part : Text) : Bool :=
  text.tails.any fun rest =>
    decide (part.length ≤ rest.length) && (part.zipWith equalsIgnoringCase rest).all (· == true)

/-- The transaction of `addQuick`. No function sets `_lastNote`. -/
def quickTransaction (equalsIgnoringCase : Char → Char → Bool) (lastUsedCategoryId : Option ℤ)
    (categories : List Category) (accounts : List Account) (now : ℤ) (amountMinor : Int64) :
    Transaction :=
  let marketCategory := categories.find? fun category =>
    containsIgnoringCase equalsIgnoringCase category.name "Market".toList ||
      containsIgnoringCase equalsIgnoringCase category.name "Alışveriş".toList ||
      containsIgnoringCase equalsIgnoringCase category.name "Yemek".toList
  let categoryId := lastUsedCategoryId.or
    ((marketCategory.bind Category.id).or (categories.head?.bind Category.id))
  let defaultAccount := accounts.find? fun account => accounts.idxOf account == 0
  newTransaction now amountMinor (some "Hızlı ekleme".toList) categoryId
    (defaultAccount.bind Account.id) false

/-! ### Saves -/

/-- The database with the flow `items` of its transactions, and the number of saves that have
not finished. -/
structure Session where
  items : CachedFlow Database (List Transaction)
  saves : ℕ

namespace Session

/-- A session before its first save. -/
def initial (db : Database) : Session :=
  { items := .initial db [], saves := 0 }

/-- A save writes the transaction and asks for one more check. -/
def save (session : Session) (tx : Transaction) : Session :=
  { items := session.items.write TransactionsRepositoryImpl.observeTransactions
      (TransactionsRepositoryImpl.upsert tx)
    saves := session.saves + 1 }

end Session

/-- The write of a save, another call of a repository, or what happens to the flow. At the end
of a save the budgets are checked; where that throws, the general check is left out. -/
inductive SaveEvent
  | saveTransaction (now : ℤ) (amountMinor : Int64) (note : Option Text)
      (categoryId accountId : Option ℤ) (isIncome : Bool)
  | addQuick (lastUsedCategoryId : Option ℤ) (categories : List Category)
      (accounts : List Account) (now : ℤ) (amountMinor : Int64)
  | call (op : StoreOp)
  | flow (e : FlowEvent)
  | check (now : ℤ)
  | budgetsFail

/-- The step of an event. -/
def SaveEvent.step (equalsIgnoringCase : Char → Char → Bool) (session : Session) :
    SaveEvent → Session
  | saveTransaction now amountMinor note categoryId accountId isIncome =>
      session.save (newTransaction now amountMinor note categoryId accountId isIncome)
  | addQuick lastUsedCategoryId categories accounts now amountMinor =>
      session.save (quickTransaction equalsIgnoringCase lastUsedCategoryId categories accounts now
        amountMinor)
  | call op =>
      { session with
        items := session.items.write TransactionsRepositoryImpl.observeTransactions
          fun db => StoreOp.stepDatabase db op }
  | flow e =>
      { session with
        items := session.items.event TransactionsRepositoryImpl.observeTransactions e }
  | check _ | budgetsFail => { session with saves := session.saves - 1 }

/-- **The transaction that was saved** is in the table. -/
theorem Session.rows_save {tx : Transaction} (h : tx.id = none) (session : Session) :
    (session.save tx).items.source.transactions.rows =
      session.items.source.transactions.rows ++
        [TransactionsRepositoryImpl.rowWithId (session.items.source.transactions.sequence + 1)
          tx] :=
  TransactionsRepositoryImpl.rows_upsert_new h session.items.source

/-! ### The excess of the month -/

/-- The exact sum of the amounts of a type. -/
def exactTotal (type : TransactionType) (transactions : List Transaction) : ℤ :=
  ((transactions.filter fun tx => decide (tx.type = type)).map
    fun tx : Transaction => tx.amount.minorUnits.toInt).sum

/-- By how much the expense of the month exceeds the income. -/
def excess (calendar : DeviceCalendar) (now : ℤ) (transactions : List Transaction) : ℤ :=
  exactTotal .expense (monthTransactions calendar now transactions) -
    exactTotal .income (monthTransactions calendar now transactions)

/-- **The check of a save** alerts just when the expense of the month in the table exceeds the
income, and announces the excess: that is the deficit that it finds, and the text of its alert is
about this deficit. -/
def AnnouncesExcess (calendar : DeviceCalendar) (session : Session) : SaveEvent → Prop
  | .check now =>
      0 < session.saves →
        let tableExcess := excess calendar now
          (TransactionsRepositoryImpl.observeTransactions session.items.source)
        (deficit calendar now session.items.value).map Int64.toInt =
            (if 0 < tableExcess then some tableExcess else none) ∧
          ∀ fmt, checkGeneralBudgetBreach fmt calendar now session.items.value =
            if 0 < tableExcess then some (deficitAlert fmt tableExcess) else none
  | _ => True

/-- The excess of the cached transactions, as a `Long`, is that of the table, or neither is
positive; it is not the one `Long` that has no opposite. -/
def CountsSaved (calendar : DeviceCalendar) (session : Session) : SaveEvent → Prop
  | .check now =>
      0 < session.saves →
        let tableExcess := excess calendar now
          (TransactionsRepositoryImpl.observeTransactions session.items.source)
        let cachedExcess := (excess calendar now session.items.value).bmod (2 ^ 64)
        cachedExcess ≠ -2 ^ 63 ∧
          (cachedExcess = tableExcess ∨ cachedExcess ≤ 0 ∧ tableExcess ≤ 0)
  | _ => True

variable {calendar : DeviceCalendar} {now : ℤ} {session : Session}

/-- The total of a type is the exact total, wrapped around to a `Long`. -/
theorem toInt_totalOf (type : TransactionType) (transactions : List Transaction) :
    (totalOf type transactions).toInt = (exactTotal type transactions).bmod (2 ^ 64) := by
  rw [totalOf, BudgetRepositoryImpl.toInt_foldl_add, List.map_map, Int64.toInt_zero, zero_add]
  rfl

/-- The two totals are subtracted as `Long`s. -/
theorem toInt_neg_netAmount (transactions : List Transaction) :
    (-(totalOf .income transactions - totalOf .expense transactions)).toInt =
      (exactTotal .expense transactions - exactTotal .income transactions).bmod (2 ^ 64) := by
  rw [Int64.toInt_neg, Int64.toInt_sub, toInt_totalOf, toInt_totalOf, Int.bmod_neg_bmod, neg_sub,
    Int.sub_bmod_bmod, Int.bmod_sub_bmod]

/-- A `Long` is negative just when its opposite is positive, or is itself. -/
theorem lt_zero_iff (n : Int64) : n < 0 ↔ 0 < (-n).toInt ∨ (-n).toInt = -2 ^ 63 := by
  have hlower := n.le_toInt
  have hupper := n.toInt_lt
  rw [Int64.lt_iff_toInt_lt, Int64.toInt_zero, Int64.toInt_neg]
  obtain hmin | hmin := eq_or_ne n.toInt (-2 ^ 63)
  · rw [hmin]
    decide
  · rw [Int.bmod_eq_of_le (by omega) (by omega)]
    omega

/-- The deficit, by the excess of the cached transactions. -/
theorem map_toInt_deficit (calendar : DeviceCalendar) (now : ℤ)
    (items : List Transaction) :
    (deficit calendar now items).map Int64.toInt =
      let cachedExcess := (excess calendar now items).bmod (2 ^ 64)
      if 0 < cachedExcess ∨ cachedExcess = -2 ^ 63 then some cachedExcess else none := by
  have hneg := toInt_neg_netAmount (monthTransactions calendar now items)
  have hsign := lt_zero_iff (totalOf .income (monthTransactions calendar now items) -
    totalOf .expense (monthTransactions calendar now items))
  rw [deficit, excess]
  dsimp only
  rw [← hneg, apply_ite (Option.map Int64.toInt)]
  exact if_congr hsign rfl rfl

/-- The alert is about the deficit, so that a deficit that is right makes it right too. -/
theorem checkGeneralBudgetBreach_eq {items : List Transaction} {tableExcess : ℤ}
    (h : (deficit calendar now items).map Int64.toInt =
      if 0 < tableExcess then some tableExcess else none) (fmt : AmountFormat) :
    checkGeneralBudgetBreach fmt calendar now items =
      if 0 < tableExcess then some (deficitAlert fmt tableExcess) else none := by
  have halert := congrArg (Option.map (deficitAlert fmt)) h
  rw [Option.map_map, apply_ite (Option.map (deficitAlert fmt))] at halert
  exact halert

/-- **One check.** -/
theorem announcesExcess_iff_countsSaved (event : SaveEvent) :
    AnnouncesExcess calendar session event ↔ CountsSaved calendar session event := by
  cases event with
  | check now =>
      refine imp_congr_right fun _ => ?_
      dsimp only
      rw [and_iff_left_of_imp checkGeneralBudgetBreach_eq, map_toInt_deficit]
      dsimp only
      generalize excess calendar now (TransactionsRepositoryImpl.observeTransactions
        session.items.source) = tableExcess
      generalize (excess calendar now session.items.value).bmod (2 ^ 64) = cachedExcess
      split_ifs with hcached htable
      · rw [Option.some_inj]
        omega
      · refine iff_of_false nofun ?_
        omega
      · refine iff_of_false nofun ?_
        omega
      · refine iff_of_true rfl ?_
        omega
  | _ => exact Iff.rfl

/-! ### Runs -/

section Runs

variable {equalsIgnoringCase : Char → Char → Bool} {db : Database} {events : List SaveEvent}

/-- The results of the flow are those of the database. -/
theorem consistent_run : CachedFlow.Consistent TransactionsRepositoryImpl.observeTransactions
    (run (SaveEvent.step equalsIgnoringCase) (.initial db) events).items := by
  refine run_invariant_of_step (I := fun session : Session =>
    CachedFlow.Consistent TransactionsRepositoryImpl.observeTransactions session.items) ?_
    (CachedFlow.consistent_initial db []) events
  intro session event h
  cases event with
  | saveTransaction | addQuick | call => exact CachedFlow.Consistent.write _
  | flow e => exact h.event e
  | check | budgetsFail => exact h

/-- **A check that runs when the results have arrived** counts the transaction that was
saved, where the excess fits. -/
theorem announcesExcess_of_delivered
    (h : (run (SaveEvent.step equalsIgnoringCase) (.initial db) events).items.results = some [])
    (hfits : |excess calendar now (TransactionsRepositoryImpl.observeTransactions
      (run (SaveEvent.step equalsIgnoringCase) (.initial db) events).items.source)| < 2 ^ 63) :
    AnnouncesExcess calendar (run (SaveEvent.step equalsIgnoringCase) (.initial db) events)
      (.check now) := by
  rw [announcesExcess_iff_countsSaved]
  intro _
  rw [consistent_run.value_eq h]
  generalize excess calendar now _ = tableExcess at hfits ⊢
  rw [abs_lt] at hfits
  have hbmod : tableExcess.bmod (2 ^ 64) = tableExcess :=
    Int.bmod_eq_of_le (by omega) (by omega)
  dsimp only
  rw [hbmod]
  exact ⟨by omega, Or.inl rfl⟩

end Runs

/-- **The alerts of a run** are right just when at each check the cached transactions have the
excess of the table. -/
theorem allSteps_announcesExcess_iff (equalsIgnoringCase : Char → Char → Bool)
    (calendar : DeviceCalendar) (db : Database) (events : List SaveEvent) :
    AllSteps (SaveEvent.step equalsIgnoringCase) (AnnouncesExcess calendar) (.initial db) events ↔
      AllSteps (SaveEvent.step equalsIgnoringCase) (CountsSaved calendar) (.initial db) events :=
  allSteps_congr (I := fun _ => True) (V := fun _ _ => True) (fun _ _ _ _ => trivial)
    (fun _ event _ _ => announcesExcess_iff_countsSaved event) trivial (.trivial _ events)

/-- An expense of 5.00 in May 2024. -/
def expenseOfMay : SaveEvent :=
  .saveTransaction 1715774400000 500 none none none false

/-- The expense is saved while nobody collects the flow, or before its result arrives: no
alert. -/
theorem not_allSteps_announcesExcess :
    ¬ AllSteps (SaveEvent.step (· == ·)) (AnnouncesExcess (.gregorian 0)) (.initial Database.empty)
        [expenseOfMay, .check 1715774400000] ∧
      ¬ AllSteps (SaveEvent.step (· == ·)) (AnnouncesExcess (.gregorian 0))
        (.initial Database.empty)
        [.flow .subscribe, .flow (.deliver 0), expenseOfMay, .check 1715774400000] := by
  constructor
  · rintro ⟨-, hcheck, -⟩
    exact absurd (hcheck (by decide)).1 (by decide +kernel)
  · rintro ⟨-, -, -, hcheck, -⟩
    exact absurd (hcheck (by decide)).1 (by decide +kernel)

end TransactionsViewModel

end SpendCraft
