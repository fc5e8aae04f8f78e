import SpendCraft.Ios.BudgetAgreement
import SpendCraft.Lib.Windows

/-!
# The Monthly Trend of the iOS App

`monthlyTrendData` starts the given number of months ago. The month with number `k` begins
`k` months after that start, but it ends one month after its own beginning: a day that was
cut in one month is missing at the end of it, when the next month has it again.

The sums of the chart are `Double`s. What is said about sums here is said about minor units,
which the `Double`s hold as long as a sum is not too large for its number of terms.

## Months and points

The month `k` is the time from `monthStart` up to and without `monthEnd`, and the point of the chart
for it has the sums of the transactions in that time. `TilesPeriod` is about the chart: it asks that
its points are those of the months, and that the months count each transaction of the period once.

## Proof

The months are windows of instants (`Lib.Windows`), and `monthStart` and `monthEnd` are dates of
`Lib.Months`, where a day of the month that is too late is cut. The window of one month never
reaches beyond the start of the next, so none is counted twice; it ends before it when a day was
cut in one month and not in the other, and what lies between is not counted. The equivalence
compares the number of windows of a transaction with one, for all transactions of the period.

## Main results

* `monthlyTrendData_gregorian`: the points of the chart.
* `abs_total_sub_lt`: the `Double` of a point holds the minor units of its transactions.
* `timesCounted_le_one`: no transaction is counted twice.
* `tilesPeriod_iff`: when every transaction of the period is counted once.
-/

namespace SpendCraft.Ios.TransactionsViewModel

open Calendar Kotlin Windows

variable {offset now : ℤ} {months : ℕ} {transactions : List TransactionEntity}
  {transaction : TransactionEntity}

/-! ### The chart -/

/-- The transactions from the first date on and before the second. -/
def monthTransactions (transactions : List TransactionEntity) (monthStart monthEnd : ℤ) :
    List TransactionEntity :=
  transactions.filter fun transaction => within monthStart monthEnd transaction.timestampUtcMillis

/-- The sum of the incomes or of the expenses. -/
def total (transactions : List TransactionEntity) (isIncome : Bool) : ℚ :=
  Binary64.sum ((transactions.filter fun transaction => transaction.isIncome == isIncome).map
    fun transaction => majorUnits transaction.amountMinor)

/-- The beginning of each month, with its income and its expense. The first date and the ends
are unwrapped: the app ends where the calendar has none. -/
def monthlyTrendData (calendar : CalendarSystem) (now : ℤ) (months : ℕ)
    (transactions : List TransactionEntity) : Option (List (ℤ × ℚ × ℚ)) :=
  (calendar.dateByAdding .month (-months) now).bind fun startDate =>
    ((List.range months).filterMap fun monthOffset : ℕ =>
      calendar.dateByAdding .month monthOffset startDate).mapM fun monthStart =>
        (calendar.dateByAdding .month 1 monthStart).map fun monthEnd =>
          let monthTransactions := monthTransactions transactions monthStart monthEnd
          (monthStart, total monthTransactions true, total monthTransactions false)

/-! ### The months of the Gregorian calendar -/

/-- The beginning of a month: so many months after the start date. -/
def monthStart (offset now : ℤ) (months k : ℕ) : ℤ :=
  JavaTime.plusMonths offset k (JavaTime.plusMonths offset (-months) now)

/-- The end of a month: one month after its beginning. -/
def monthEnd (offset now : ℤ) (months k : ℕ) : ℤ :=
  JavaTime.plusMonths offset 1 (monthStart offset now months k)

/-- The local date of the first month. -/
def startDate (offset now : ℤ) (months : ℕ) : LocalDate :=
  (JavaTime.localDate offset now).plusMonths (-months)

/-- The points of the months, with the sums of the transactions between the two dates of each. -/
def monthlyPoints (offset now : ℤ) (months : ℕ) (transactions : List TransactionEntity) :
    List (ℤ × ℚ × ℚ) :=
  (List.range months).map fun k =>
    let monthTransactions := monthTransactions transactions (monthStart offset now months k)
      (monthEnd offset now months k)
    (monthStart offset now months k, total monthTransactions true, total monthTransactions false)

/-- **The points** of the chart: the Gregorian calendar has a date for each month, so that none is
left out and the app goes on. -/
theorem monthlyTrendData_gregorian :
    monthlyTrendData (.gregorian offset) now months transactions =
      some (monthlyPoints offset now months transactions) := by
  have hfirst : (CalendarSystem.gregorian offset).dateByAdding .month (-months) now =
      some (JavaTime.plusMonths offset (-months) now) := rfl
  have hstarts : ((List.range months).filterMap fun k : ℕ =>
      (CalendarSystem.gregorian offset).dateByAdding .month k
        (JavaTime.plusMonths offset (-months) now)) =
      (List.range months).map (monthStart offset now months) :=
    congrFun List.filterMap_eq_map' _
  rw [monthlyTrendData, hfirst, Option.bind_some, hstarts]
  exact List.mapM_pure.trans (congrArg some List.map_map)

/-- The minor units of the incomes or of the expenses. -/
def minorTotal (transactions : List TransactionEntity) (isIncome : Bool) : ℤ :=
  ((transactions.filter fun transaction => transaction.isIncome == isIncome).map
    TransactionEntity.amountMinor).sum

/-- **The `Double` of a point** holds the minor units of its transactions. -/
theorem abs_total_sub_lt {isIncome : Bool}
    (h : (transactions.filter fun transaction => transaction.isIncome == isIncome).length *
      volume ((transactions.filter fun transaction => transaction.isIncome == isIncome).map
        TransactionEntity.amountMinor) ≤ 2 ^ 48) :
    |total transactions isIncome - minorTotal transactions isIncome / 100| < 1 / 400 := by
  have hholds := @abs_sum_majorUnits_sub_lt
    ((transactions.filter fun transaction => transaction.isIncome == isIncome).map
      TransactionEntity.amountMinor) (by rwa [List.length_map])
  rwa [List.map_map] at hholds

/-- The months begin one after the other. -/
theorem monthStart_strictMono : StrictMono (monthStart offset now months) := by
  intro k l hkl
  exact JavaTime.plusMonths_strictMono offset _ (by exact_mod_cast hkl)

/-- No month is empty. -/
theorem monthStart_lt_monthEnd (k : ℕ) :
    monthStart offset now months k < monthEnd offset now months k := by
  have hmonth : JavaTime.plusMonths offset 0 (monthStart offset now months k) <
      monthEnd offset now months k :=
    JavaTime.plusMonths_strictMono offset _ (show (0 : ℤ) < 1 by decide)
  rwa [JavaTime.plusMonths_zero] at hmonth

/-- A month begins at the time of day of `now`, on a day that is cut to its month. -/
theorem monthStart_eq (k : ℕ) :
    monthStart offset now months k =
      JavaTime.withDate offset now ((startDate offset now months).plusMonths k) := by
  rw [monthStart, JavaTime.plusMonths, JavaTime.plusMonths, JavaTime.localDate_withDate,
    JavaTime.withDate_withDate, startDate]

/-- A month ends at the time of day of `now`; its day has been cut twice. -/
theorem monthEnd_eq (k : ℕ) :
    monthEnd offset now months k =
      JavaTime.withDate offset now
        (((startDate offset now months).plusMonths k).plusMonths 1) := by
  rw [monthEnd, JavaTime.plusMonths, monthStart_eq, JavaTime.localDate_withDate,
    JavaTime.withDate_withDate]

/-- A month is over when the next one begins. -/
theorem monthEnd_le_monthStart_succ (k : ℕ) :
    monthEnd offset now months k ≤ monthStart offset now months (k + 1) := by
  rw [monthEnd_eq, monthStart_eq, JavaTime.withDate_le_iff, Nat.cast_succ]
  exact LocalDate.toEpochDay_plusMonths_plusMonths_le _ k 1

/-- A month ends where the next one begins just when it is not shorter than the next one's
first day. -/
theorem monthEnd_eq_monthStart_succ_iff (k : ℕ) :
    monthEnd offset now months k = monthStart offset now months (k + 1) ↔
      min (startDate offset now months).day
          (lengthOfMonth ((startDate offset now months).monthIndex + (k + 1))) ≤
        lengthOfMonth ((startDate offset now months).monthIndex + k) := by
  rw [monthEnd_eq, monthStart_eq, JavaTime.withDate_inj, Nat.cast_succ]
  exact LocalDate.plusMonths_plusMonths_eq_iff

/-! ### The period -/

/-- The time from the start of the first month to the end of the last. -/
def inPeriod (offset now : ℤ) (months : ℕ) (transaction : TransactionEntity) : Bool :=
  within (monthStart offset now months 0) (monthEnd offset now months (months - 1))
    transaction.timestampUtcMillis

/-- In how many months a transaction is counted. -/
def timesCounted (offset now : ℤ) (months : ℕ) (transactions : List TransactionEntity)
    (transaction : TransactionEntity) : ℕ :=
  (List.range months).countP fun k =>
    decide (transaction ∈ monthTransactions transactions (monthStart offset now months k)
      (monthEnd offset now months k))

/-- Each month ends where the next one begins; the points of the chart are those of the months, a
transaction of the period is counted in exactly one of them, and their sums are those of the
period. -/
def TilesPeriod (offset now : ℤ) (months : ℕ) : Prop :=
  (∀ k, k + 1 < months →
      monthEnd offset now months k = monthStart offset now months (k + 1)) ∧
    ∀ transactions : List TransactionEntity,
      monthlyTrendData (.gregorian offset) now months transactions =
        some (monthlyPoints offset now months transactions) ∧
      (∀ transaction ∈ transactions, inPeriod offset now months transaction = true →
        timesCounted offset now months transactions transaction = 1) ∧
      ∀ isIncome, ((List.range months).map fun k =>
          minorTotal (monthTransactions transactions (monthStart offset now months k)
            (monthEnd offset now months k)) isIncome).sum =
        minorTotal (transactions.filter (inPeriod offset now months)) isIncome

/-- The windows of the months. -/
def monthWindows (offset now : ℤ) (months : ℕ) : List (TransactionEntity → Bool) :=
  (List.range months).map fun k transaction =>
    within (monthStart offset now months k) (monthEnd offset now months k)
      transaction.timestampUtcMillis

/-- The hits of the windows are the months that a timestamp is within. -/
theorem hits_monthWindows (offset now : ℤ) (months : ℕ) (transaction : TransactionEntity) :
    hits (monthWindows offset now months) transaction =
      (List.range months).countP fun k =>
        within (monthStart offset now months k) (monthEnd offset now months k)
          transaction.timestampUtcMillis := by
  rw [hits, monthWindows, List.countP_map]
  rfl

/-- A transaction of the list is counted as often as the windows hit it. -/
theorem timesCounted_eq_hits (h : transaction ∈ transactions) :
    timesCounted offset now months transactions transaction =
      hits (monthWindows offset now months) transaction := by
  rw [timesCounted, hits_monthWindows]
  apply List.countP_congr
  intro k _
  rw [decide_eq_true_iff, monthTransactions, List.mem_filter]
  exact ⟨And.right, fun hwithin => ⟨h, hwithin⟩⟩

/-- A sum over a window. -/
theorem minorTotal_filter (window : TransactionEntity → Bool) (isIncome : Bool) :
    minorTotal (transactions.filter window) isIncome =
      sum TransactionEntity.amountMinor
        (transactions.filter fun transaction => transaction.isIncome == isIncome) window := by
  rw [minorTotal, List.filter_comm]
  rfl

/-- **No transaction is counted twice.** -/
theorem timesCounted_le_one (h : transaction ∈ transactions) :
    timesCounted offset now months transactions transaction ≤ 1 := by
  rw [timesCounted_eq_hits h, hits_monthWindows]
  exact countP_disjoint monthStart_strictMono.monotone monthEnd_le_monthStart_succ months _

/-- Months that meet count what lies in the period, and nothing else. -/
theorem hits_of_consecutive (hmonths : 1 ≤ months)
    (hmeet : ∀ k, k + 1 < months →
      monthEnd offset now months k = monthStart offset now months (k + 1))
    (transaction : TransactionEntity) :
    hits (monthWindows offset now months) transaction =
      if inPeriod offset now months transaction then 1 else 0 := by
  obtain ⟨n, rfl⟩ := Nat.exists_eq_add_of_le' hmonths
  rw [hits_monthWindows]
  exact countP_consecutive monthStart_strictMono.monotone (monthStart_lt_monthEnd n).le
    (fun k hk => hmeet k (by omega)) _

/-- **The months tile the period** just when no month is shorter than the day on which the
next one begins. -/
theorem tilesPeriod_iff (hmonths : 1 ≤ months) :
    TilesPeriod offset now months ↔
      ∀ k : ℕ, k + 1 < months →
        min (startDate offset now months).day
            (lengthOfMonth ((startDate offset now months).monthIndex + (k + 1))) ≤
          lengthOfMonth ((startDate offset now months).monthIndex + k) := by
  constructor
  · rintro ⟨hmeet, -⟩ k hk
    exact (monthEnd_eq_monthStart_succ_iff k).mp (hmeet k hk)
  · intro hlong
    have hmeet : ∀ k, k + 1 < months →
        monthEnd offset now months k = monthStart offset now months (k + 1) := fun k hk =>
      (monthEnd_eq_monthStart_succ_iff k).mpr (hlong k hk)
    have hhits := hits_of_consecutive hmonths hmeet
    refine ⟨hmeet, fun transactions => ⟨monthlyTrendData_gregorian, ?_, ?_⟩⟩
    · intro transaction hmem hperiod
      rw [timesCounted_eq_hits hmem, hhits, if_pos hperiod]
    · intro isIncome
      have hsums := @sum_windows_eq _ _ _ (monthWindows offset now months)
        (inPeriod offset now months)
        (transactions.filter fun transaction => transaction.isIncome == isIncome)
        TransactionEntity.amountMinor fun transaction _ => hhits transaction
      rw [monthWindows, List.map_map] at hsums
      rw [minorTotal_filter, ← hsums]
      congr 1
      apply List.map_congr_left
      intro k _
      exact minorTotal_filter _ isIncome

/-- On a day that every month has, the months tile the period. -/
theorem tilesPeriod_fifteenth : TilesPeriod 0 1700049600000 12 := by
  refine (tilesPeriod_iff (by decide)).mpr ?_
  intro k _
  have hday : (startDate 0 1700049600000 12).day = 15 := by decide
  have hlength := lengthOfMonth_bounds ((startDate 0 1700049600000 12).monthIndex + k)
  omega

/-- A ticket that was paid on 30 March 2024. -/
def ticket : TransactionEntity :=
  { id := 1
    amountMinor := 500
    timestampUtcMillis := 1711800000000
    note := none
    categoryId := 0
    accountId := 0
    isIncome := false }

/-- On 31 January 2025 the third month of the chart begins on 31 March 2024, but the second
one ends on the 29th: the ticket is in no month. -/
theorem not_tilesPeriod_january : ¬TilesPeriod 0 1738324800000 12 := by
  rintro ⟨-, hall⟩
  obtain ⟨-, honce, -⟩ := hall [ticket]
  exact absurd (honce ticket (List.mem_singleton_self ticket) (by decide)) (by decide)

end SpendCraft.Ios.TransactionsViewModel
