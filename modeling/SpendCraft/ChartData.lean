import SpendCraft.CategoriesTab
import SpendCraft.Ios.BudgetAgreement
import SpendCraft.Lib.Windows

/-!
# The Trend Chart of the Android App

`prepareChartData` takes one instant for each point of the chart and counts the transactions
that are less than a day away from it, before or after. The instants are a day apart for a
week and a month, so that most transactions are counted twice, and thirty days apart for a
year, so that most are not counted at all.

The sums of the chart are `Double`s. What is said about sums here is said about minor units,
which the `Double`s hold as long as a sum is not too large for its number of terms.

## Points and ages

The loop puts each new point in front, so that `chartPoints` is the list of the days from the last
one back. `CountsOnce` is about the chart: it asks that its points are these, and that they count
each transaction of the period once. When that is so is said by the *age* of a transaction, the time
from its timestamp up to now.

## Conventions

A point of the chart is an instant, `days` before now, and `prepareChartData` makes two lists of
points, one for each type, under labels that a date format writes; the format is a parameter. The
instants and the amounts are those of the source: milliseconds, and a `Double` that is rounded
after every addition (`Lib.Binary64Sum`).

## Proof

The transactions near the points are windows over the ages (`Lib.Windows`). Points that are a day
apart have windows that overlap, so an age in the middle of a day is in two of them; points that
are thirty days apart have gaps. `countsOnce_iff` puts this together with the age of each
transaction.

## Main results

* `prepareChartData_eq`: the points of the chart.
* `abs_sumOf_sub_lt`: the `Double` of a point holds the minor units of its transactions.
* `hits_dayWindows_eq_one_iff`, `hits_dayWindows_of_not_inPeriod`: how often a transaction is
  counted.
* `countsOnce_iff`: when every transaction of the period is counted once.
-/

namespace SpendCraft

open Kotlin Windows

/-! ### The chart -/

/-- The periods of the chart. -/
inductive ReportPeriod
  | week
  | month
  | year
  deriving DecidableEq, Repr

namespace ReportPeriod

/-- How many days the chart goes back. -/
def daysBack : ReportPeriod → ℕ
  | week => 7
  | month => 30
  | year => 365

/-- The days from one point to the next. -/
def step : ReportPeriod → ℕ
  | week => 1
  | month => 1
  | year => 30

/-- `0 until daysBack step step` -/
def days (period : ReportPeriod) : List ℕ :=
  (List.range ((period.daysBack + period.step - 1) / period.step)).map (· * period.step)

end ReportPeriod

namespace IOSReportsScreen

/-- The instant of a point, a number of days before now. -/
def dayMillis (now : ℤ) (i : ℕ) : ℤ :=
  now - i * 24 * 60 * 60 * 1000

/-- Less than a day away. -/
def isNear (dayMillis timestampUtcMillis : ℤ) : Bool :=
  decide (|timestampUtcMillis - dayMillis| < 24 * 60 * 60 * 1000)

/-- The transactions of a type that are near a point. -/
def dayTransactions (transactions : List Transaction) (type : TransactionType)
    (dayMillis : ℤ) : List Transaction :=
  (transactions.filter fun tx => tx.type == type).filter fun tx =>
    isNear dayMillis tx.timestampUtcMillis

/-- `sumOf { it.amount.minorUnits / 100.0 }` -/
def sumOf (transactions : List Transaction) : ℚ :=
  Binary64.sum (transactions.map fun tx => inMajorUnits tx.amount.minorUnits.toInt)

/-- The points for income and for expense, the oldest first. `dateFormat` makes their labels. -/
def prepareChartData (dateFormat : ReportPeriod → ℤ → Text) (now : ℤ)
    (transactions : List Transaction) (period : ReportPeriod) :
    List (Text × ℚ) × List (Text × ℚ) :=
  period.days.foldl (fun (incomeData, expenseData) i =>
    let dayLabel := dateFormat period (dayMillis now i)
    let dayIncome := sumOf (dayTransactions transactions .income (dayMillis now i))
    let dayExpense := sumOf (dayTransactions transactions .expense (dayMillis now i))
    ((dayLabel, dayIncome) :: incomeData, (dayLabel, dayExpense) :: expenseData)) ([], [])

variable {now : ℤ} {period : ReportPeriod} {transactions : List Transaction} {tx : Transaction}

/-- The points of a type, the oldest first. -/
def chartPoints (dateFormat : ReportPeriod → ℤ → Text) (now : ℤ)
    (transactions : List Transaction) (period : ReportPeriod) (type : TransactionType) :
    List (Text × ℚ) :=
  (period.days.map fun i => (dateFormat period (dayMillis now i),
    sumOf (dayTransactions transactions type (dayMillis now i)))).reverse

/-- **The points** of the chart: the loop has them in the order of its days, from the end. -/
theorem prepareChartData_eq (dateFormat : ReportPeriod → ℤ → Text) (now : ℤ)
    (transactions : List Transaction) (period : ReportPeriod) :
    prepareChartData dateFormat now transactions period =
      (chartPoints dateFormat now transactions period .income,
        chartPoints dateFormat now transactions period .expense) := by
  rw [prepareChartData, chartPoints, chartPoints]
  induction period.days using List.reverseRecOn with
  | nil => rfl
  | append_singleton days i ih =>
      rw [List.foldl_append, ih, List.map_append, List.map_append, List.reverse_append,
        List.reverse_append]
      rfl

/-- The exact sum of the amounts. -/
def minorTotal (transactions : List Transaction) : ℤ :=
  (transactions.map fun tx => tx.amount.minorUnits.toInt).sum

/-- **The `Double` of a point** holds the minor units of its transactions. -/
theorem abs_sumOf_sub_lt
    (h : transactions.length *
      Ios.volume (transactions.map fun tx => tx.amount.minorUnits.toInt) ≤ 2 ^ 48) :
    |sumOf transactions - minorTotal transactions / 100| < 1 / 400 := by
  have hholds := @Ios.abs_sum_majorUnits_sub_lt
    (transactions.map fun tx => tx.amount.minorUnits.toInt) (by rwa [List.length_map])
  rw [List.map_map] at hholds
  exact hholds

/-! ### How often a transaction is counted -/

/-- The last 7, 30 or 365 days. -/
def inPeriod (now : ℤ) (period : ReportPeriod) (tx : Transaction) : Bool :=
  decide (now - period.daysBack * 86400000 < tx.timestampUtcMillis) &&
    decide (tx.timestampUtcMillis ≤ now)

/-- Less than a day in the future. -/
def isSoon (now : ℤ) (tx : Transaction) : Bool :=
  decide (now < tx.timestampUtcMillis) && decide (tx.timestampUtcMillis < now + 86400000)

/-- The ages of the period that are near one point. -/
def AtPoint (period : ReportPeriod) (age : ℤ) : Prop :=
  match period with
  | .week => age % 86400000 = 0 ∨ 6 * 86400000 ≤ age
  | .month => age % 86400000 = 0 ∨ 29 * 86400000 ≤ age
  | .year => 14 * 86400000 < (age + 15 * 86400000) % (30 * 86400000) ∧
      (age + 15 * 86400000) % (30 * 86400000) < 16 * 86400000

/-- In how many points a transaction is counted. -/
def timesCounted (now : ℤ) (period : ReportPeriod) (transactions : List Transaction)
    (tx : Transaction) : ℕ :=
  period.days.countP fun i =>
    decide (tx ∈ dayTransactions transactions tx.type (dayMillis now i))

/-- The points of the chart are those of the days; each transaction of the period is counted in
exactly one of them, and their sums are those of the period. -/
def CountsOnce (now : ℤ) (period : ReportPeriod) (transactions : List Transaction) : Prop :=
  (∀ dateFormat, prepareChartData dateFormat now transactions period =
      (chartPoints dateFormat now transactions period .income,
        chartPoints dateFormat now transactions period .expense)) ∧
    (∀ tx ∈ transactions, inPeriod now period tx = true →
      timesCounted now period transactions tx = 1) ∧
    ∀ type, (period.days.map fun i =>
        minorTotal (dayTransactions transactions type (dayMillis now i))).sum =
      minorTotal ((transactions.filter fun tx => tx.type == type).filter (inPeriod now period))

/-- The windows of the points. -/
def dayWindows (now : ℤ) (period : ReportPeriod) : List (Transaction → Bool) :=
  period.days.map fun i tx => isNear (dayMillis now i) tx.timestampUtcMillis

/-- A transaction of the list is counted as often as the windows hit it. -/
theorem timesCounted_eq_hits (h : tx ∈ transactions) :
    timesCounted now period transactions tx = hits (dayWindows now period) tx := by
  rw [timesCounted, hits, dayWindows, List.countP_map]
  apply List.countP_congr
  intro i _
  rw [decide_eq_true_iff, dayTransactions, List.mem_filter, List.mem_filter]
  exact ⟨And.right, fun hnear => ⟨⟨h, beq_self_eq_true tx.type⟩, hnear⟩⟩

/-- Points that are a day apart: a transaction between two of them is near both. -/
theorem countP_daily (n : ℕ) (age : ℤ) :
    (List.range n).countP (fun i : ℕ => decide (|age - i * 86400000| < 86400000)) =
      (if 0 ≤ age ∧ age < n * 86400000 then 1 else 0) +
        if age % 86400000 ≠ 0 ∧ -86400000 < age ∧ age < (n - 1) * 86400000 then 1 else 0 := by
  induction n with
  | zero =>
      rw [List.range_zero, List.countP_nil]
      split_ifs <;> omega
  | succ n ih =>
      rw [List.range_succ, List.countP_append, ih, List.countP_singleton]
      simp only [decide_eq_true_iff, abs_lt]
      push_cast
      split_ifs <;> omega

/-- Points that are thirty days apart: a transaction is near at most one of them. -/
theorem countP_monthly (n : ℕ) (age : ℤ) :
    (List.range n).countP (fun i : ℕ => decide (|age - i * 30 * 86400000| < 86400000)) =
      if -86400000 < age ∧ age < (n * 30 - 29) * 86400000 ∧
          14 * 86400000 < (age + 15 * 86400000) % (30 * 86400000) ∧
          (age + 15 * 86400000) % (30 * 86400000) < 16 * 86400000 then 1 else 0 := by
  induction n with
  | zero =>
      rw [List.range_zero, List.countP_nil]
      split_ifs <;> omega
  | succ n ih =>
      rw [List.range_succ, List.countP_append, ih, List.countP_singleton]
      simp only [decide_eq_true_iff, abs_lt]
      push_cast
      split_ifs <;> omega

/-- The hits of the points, as a count over the days. -/
theorem hits_dayWindows (now : ℤ) (period : ReportPeriod) (tx : Transaction) :
    hits (dayWindows now period) tx =
      (List.range ((period.daysBack + period.step - 1) / period.step)).countP fun i : ℕ =>
        decide (|now - tx.timestampUtcMillis - i * period.step * 86400000| < 86400000) := by
  rw [hits, dayWindows, ReportPeriod.days, List.map_map, List.countP_map]
  apply List.countP_congr
  intro i _
  have hage : tx.timestampUtcMillis - dayMillis now (i * period.step) =
      -(now - tx.timestampUtcMillis - i * period.step * 86400000) := by
    rw [dayMillis]
    push_cast
    ring
  simp only [Function.comp_apply, isNear, hage, abs_neg]
  rw [decide_eq_true_iff, decide_eq_true_iff]
  rfl

/-- The hits of a week or a month: one at each of the two points around a transaction. -/
theorem hits_dayWindows_of_daily (hstep : period.step = 1) (now : ℤ) (tx : Transaction) :
    hits (dayWindows now period) tx =
      (if 0 ≤ now - tx.timestampUtcMillis ∧
          now - tx.timestampUtcMillis < period.daysBack * 86400000 then 1 else 0) +
        if (now - tx.timestampUtcMillis) % 86400000 ≠ 0 ∧
          -86400000 < now - tx.timestampUtcMillis ∧
          now - tx.timestampUtcMillis < (period.daysBack - 1) * 86400000 then 1 else 0 := by
  rw [hits_dayWindows, hstep, Nat.add_sub_cancel, Nat.div_one, ← countP_daily]
  simp only [Nat.cast_one, mul_one]

/-- The hits of a year: one near a point, and none elsewhere. -/
theorem hits_dayWindows_year (now : ℤ) (tx : Transaction) :
    hits (dayWindows now .year) tx =
      if -86400000 < now - tx.timestampUtcMillis ∧
          now - tx.timestampUtcMillis < 361 * 86400000 ∧
          14 * 86400000 < (now - tx.timestampUtcMillis + 15 * 86400000) % (30 * 86400000) ∧
          (now - tx.timestampUtcMillis + 15 * 86400000) % (30 * 86400000) < 16 * 86400000 then 1
      else 0 := by
  rw [hits_dayWindows]
  exact countP_monthly 13 (now - tx.timestampUtcMillis)

/-- The ages of a period. -/
theorem inPeriod_eq_true_iff :
    inPeriod now period tx = true ↔
      0 ≤ now - tx.timestampUtcMillis ∧
        now - tx.timestampUtcMillis < period.daysBack * 86400000 := by
  rw [inPeriod, Bool.and_eq_true, decide_eq_true_iff, decide_eq_true_iff]
  omega

/-- The ages of the next day, which are negative. -/
theorem isSoon_eq_true_iff :
    isSoon now tx = true ↔
      -86400000 < now - tx.timestampUtcMillis ∧ now - tx.timestampUtcMillis < 0 := by
  rw [isSoon, Bool.and_eq_true, decide_eq_true_iff, decide_eq_true_iff]
  omega

/-- **In the period**, the transactions at the points are counted once. -/
theorem hits_dayWindows_eq_one_iff (h : inPeriod now period tx = true) :
    hits (dayWindows now period) tx = 1 ↔ AtPoint period (now - tx.timestampUtcMillis) := by
  rw [inPeriod_eq_true_iff] at h
  cases period with
  | week =>
      have hdays : (ReportPeriod.week.daysBack : ℤ) = 7 := rfl
      rw [hdays] at h
      rw [hits_dayWindows_of_daily rfl, hdays]
      simp only [AtPoint]
      split_ifs <;> omega
  | month =>
      have hdays : (ReportPeriod.month.daysBack : ℤ) = 30 := rfl
      rw [hdays] at h
      rw [hits_dayWindows_of_daily rfl, hdays]
      simp only [AtPoint]
      split_ifs <;> omega
  | year =>
      have hdays : (ReportPeriod.year.daysBack : ℤ) = 365 := rfl
      rw [hdays] at h
      rw [hits_dayWindows_year]
      constructor
      · intro hone
        split_ifs at hone with hnear
        exact hnear.2.2
      · intro hpoint
        rw [AtPoint] at hpoint
        exact if_pos ⟨by omega, by omega, hpoint⟩

/-- **Outside of the period**, the transactions of the next day are counted. -/
theorem hits_dayWindows_of_not_inPeriod (h : ¬inPeriod now period tx = true) :
    hits (dayWindows now period) tx = if isSoon now tx then 1 else 0 := by
  rw [inPeriod_eq_true_iff] at h
  simp only [isSoon_eq_true_iff]
  cases period with
  | week =>
      have hdays : (ReportPeriod.week.daysBack : ℤ) = 7 := rfl
      rw [hdays] at h
      rw [hits_dayWindows_of_daily rfl, hdays]
      split_ifs <;> omega
  | month =>
      have hdays : (ReportPeriod.month.daysBack : ℤ) = 30 := rfl
      rw [hdays] at h
      rw [hits_dayWindows_of_daily rfl, hdays]
      split_ifs <;> omega
  | year =>
      have hdays : (ReportPeriod.year.daysBack : ℤ) = 365 := rfl
      rw [hdays] at h
      rw [hits_dayWindows_year]
      split_ifs <;> omega

/-! ### The sums -/

/-- The sums of the points, as sums over the windows. -/
theorem minorTotal_dayTransactions (transactions : List Transaction) (type : TransactionType)
    (now : ℤ) (period : ReportPeriod) :
    (period.days.map fun i =>
        minorTotal (dayTransactions transactions type (dayMillis now i))).sum =
      ((dayWindows now period).map (sum (fun tx : Transaction => tx.amount.minorUnits.toInt)
        (transactions.filter fun tx => tx.type == type))).sum := by
  rw [dayWindows, List.map_map]
  rfl

/-- **What the points add** to the sum of a period whose transactions they count once. -/
theorem sum_minorTotal_of_once {type : TransactionType}
    (h : ∀ tx ∈ transactions, inPeriod now period tx = true →
      hits (dayWindows now period) tx = 1) :
    (period.days.map fun i =>
        minorTotal (dayTransactions transactions type (dayMillis now i))).sum =
      minorTotal ((transactions.filter fun tx => tx.type == type).filter (inPeriod now period)) +
        minorTotal ((transactions.filter fun tx => tx.type == type).filter (isSoon now)) := by
  have hhits : ∀ tx ∈ transactions.filter fun tx => tx.type == type,
      hits (dayWindows now period) tx =
        (if inPeriod now period tx then 1 else 0) + if isSoon now tx then 1 else 0 := by
    intro tx hmem
    by_cases hperiod : inPeriod now period tx = true
    · have hpast : ¬isSoon now tx = true := by
        rw [isSoon_eq_true_iff]
        rw [inPeriod_eq_true_iff] at hperiod
        omega
      rw [h tx (List.mem_filter.mp hmem).1 hperiod, if_pos hperiod, if_neg hpast]
    · rw [hits_dayWindows_of_not_inPeriod hperiod, if_neg hperiod, zero_add]
  rw [minorTotal_dayTransactions, sum_windows_eq_add _ hhits]
  rfl

/-- **Each transaction is counted once** just when those of the period are at the points, and
the amounts of the next day sum to zero, the incomes and the expenses each. -/
theorem countsOnce_iff :
    CountsOnce now period transactions ↔
      (∀ tx ∈ transactions, inPeriod now period tx = true →
          AtPoint period (now - tx.timestampUtcMillis)) ∧
        ∀ type, minorTotal
          ((transactions.filter fun tx => tx.type == type).filter (isSoon now)) = 0 := by
  have honce : (∀ tx ∈ transactions, inPeriod now period tx = true →
      timesCounted now period transactions tx = 1) ↔
      ∀ tx ∈ transactions, inPeriod now period tx = true →
        AtPoint period (now - tx.timestampUtcMillis) := by
    refine forall₂_congr fun tx hmem => ?_
    refine forall_congr' fun hperiod => ?_
    rw [timesCounted_eq_hits hmem, hits_dayWindows_eq_one_iff hperiod]
  rw [CountsOnce, honce]
  refine (and_iff_right fun dateFormat =>
    prepareChartData_eq dateFormat now transactions period).trans ?_
  refine and_congr_right fun hpoints => ?_
  refine forall_congr' fun type => ?_
  rw [sum_minorTotal_of_once fun tx hmem hperiod =>
    (hits_dayWindows_eq_one_iff hperiod).mpr (hpoints tx hmem hperiod)]
  omega

/-- A coffee twelve hours ago. -/
def coffee : Transaction :=
  { id := some 1
    amount := { minorUnits := 500 }
    timestampUtcMillis := 1700006400000
    note := none
    categoryId := none
    accountId := none
    type := .expense }

/-- The coffee is in the point of today and in that of yesterday. -/
theorem not_countsOnce_coffee : ¬CountsOnce 1700049600000 .week [coffee] := by
  rintro ⟨-, honce, -⟩
  exact absurd (honce coffee (List.mem_singleton_self coffee) (by decide)) (by decide)

end IOSReportsScreen

end SpendCraft
