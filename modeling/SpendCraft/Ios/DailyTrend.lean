import SpendCraft.DaySections
import SpendCraft.Ios.MonthlyTrend

/-!
# The Daily and Weekly Trends of the iOS App

`dailyTrendData` goes back the given number of days from the start of today, and its last day
is yesterday. `weeklyTrendData` goes back from now, and its last week ends now. A day or a week
ends one day or week after its own beginning by the clock: where the clock skips the time at
which it would begin, it begins and ends later, and shares the end with the next one.

## Clocks and buckets

A `WallClock` is any time zone: it gives the instant of each time on it and the first instant of
each day, and days of 23 or 25 hours are among its days. A chart is a list of points, one for each
of its *buckets*; a bucket has the transactions from its first instant up to and without its end.
`DailyCovers` and `WeeklyCovers` are about the charts: they ask that the points are those of the
buckets, and that the buckets cover the period from the start of the first one up to now.

## Proof

A list of buckets in their order, where each one reaches the next, is covered by its windows
(`Lib.Windows`): an element is counted once for the whole, and once more for each pair of
neighbours that share it. `Ordered` is what the clock has to give, and it is shown for days and
for weeks of any `WallClock`. The conditions `DailyClear` and `WeeklyClear` then name the times in
question: in what two buckets share, after the last one, and before now. That a transaction is in
the bucket of its own day is asked of the days only.

## Main results

* `timesCounted_eq`, `hits_eq_one_iff`: how often a transaction is counted.
* `coversPeriod_iff`: when the buckets of a chart cover a period.
* `trends_iff`: the two charts.
-/

namespace SpendCraft.Ios

open Windows

/-! ### Clocks -/

/-- A time zone with the instants of the times that its clock shows. A time that the clock skips
is made a later one of the same day. -/
structure WallClock extends Zone where
  instantOf : ℤ → ℤ
  monotone_instantOf : Monotone instantOf
  day_instantOf : ∀ time, toZone.day (instantOf time) = time / 86400000
  le_timeAt_instantOf : ∀ time, time ≤ instantOf time + offsetAt (instantOf time)
  firstInstant : ℤ → ℤ
  day_firstInstant : ∀ n, toZone.day (firstInstant n) = n
  firstInstant_le : ∀ millis, firstInstant (toZone.day millis) ≤ millis

namespace WallClock

/-- The time that the clock shows. -/
def timeAt (clock : WallClock) (millis : ℤ) : ℤ :=
  millis + clock.offsetAt millis

/-- `startOfDay(for:)` -/
def startOfDay (clock : WallClock) (millis : ℤ) : ℤ :=
  clock.firstInstant (clock.day millis)

/-- `date(byAdding: .day, value: n, to: date)`: the same time on another day. -/
def addDays (clock : WallClock) (n date : ℤ) : ℤ :=
  if n = 0 then date else clock.instantOf (clock.timeAt date + n * 86400000)

/-- `date(byAdding: .weekOfYear, value: n, to: date)` -/
def addWeeks (clock : WallClock) (n date : ℤ) : ℤ :=
  clock.addDays (7 * n) date

/-- A clock that is ahead of UTC by `offset` milliseconds. -/
def fixed (offset : ℤ) : WallClock :=
  { Zone.fixed offset with
    instantOf := fun time => time - offset
    monotone_instantOf := fun _ _ h => Int.sub_le_sub_right h offset
    day_instantOf := fun time => by
      rw [Zone.day, Zone.fixed, sub_add_cancel]
    le_timeAt_instantOf := fun time => by
      rw [Zone.fixed, sub_add_cancel]
    firstInstant := fun n => n * 86400000 - offset
    day_firstInstant := fun n => by
      rw [Zone.day, Zone.fixed, sub_add_cancel, Int.mul_ediv_cancel _ (by decide)]
    firstInstant_le := fun millis => by
      have hday : (Zone.fixed offset).day millis = (millis + offset) / 86400000 := rfl
      rw [hday]
      omega }

variable (clock : WallClock)

/-- Adding days goes that many days on, whatever the clock does on the way. -/
theorem day_addDays (n date : ℤ) : clock.day (clock.addDays n date) = clock.day date + n := by
  rw [addDays]
  split_ifs with hn
  · rw [hn, add_zero]
  · rw [clock.day_instantOf, timeAt, Int.add_mul_ediv_right _ _ (by decide), Zone.day]

/-- The start of a day lies on it. -/
theorem day_startOfDay (millis : ℤ) : clock.day (clock.startOfDay millis) = clock.day millis :=
  clock.day_firstInstant _

/-- Instants are in the order of their days. -/
theorem lt_of_day_lt {a b : ℤ} (h : clock.day a < clock.day b) : a < b := by
  by_contra hle
  exact absurd (clock.monotone_day (not_lt.mp hle)) (not_le.mpr h)

/-- Days begin with their first instants. -/
theorem firstInstant_le_iff {n millis : ℤ} :
    clock.firstInstant n ≤ millis ↔ n ≤ clock.day millis := by
  constructor
  · intro hle
    rw [← clock.day_firstInstant n]
    exact clock.monotone_day hle
  · intro hle
    obtain rfl | hlt := hle.eq_or_lt
    · exact clock.firstInstant_le millis
    · refine (clock.lt_of_day_lt ?_).le
      rwa [clock.day_firstInstant]

/-- Adding in two steps is not less than adding at once: only skipped times are moved. -/
theorem addDays_add_le {m n : ℤ} (hn : n ≠ 0) (hsum : m + n ≠ 0) (date : ℤ) :
    clock.addDays (m + n) date ≤ clock.addDays n (clock.addDays m date) := by
  have htime : clock.timeAt date + m * 86400000 ≤ clock.timeAt (clock.addDays m date) := by
    rw [addDays]
    split_ifs with hm
    · rw [hm, zero_mul, add_zero]
    · exact clock.le_timeAt_instantOf _
  rw [addDays, if_neg hsum, addDays.eq_def clock n, if_neg hn]
  apply clock.monotone_instantOf
  linarith

end WallClock

namespace TransactionsViewModel

/-! ### The charts -/

/-- The days before today, each from its start to one day later. No date is missing, so that the
`if let` of the loop always succeeds. -/
def dailyTrendData (clock : WallClock) (now : ℤ) (days : ℕ)
    (transactions : List TransactionEntity) : List (ℤ × ℚ × ℚ) :=
  let today := clock.startOfDay now
  let startDate := clock.addDays (-days) today
  (List.range days).map fun dayOffset : ℕ =>
    let date := clock.addDays dayOffset startDate
    let dayStart := clock.startOfDay date
    let dayEnd := clock.addDays 1 dayStart
    let dayTransactions := monthTransactions transactions dayStart dayEnd
    (dayStart, total dayTransactions true, total dayTransactions false)

/-- The weeks before now, each from its beginning to one week later. -/
def weeklyTrendData (clock : WallClock) (now : ℤ) (weeks : ℕ)
    (transactions : List TransactionEntity) : List (ℤ × ℚ × ℚ) :=
  let startDate := clock.addWeeks (-weeks) now
  (List.range weeks).map fun weekOffset : ℕ =>
    let weekStart := clock.addWeeks weekOffset startDate
    let weekEnd := clock.addWeeks 1 weekStart
    let weekTransactions := monthTransactions transactions weekStart weekEnd
    (weekStart, total weekTransactions true, total weekTransactions false)

/-- The buckets of a chart, with their first instants and their ends. -/
structure Buckets where
  count : ℕ
  start : ℕ → ℤ
  stop : ℕ → ℤ

namespace Buckets

variable (buckets : Buckets)

/-- The transactions of a bucket. -/
def bucket (transactions : List TransactionEntity) (k : ℕ) : List TransactionEntity :=
  monthTransactions transactions (buckets.start k) (buckets.stop k)

/-- The points of the chart. -/
def points (transactions : List TransactionEntity) : List (ℤ × ℚ × ℚ) :=
  (List.range buckets.count).map fun k =>
    (buckets.start k, total (buckets.bucket transactions k) true,
      total (buckets.bucket transactions k) false)

/-- In how many buckets a transaction is counted. -/
def timesCounted (transactions : List TransactionEntity) (transaction : TransactionEntity) : ℕ :=
  (List.range buckets.count).countP fun k =>
    decide (transaction ∈ buckets.bucket transactions k)

/-- From the start of the first bucket up to now. -/
def InPeriod (now : ℤ) (transaction : TransactionEntity) : Prop :=
  buckets.start 0 ≤ transaction.timestampUtcMillis ∧ transaction.timestampUtcMillis ≤ now

/-- Whether a transaction is in the period is decided by its time. -/
instance (now : ℤ) (transaction : TransactionEntity) :
    Decidable (buckets.InPeriod now transaction) :=
  inferInstanceAs (Decidable (_ ∧ _))

/-- **The buckets cover the period**: each of its transactions is counted once, and the sums of
the buckets are those of the period. -/
structure CoversPeriod (now : ℤ) (transactions : List TransactionEntity) : Prop where
  counted : ∀ transaction ∈ transactions, buckets.InPeriod now transaction →
    buckets.timesCounted transactions transaction = 1
  sums : ∀ isIncome, ((List.range buckets.count).map fun k =>
      minorTotal (buckets.bucket transactions k) isIncome).sum =
    minorTotal (transactions.filter fun transaction =>
      decide (buckets.InPeriod now transaction)) isIncome

/-- Dated after now, and before the end of the last bucket. -/
def Ahead (now : ℤ) (transaction : TransactionEntity) : Prop :=
  now < transaction.timestampUtcMillis ∧
    transaction.timestampUtcMillis < buckets.stop (buckets.count - 1)

/-- Whether a transaction lies ahead of the period is decided by its time. -/
instance (now : ℤ) (transaction : TransactionEntity) :
    Decidable (buckets.Ahead now transaction) :=
  inferInstanceAs (Decidable (_ ∧ _))

/-- In what a bucket shares with the next one. -/
def Shared (transaction : TransactionEntity) : Prop :=
  ∃ k, k + 1 < buckets.count ∧ buckets.start (k + 1) ≤ transaction.timestampUtcMillis ∧
    transaction.timestampUtcMillis < buckets.stop k

/-- Buckets in their order, where each one reaches the next, and only the last one reaches
beyond now. -/
structure Ordered (now : ℤ) : Prop where
  one_le : 1 ≤ buckets.count
  start_le : buckets.start 0 ≤ now
  monotone_start : Monotone buckets.start
  monotone_stop : Monotone buckets.stop
  start_le_stop : ∀ k, buckets.start k ≤ buckets.stop k
  reaches : ∀ k, buckets.start (k + 1) ≤ buckets.stop k
  past : ∀ k, k + 1 < buckets.count → buckets.stop k ≤ now

variable {buckets} {now : ℤ} {transactions : List TransactionEntity}
  {transaction : TransactionEntity}

/-- The windows of the buckets. -/
def windows (buckets : Buckets) : List (TransactionEntity → Bool) :=
  (List.range buckets.count).map fun k transaction =>
    within (buckets.start k) (buckets.stop k) transaction.timestampUtcMillis

/-- A transaction of the list is counted as often as the windows hit it. -/
theorem timesCounted_eq (h : transaction ∈ transactions) :
    buckets.timesCounted transactions transaction = hits buckets.windows transaction := by
  rw [timesCounted, hits, windows, List.countP_map]
  apply List.countP_congr
  intro k _
  rw [decide_eq_true_iff, bucket, monthTransactions, List.mem_filter, Function.comp_apply]
  exact ⟨And.right, fun hwithin => ⟨h, hwithin⟩⟩

/-- How often a bucket and the next one have a transaction both. -/
theorem countP_shared_eq_zero_iff {n : ℕ} (hn : buckets.count = n + 1) :
    (List.range n).countP (fun k =>
        within (buckets.start (k + 1)) (buckets.stop k) transaction.timestampUtcMillis) = 0 ↔
      ¬buckets.Shared transaction := by
  rw [List.countP_eq_zero, Shared, hn]
  simp only [List.mem_range, within_eq_true_iff]
  constructor
  · rintro hnone ⟨k, hk, hshared⟩
    exact hnone k (by omega) hshared
  · intro hnone k hk hshared
    exact hnone ⟨k, by omega, hshared⟩

namespace Ordered

variable (h : buckets.Ordered now)

include h

/-- A transaction is counted once for lying between the first start and the last end, and once
more for each two buckets that share it. -/
theorem hits_eq {n : ℕ} (hn : buckets.count = n + 1) (transaction : TransactionEntity) :
    hits buckets.windows transaction =
      (if within (buckets.start 0) (buckets.stop n) transaction.timestampUtcMillis then 1 else 0) +
        (List.range n).countP fun k =>
          within (buckets.start (k + 1)) (buckets.stop k) transaction.timestampUtcMillis := by
  rw [hits, windows, List.countP_map, hn]
  exact countP_overlapping h.monotone_start (h.start_le_stop n) (fun k _ => h.reaches k) _

/-- **A transaction of the period** is counted once just when the last bucket has not ended, and
no two buckets share it. -/
theorem hits_eq_one_iff (hperiod : buckets.InPeriod now transaction) :
    hits buckets.windows transaction = 1 ↔
      transaction.timestampUtcMillis < buckets.stop (buckets.count - 1) ∧
        ¬buckets.Shared transaction := by
  obtain ⟨n, hn⟩ := Nat.exists_eq_add_of_le' h.one_le
  rw [h.hits_eq hn, ← countP_shared_eq_zero_iff hn, hn, Nat.add_sub_cancel]
  simp only [within_eq_true_iff, hperiod.1, true_and]
  split_ifs with hlt
  · simp [hlt]
  · -- what is shared is before the end of the last bucket
    have hnone : ¬buckets.Shared transaction := by
      rintro ⟨k, hk, -, hstop⟩
      exact hlt (hstop.trans_le (h.monotone_stop (by omega)))
    simp [(countP_shared_eq_zero_iff hn).mpr hnone, hlt]

/-- Outside of the period, only the last bucket counts anything. -/
theorem hits_of_not_inPeriod (hperiod : ¬buckets.InPeriod now transaction) :
    hits buckets.windows transaction = if buckets.Ahead now transaction then 1 else 0 := by
  obtain ⟨n, hn⟩ := Nat.exists_eq_add_of_le' h.one_le
  have hnone : ¬buckets.Shared transaction := by
    rintro ⟨k, hk, hstart, hstop⟩
    have hfirst := h.monotone_start (Nat.zero_le (k + 1))
    have hpast := h.past k hk
    exact hperiod ⟨hfirst.trans hstart, (hstop.trans_le hpast).le⟩
  rw [h.hits_eq hn, (countP_shared_eq_zero_iff hn).mpr hnone, add_zero]
  have hiff : within (buckets.start 0) (buckets.stop n) transaction.timestampUtcMillis = true ↔
      buckets.Ahead now transaction := by
    have hstart := h.start_le
    rw [within_eq_true_iff, Ahead, hn, Nat.add_sub_cancel]
    rw [InPeriod] at hperiod
    omega
  simp only [hiff]

/-- Where each transaction of the period is counted once, the sums of the buckets are those of
the period and of what is ahead. -/
theorem sum_minorTotal_bucket (honce : ∀ transaction ∈ transactions,
    buckets.InPeriod now transaction → buckets.timesCounted transactions transaction = 1)
    (isIncome : Bool) :
    ((List.range buckets.count).map fun k =>
      minorTotal (buckets.bucket transactions k) isIncome).sum =
        minorTotal (transactions.filter fun transaction =>
          decide (buckets.InPeriod now transaction)) isIncome +
        minorTotal (transactions.filter fun transaction =>
          decide (buckets.Ahead now transaction)) isIncome := by
  have hadd := @sum_windows_eq_add _ _ _ buckets.windows
    (fun transaction => decide (buckets.InPeriod now transaction))
    (transactions.filter fun transaction => transaction.isIncome == isIncome)
    TransactionEntity.amountMinor (fun transaction => decide (buckets.Ahead now transaction)) ?_
  · rw [windows, List.map_map] at hadd
    rw [minorTotal_filter, minorTotal_filter, ← hadd]
    congr 1
    apply List.map_congr_left
    intro k _
    exact minorTotal_filter _ isIncome
  · intro transaction hmem
    have hmem := (List.mem_filter.mp hmem).1
    simp only [decide_eq_true_iff]
    by_cases hperiod : buckets.InPeriod now transaction
    · have hahead : ¬buckets.Ahead now transaction :=
        fun hahead => not_lt.mpr hperiod.2 hahead.1
      rw [← timesCounted_eq hmem, honce transaction hmem hperiod, if_pos hperiod, if_neg hahead]
    · rw [h.hits_of_not_inPeriod hperiod, if_neg hperiod, zero_add]

/-- **When the buckets cover the period.** -/
theorem coversPeriod_iff :
    buckets.CoversPeriod now transactions ↔
      (∀ transaction ∈ transactions, buckets.InPeriod now transaction →
        transaction.timestampUtcMillis < buckets.stop (buckets.count - 1) ∧
          ¬buckets.Shared transaction) ∧
        ∀ isIncome, minorTotal (transactions.filter fun transaction =>
          decide (buckets.Ahead now transaction)) isIncome = 0 := by
  have hcounted : (∀ transaction ∈ transactions, buckets.InPeriod now transaction →
      buckets.timesCounted transactions transaction = 1) ↔
        ∀ transaction ∈ transactions, buckets.InPeriod now transaction →
          transaction.timestampUtcMillis < buckets.stop (buckets.count - 1) ∧
            ¬buckets.Shared transaction := by
    apply forall₃_congr
    intro transaction hmem hperiod
    rw [timesCounted_eq hmem, h.hits_eq_one_iff hperiod]
  rw [← hcounted]
  constructor
  · rintro ⟨honce, hequal⟩
    refine ⟨honce, fun isIncome => ?_⟩
    have hsum := hequal isIncome
    rw [h.sum_minorTotal_bucket honce] at hsum
    exact add_eq_left.mp hsum
  · rintro ⟨honce, hzero⟩
    refine ⟨honce, fun isIncome => ?_⟩
    rw [h.sum_minorTotal_bucket honce, hzero isIncome, add_zero]

end Ordered

end Buckets

/-! ### Days -/

section Days

variable {clock : WallClock} {now : ℤ} {days : ℕ} {transactions : List TransactionEntity}
  {transaction : TransactionEntity}

/-- The buckets of `dailyTrendData`. -/
def dailyBuckets (clock : WallClock) (now : ℤ) (days : ℕ) : Buckets :=
  { count := days
    start := fun k =>
      clock.startOfDay (clock.addDays k (clock.addDays (-days) (clock.startOfDay now)))
    stop := fun k => clock.addDays 1
      (clock.startOfDay (clock.addDays k (clock.addDays (-days) (clock.startOfDay now)))) }

/-- The points of the daily trend are those of its buckets. -/
theorem dailyTrendData_eq :
    dailyTrendData clock now days transactions =
      (dailyBuckets clock now days).points transactions :=
  rfl

/-- The buckets are the days before today. -/
theorem start_dailyBuckets (k : ℕ) :
    (dailyBuckets clock now days).start k = clock.firstInstant (clock.day now - days + k) := by
  change clock.firstInstant (clock.day _) = _
  rw [clock.day_addDays, clock.day_addDays, clock.day_startOfDay, sub_eq_add_neg]

/-- A bucket ends one day after the first instant of its day. -/
theorem stop_dailyBuckets (k : ℕ) :
    (dailyBuckets clock now days).stop k =
      clock.addDays 1 (clock.firstInstant (clock.day now - days + k)) := by
  rw [← start_dailyBuckets]
  rfl

/-- A bucket ends on the next day, if not with its first instant. -/
theorem day_stop_dailyBuckets (k : ℕ) :
    clock.day ((dailyBuckets clock now days).stop k) = clock.day now - days + k + 1 := by
  rw [stop_dailyBuckets, clock.day_addDays, clock.day_firstInstant]

/-- The days are in their order, and the last of them ends today. -/
theorem ordered_dailyBuckets (hdays : 1 ≤ days) : (dailyBuckets clock now days).Ordered now where
  one_le := hdays
  start_le := by
    rw [start_dailyBuckets, clock.firstInstant_le_iff]
    omega
  monotone_start := by
    intro k l hkl
    rw [start_dailyBuckets, start_dailyBuckets, clock.firstInstant_le_iff, clock.day_firstInstant]
    omega
  monotone_stop := by
    intro k l hkl
    obtain rfl | hlt := hkl.eq_or_lt
    · exact le_rfl
    · refine (clock.lt_of_day_lt ?_).le
      rw [day_stop_dailyBuckets, day_stop_dailyBuckets]
      omega
  start_le_stop k := by
    rw [start_dailyBuckets, clock.firstInstant_le_iff, day_stop_dailyBuckets]
    omega
  reaches k := by
    rw [start_dailyBuckets, clock.firstInstant_le_iff, day_stop_dailyBuckets]
    omega
  past k hk := by
    refine (clock.lt_of_day_lt ?_).le
    rw [day_stop_dailyBuckets]
    change k + 1 < days at hk
    omega

/-- What the end of a day that its predecessor reaches into is. -/
theorem shared_dailyBuckets_iff (hperiod : (dailyBuckets clock now days).InPeriod now transaction)
    (hpast : clock.day transaction.timestampUtcMillis < clock.day now) :
    (dailyBuckets clock now days).Shared transaction ↔
      clock.day transaction.timestampUtcMillis ≠ clock.day now - days ∧
        transaction.timestampUtcMillis <
          clock.addDays 1 (clock.firstInstant
            (clock.day transaction.timestampUtcMillis - 1)) := by
  have hfirst := hperiod.1
  rw [start_dailyBuckets, clock.firstInstant_le_iff] at hfirst
  constructor
  · rintro ⟨k, -, hge, hlt⟩
    have hday := clock.monotone_day hlt.le
    rw [start_dailyBuckets, clock.firstInstant_le_iff] at hge
    change clock.day _ ≤ clock.day _ at hday
    rw [day_stop_dailyBuckets] at hday
    rw [stop_dailyBuckets] at hlt
    have hprevious : clock.day transaction.timestampUtcMillis - 1 = clock.day now - days + k := by
      push_cast at hge
      omega
    rw [hprevious]
    exact ⟨by omega, hlt⟩
  · rintro ⟨hne, hlt⟩
    obtain ⟨k, hk⟩ : ∃ k : ℕ,
        clock.day transaction.timestampUtcMillis - 1 = clock.day now - days + k :=
      ⟨(clock.day transaction.timestampUtcMillis - 1 - (clock.day now - days)).toNat, by omega⟩
    refine ⟨k, ?_, ?_, ?_⟩
    · change k + 1 < days
      omega
    · rw [start_dailyBuckets, clock.firstInstant_le_iff]
      push_cast
      omega
    · rwa [stop_dailyBuckets, ← hk]

/-- **The daily trend covers the period up to now**, and each transaction of it is counted in the
bucket of its own day. -/
structure DailyCovers (clock : WallClock) (now : ℤ) (days : ℕ)
    (transactions : List TransactionEntity) : Prop where
  points : dailyTrendData clock now days transactions =
    (dailyBuckets clock now days).points transactions
  covers : (dailyBuckets clock now days).CoversPeriod now transactions
  ownDay : ∀ transaction ∈ transactions, (dailyBuckets clock now days).InPeriod now transaction →
    ∃ k < days,
      (dailyBuckets clock now days).start k = clock.startOfDay transaction.timestampUtcMillis ∧
        transaction ∈ (dailyBuckets clock now days).bucket transactions k

/-- No transaction of the period is dated today, or when the day before was still reaching into
its day; and what is dated ahead and counted sums to zero. -/
structure DailyClear (clock : WallClock) (now : ℤ) (days : ℕ)
    (transactions : List TransactionEntity) : Prop where
  past : ∀ transaction ∈ transactions, (dailyBuckets clock now days).InPeriod now transaction →
    clock.day transaction.timestampUtcMillis < clock.day now
  unshared : ∀ transaction ∈ transactions,
    (dailyBuckets clock now days).InPeriod now transaction →
      clock.day transaction.timestampUtcMillis = clock.day now - days ∨
        clock.addDays 1 (clock.firstInstant (clock.day transaction.timestampUtcMillis - 1)) ≤
          transaction.timestampUtcMillis
  ahead : ∀ isIncome, minorTotal (transactions.filter fun transaction =>
    decide ((dailyBuckets clock now days).Ahead now transaction)) isIncome = 0

/-- **The daily trend** covers the period just when nothing is dated where its buckets are not. -/
theorem dailyCovers_iff (hdays : 1 ≤ days) :
    DailyCovers clock now days transactions ↔ DailyClear clock now days transactions := by
  have hordered := @ordered_dailyBuckets clock now days hdays
  constructor
  · rintro ⟨-, hcovers, hown⟩
    obtain ⟨hcounted, hahead⟩ := hordered.coversPeriod_iff.mp hcovers
    have hpast : ∀ transaction ∈ transactions,
        (dailyBuckets clock now days).InPeriod now transaction →
          clock.day transaction.timestampUtcMillis < clock.day now := by
      intro transaction hmem hperiod
      obtain ⟨k, hk, hstart, -⟩ := hown transaction hmem hperiod
      have hday := congrArg clock.day hstart
      rw [start_dailyBuckets, clock.day_firstInstant, clock.day_startOfDay] at hday
      omega
    refine ⟨hpast, fun transaction hmem hperiod => ?_, hahead⟩
    have hunshared := (hcounted transaction hmem hperiod).2
    rw [shared_dailyBuckets_iff hperiod (hpast transaction hmem hperiod), not_and_or, not_not,
      not_lt] at hunshared
    exact hunshared
  · rintro ⟨hpast, hunshared, hahead⟩
    refine ⟨dailyTrendData_eq,
      hordered.coversPeriod_iff.mpr ⟨fun transaction hmem hperiod => ⟨?_, ?_⟩, hahead⟩,
      fun transaction hmem hperiod => ?_⟩
    · apply clock.lt_of_day_lt
      have hlt := hpast transaction hmem hperiod
      rw [day_stop_dailyBuckets]
      change _ < clock.day now - days + ((days - 1 : ℕ) : ℤ) + 1
      omega
    · rw [shared_dailyBuckets_iff hperiod (hpast transaction hmem hperiod), not_and_or, not_not,
        not_lt]
      exact hunshared transaction hmem hperiod
    · have hlt := hpast transaction hmem hperiod
      have hfirst := hperiod.1
      rw [start_dailyBuckets, clock.firstInstant_le_iff] at hfirst
      obtain ⟨k, hk⟩ : ∃ k : ℕ,
          clock.day transaction.timestampUtcMillis = clock.day now - days + k :=
        ⟨(clock.day transaction.timestampUtcMillis - (clock.day now - days)).toNat, by omega⟩
      refine ⟨k, by omega, ?_, List.mem_filter.mpr ⟨hmem, within_eq_true_iff.mpr ⟨?_, ?_⟩⟩⟩
      · rw [start_dailyBuckets, WallClock.startOfDay, hk]
      · rw [start_dailyBuckets, clock.firstInstant_le_iff, hk]
      · apply clock.lt_of_day_lt
        rw [day_stop_dailyBuckets, hk]
        omega

end Days

/-! ### Weeks -/

section Weeks

variable {clock : WallClock} {now : ℤ} {weeks : ℕ} {transactions : List TransactionEntity}

/-- The buckets of `weeklyTrendData`. -/
def weeklyBuckets (clock : WallClock) (now : ℤ) (weeks : ℕ) : Buckets :=
  { count := weeks
    start := fun k => clock.addWeeks k (clock.addWeeks (-weeks) now)
    stop := fun k => clock.addWeeks 1 (clock.addWeeks k (clock.addWeeks (-weeks) now)) }

/-- The points of the weekly trend are those of its buckets. -/
theorem weeklyTrendData_eq :
    weeklyTrendData clock now weeks transactions =
      (weeklyBuckets clock now weeks).points transactions :=
  rfl

/-- The weeks begin on the day of the week that now is on. -/
theorem day_start_weeklyBuckets (k : ℕ) :
    clock.day ((weeklyBuckets clock now weeks).start k) = clock.day now - 7 * weeks + 7 * k := by
  change clock.day (clock.addWeeks _ (clock.addWeeks _ _)) = _
  rw [WallClock.addWeeks, WallClock.addWeeks, clock.day_addDays, clock.day_addDays]
  ring

/-- A week ends on the day on which the next one begins. -/
theorem day_stop_weeklyBuckets (k : ℕ) :
    clock.day ((weeklyBuckets clock now weeks).stop k) =
      clock.day now - 7 * weeks + 7 * k + 7 := by
  rw [← day_start_weeklyBuckets]
  exact clock.day_addDays (7 * 1) _

/-- The weeks are in their order, and only the last of them can end after now. -/
theorem ordered_weeklyBuckets (hweeks : 1 ≤ weeks) :
    (weeklyBuckets clock now weeks).Ordered now where
  one_le := hweeks
  start_le := by
    refine (clock.lt_of_day_lt ?_).le
    rw [day_start_weeklyBuckets]
    omega
  monotone_start := by
    intro k l hkl
    obtain rfl | hlt := hkl.eq_or_lt
    · exact le_rfl
    · refine (clock.lt_of_day_lt ?_).le
      rw [day_start_weeklyBuckets, day_start_weeklyBuckets]
      omega
  monotone_stop := by
    intro k l hkl
    obtain rfl | hlt := hkl.eq_or_lt
    · exact le_rfl
    · refine (clock.lt_of_day_lt ?_).le
      rw [day_stop_weeklyBuckets, day_stop_weeklyBuckets]
      omega
  start_le_stop k := by
    refine (clock.lt_of_day_lt ?_).le
    rw [day_start_weeklyBuckets, day_stop_weeklyBuckets]
    omega
  reaches k := by
    have hsteps := clock.addDays_add_le (m := 7 * k) (n := 7) (by decide) (by omega)
      (clock.addWeeks (-weeks) now)
    have hsum : (7 * ((k + 1 : ℕ) : ℤ)) = 7 * k + 7 := by
      push_cast
      ring
    change clock.addDays (7 * ((k + 1 : ℕ) : ℤ)) _ ≤ _
    rw [hsum]
    exact hsteps
  past k hk := by
    refine (clock.lt_of_day_lt ?_).le
    rw [day_stop_weeklyBuckets]
    change k + 1 < weeks at hk
    omega

/-- A week whose first time is not skipped by the clock ends where the next one begins. -/
theorem stop_weeklyBuckets_eq {k : ℕ}
    (hshown : clock.timeAt ((weeklyBuckets clock now weeks).start k) =
      clock.timeAt (clock.addWeeks (-weeks) now) + 7 * k * 86400000) :
    (weeklyBuckets clock now weeks).stop k = (weeklyBuckets clock now weeks).start (k + 1) := by
  change clock.addDays (7 * 1) ((weeklyBuckets clock now weeks).start k) =
    clock.addDays (7 * ((k + 1 : ℕ) : ℤ)) (clock.addWeeks (-weeks) now)
  rw [WallClock.addDays, WallClock.addDays, if_neg (by decide), if_neg (by omega), hshown]
  congr 1
  push_cast
  ring

/-- **The weekly trend covers the period up to now.** -/
structure WeeklyCovers (clock : WallClock) (now : ℤ) (weeks : ℕ)
    (transactions : List TransactionEntity) : Prop where
  points : weeklyTrendData clock now weeks transactions =
    (weeklyBuckets clock now weeks).points transactions
  covers : (weeklyBuckets clock now weeks).CoversPeriod now transactions

/-- No transaction of the period is dated when the last week has ended, or in what two weeks
share; and what is dated ahead and counted sums to zero. -/
structure WeeklyClear (clock : WallClock) (now : ℤ) (weeks : ℕ)
    (transactions : List TransactionEntity) : Prop where
  past : ∀ transaction ∈ transactions, (weeklyBuckets clock now weeks).InPeriod now transaction →
    transaction.timestampUtcMillis <
      clock.addWeeks 1 (clock.addWeeks (weeks - 1 : ℕ) (clock.addWeeks (-weeks) now))
  unshared : ∀ transaction ∈ transactions,
    (weeklyBuckets clock now weeks).InPeriod now transaction →
      ¬(weeklyBuckets clock now weeks).Shared transaction
  ahead : ∀ isIncome, minorTotal (transactions.filter fun transaction =>
    decide ((weeklyBuckets clock now weeks).Ahead now transaction)) isIncome = 0

/-- **The weekly trend** covers the period just when nothing is dated where its buckets are not. -/
theorem weeklyCovers_iff (hweeks : 1 ≤ weeks) :
    WeeklyCovers clock now weeks transactions ↔ WeeklyClear clock now weeks transactions := by
  have hcovers : (weeklyBuckets clock now weeks).CoversPeriod now transactions ↔ _ :=
    (ordered_weeklyBuckets hweeks).coversPeriod_iff
  constructor
  · rintro ⟨-, h⟩
    obtain ⟨hcounted, hahead⟩ := hcovers.mp h
    exact ⟨fun transaction hmem hperiod => (hcounted transaction hmem hperiod).1,
      fun transaction hmem hperiod => (hcounted transaction hmem hperiod).2, hahead⟩
  · rintro ⟨hpast, hunshared, hahead⟩
    exact ⟨weeklyTrendData_eq, hcovers.mpr ⟨fun transaction hmem hperiod =>
      ⟨hpast transaction hmem hperiod, hunshared transaction hmem hperiod⟩, hahead⟩⟩

end Weeks

/-! ### Both charts -/

variable {clock : WallClock} {offset now : ℤ} {days weeks : ℕ}
  {transactions : List TransactionEntity}

/-- **When the two trends cover the period up to now.** -/
theorem trends_iff (hdays : 1 ≤ days) (hweeks : 1 ≤ weeks) :
    (DailyCovers clock now days transactions ↔ DailyClear clock now days transactions) ∧
      (WeeklyCovers clock now weeks transactions ↔
        WeeklyClear clock now weeks transactions) :=
  ⟨dailyCovers_iff hdays, weeklyCovers_iff hweeks⟩

/-- A clock that is never changed adds days of 24 hours. -/
theorem addDays_fixed (n date : ℤ) :
    (WallClock.fixed offset).addDays n date = date + n * 86400000 := by
  rw [WallClock.addDays]
  split_ifs with hn
  · rw [hn, zero_mul, add_zero]
  · have htime : (WallClock.fixed offset).instantOf
        ((WallClock.fixed offset).timeAt date + n * 86400000) =
          date + offset + n * 86400000 - offset := rfl
    rw [htime]
    ring

/-- Where the clock is never changed, no transaction of today is counted by day. -/
theorem dailyClear_fixed_iff (hdays : 1 ≤ days) :
    DailyClear (.fixed offset) now days transactions ↔
      ∀ transaction ∈ transactions,
        (dailyBuckets (.fixed offset) now days).InPeriod now transaction →
          (WallClock.fixed offset).day transaction.timestampUtcMillis <
            (WallClock.fixed offset).day now := by
  have hnext : ∀ n, (WallClock.fixed offset).addDays 1
      ((WallClock.fixed offset).firstInstant (n - 1)) =
        (WallClock.fixed offset).firstInstant n := by
    intro n
    have hfirst : ∀ n, (WallClock.fixed offset).firstInstant n = n * 86400000 - offset :=
      fun _ => rfl
    rw [addDays_fixed, hfirst, hfirst]
    ring
  refine ⟨DailyClear.past, fun hpast => ⟨hpast, fun transaction _ _ => ?_, fun isIncome => ?_⟩⟩
  · rw [hnext]
    exact Or.inr ((WallClock.fixed offset).firstInstant_le _)
  · -- the last bucket ends where today begins
    have hnone : (transactions.filter fun transaction =>
        decide ((dailyBuckets (.fixed offset) now days).Ahead now transaction)) = [] := by
      rw [List.filter_eq_nil_iff]
      intro transaction _ hahead
      obtain ⟨hlt, hstop⟩ := of_decide_eq_true hahead
      have hlast : (WallClock.fixed offset).day now - days + ((days - 1 : ℕ) : ℤ) =
          (WallClock.fixed offset).day now - 1 := by
        omega
      change _ < (dailyBuckets (.fixed offset) now days).stop (days - 1) at hstop
      rw [stop_dailyBuckets, hlast, hnext] at hstop
      have hfirst := (WallClock.fixed offset).firstInstant_le now
      omega
    rw [hnone]
    rfl

/-- Where the clock is never changed, the weeks end now. -/
theorem weeklyClear_fixed_iff (hweeks : 1 ≤ weeks) :
    WeeklyClear (.fixed offset) now weeks transactions ↔
      ∀ transaction ∈ transactions,
        (weeklyBuckets (.fixed offset) now weeks).InPeriod now transaction →
          transaction.timestampUtcMillis < now := by
  have hstart : ∀ k, (weeklyBuckets (.fixed offset) now weeks).start k =
      now + (k - weeks) * (7 * 86400000) := by
    intro k
    change (WallClock.fixed offset).addWeeks _ ((WallClock.fixed offset).addWeeks _ _) = _
    rw [WallClock.addWeeks, WallClock.addWeeks, addDays_fixed, addDays_fixed]
    ring
  have hstop : ∀ k, (weeklyBuckets (.fixed offset) now weeks).stop k =
      (weeklyBuckets (.fixed offset) now weeks).start k + 7 * 86400000 := by
    intro k
    exact addDays_fixed (7 * 1) _
  have hlast : (weeklyBuckets (.fixed offset) now weeks).stop (weeks - 1) = now := by
    rw [hstop, hstart, Nat.cast_sub hweeks]
    push_cast
    ring
  have hnow : (WallClock.fixed offset).addWeeks 1 ((WallClock.fixed offset).addWeeks
      (weeks - 1 : ℕ) ((WallClock.fixed offset).addWeeks (-weeks) now)) = now := hlast
  constructor
  · intro h transaction hmem hperiod
    have hpast := h.past transaction hmem hperiod
    rwa [hnow] at hpast
  · intro hpast
    refine ⟨fun transaction hmem hperiod => ?_, fun transaction _ _ => ?_, fun isIncome => ?_⟩
    · rw [hnow]
      exact hpast transaction hmem hperiod
    · rintro ⟨k, -, hge, hlt⟩
      rw [hstart] at hge
      rw [hstop, hstart] at hlt
      push_cast at hge
      linarith
    · have hnone : (transactions.filter fun transaction =>
          decide ((weeklyBuckets (.fixed offset) now weeks).Ahead now transaction)) = [] := by
        rw [List.filter_eq_nil_iff]
        intro transaction _ hahead
        obtain ⟨hlt, hstop⟩ := of_decide_eq_true hahead
        change _ < (weeklyBuckets (.fixed offset) now weeks).stop (weeks - 1) at hstop
        rw [hlast] at hstop
        omega
      rw [hnone]
      rfl

/-- The ticket was paid eight days before. -/
theorem trends_ticket :
    (DailyCovers (.fixed 0) 1712491200000 30 [ticket] ↔
        DailyClear (.fixed 0) 1712491200000 30 [ticket]) ∧
      (WeeklyCovers (.fixed 0) 1712491200000 12 [ticket] ↔
        WeeklyClear (.fixed 0) 1712491200000 12 [ticket]) :=
  trends_iff (by decide) (by decide)

/-- An hour after the ticket was paid, no day of the week counts it. -/
theorem not_dailyCovers_ticket :
    (dailyBuckets (.fixed 0) 1711803600000 7).InPeriod 1711803600000 ticket ∧
      (dailyBuckets (.fixed 0) 1711803600000 7).timesCounted [ticket] ticket = 0 ∧
      ¬DailyCovers (.fixed 0) 1711803600000 7 [ticket] := by
  have hperiod : (dailyBuckets (.fixed 0) 1711803600000 7).InPeriod 1711803600000 ticket := by
    decide
  have hnone : (dailyBuckets (.fixed 0) 1711803600000 7).timesCounted [ticket] ticket = 0 := by
    decide
  refine ⟨hperiod, hnone, ?_⟩
  intro h
  have honce := h.covers.counted ticket (List.mem_singleton_self ticket) hperiod
  rw [hnone] at honce
  exact absurd honce (by decide)

end TransactionsViewModel

end SpendCraft.Ios
