import SpendCraft.BudgetBreaches
import SpendCraft.Lib.Windows
import SpendCraft.Recurring

/-!
# The Current Month

After a transaction is saved, `TransactionsViewModel` and `BudgetRepositoryImpl` each look at
the current month. The view model asks `java.util.Calendar`, which is in the time zone of the
device; the repository asks `java.time` in UTC.

The months of a calendar of the device may begin at any instant, so that nothing is assumed
of the time zone.

## Conventions

`DeviceCalendar` is what is asked of the calendar of the device: the year of the era and the month
of an instant, and the first instant of a month as setting the fields gives it. Years are counted
from one on, months from zero. A key is a text of the year and the month, without padding, and
`getMonthBoundaries` reads it back; a key that is no month would be an exception.

## Proof

The view model writes the key of the month and reads it again, and the first lemma says that this
gives the month of the calendar (`getMonthBoundaries_getCurrentMonth`). Then there are two windows
of instants, and the library `Windows` says when they agree about an instant: when it lies between
the two starts just if it lies between the two ends. For a fixed offset these are intervals of
that length, which contain instants as soon as the offset is not zero.

## Main results

* `getMonthBoundaries_getCurrentMonth`: the window of the view model.
* `sameMonth_iff`: which transactions are in both windows or in neither.
* `sameMonth_gregorian_iff`: with a clock ahead of UTC, the windows are different.
-/

namespace SpendCraft

open Kotlin Calendar Windows

/-! ### The calendar of the device -/

/-- `java.util.Calendar` in the time zone of the device, with its months. -/
structure DeviceCalendar extends JavaCalendar where
  /-- `get(YEAR)`, the year of the era. -/
  year : ℤ → ℤ
  /-- `get(MONTH)`, from zero on. -/
  month : ℤ → ℤ
  /-- What a calendar for the first instant is after `set(year, month, 1, 0, 0, 0)` and
  `set(MILLISECOND, 0)`. The era stays that of the instant. -/
  setFirst : ℤ → ℤ → ℤ → ℤ
  one_le_year : ∀ millis, 1 ≤ year millis
  month_nonneg : ∀ millis, 0 ≤ month millis

namespace DeviceCalendar

/-- The first instant of the month. -/
def startOfMonth (calendar : DeviceCalendar) (millis : ℤ) : ℤ :=
  calendar.setFirst millis (calendar.year millis) (calendar.month millis)

/-- The first instant of the next month. -/
def startOfNextMonth (calendar : DeviceCalendar) (millis : ℤ) : ℤ :=
  calendar.add .month (calendar.startOfMonth millis)

/-- A month is not empty. -/
theorem startOfMonth_lt (calendar : DeviceCalendar) (millis : ℤ) :
    calendar.startOfMonth millis < calendar.startOfNextMonth millis :=
  calendar.lt_add _ _

/-- The first of a month of the era of an instant. -/
def firstDate (d : LocalDate) (year month : ℤ) : LocalDate :=
  LocalDate.ofMonth (12 * (if 1 ≤ d.year then year else 1 - year) + month) 1 one_le_first
    (first_le _)

/-- The Gregorian calendar, at a place whose clock is ahead of UTC by `offset` milliseconds. -/
def gregorian (offset : ℤ) : DeviceCalendar :=
  { JavaCalendar.gregorian offset with
    year := fun millis => JavaTime.yearOfEra (JavaTime.localDate offset millis).year
    month := fun millis => (JavaTime.localDate offset millis).month - 1
    setFirst := fun millis year month =>
      JavaTime.atStartOfDay (firstDate (JavaTime.localDate offset millis) year month) - offset
    one_le_year := fun _ => JavaTime.one_le_yearOfEra _
    month_nonneg := fun millis => by
      have hmonth := (JavaTime.localDate offset millis).one_le_month
      omega }

end DeviceCalendar

/-! ### The window of the view model -/

namespace TransactionsViewModel

/-- `getCurrentMonth`: the year and the number of the month, without padding. -/
def getCurrentMonth (calendar : DeviceCalendar) (now : ℤ) : Text :=
  intText (calendar.year now) ++ '-' :: intText (calendar.month now + 1)

/-- `none` is the exception of a key that is no month. The numbers of a month fit an `Int`. -/
def getMonthBoundaries (calendar : DeviceCalendar) (now : ℤ) (monthKey : Text) :
    Option (ℤ × ℤ) :=
  match (monthKey.splitOn '-').mapM signedValue with
  | some (year :: month :: _) =>
      let monthStart := calendar.setFirst now year (month - 1)
      some (monthStart, calendar.add .month monthStart)
  | _ => none

/-- A number that is not negative has no minus. -/
theorem minus_notMem_intText {n : ℤ} (h : 0 ≤ n) : '-' ∉ intText n := by
  rw [intText, if_neg (by omega)]
  exact (digitsAnd_toDigits [] n.natAbs).not_mem (by decide)

/-- **The window** is the month of the calendar. -/
theorem getMonthBoundaries_getCurrentMonth (calendar : DeviceCalendar) (now : ℤ) :
    getMonthBoundaries calendar now (getCurrentMonth calendar now) =
      some (calendar.startOfMonth now, calendar.startOfNextMonth now) := by
  have hyear := calendar.one_le_year now
  have hmonth := calendar.month_nonneg now
  have hsplit : (getCurrentMonth calendar now).splitOn '-' =
      [intText (calendar.year now), intText (calendar.month now + 1)] := by
    rw [getCurrentMonth,
      List.splitOn_append_cons_self_of_not_mem (minus_notMem_intText (by omega)),
      List.splitOn_eq_singleton (minus_notMem_intText (by omega))]
  have hnumbers : [intText (calendar.year now), intText (calendar.month now + 1)].mapM
      signedValue = some [calendar.year now, calendar.month now + 1] := by
    simp [signedValue_intText]
  rw [getMonthBoundaries, hsplit, hnumbers]
  dsimp only
  rw [add_sub_cancel_right]
  rfl

/-- The filter of `checkGeneralBudgetBreach` on the timestamps. -/
def inCurrentMonth (calendar : DeviceCalendar) (now timestampUtcMillis : ℤ) : Bool :=
  (getMonthBoundaries calendar now (getCurrentMonth calendar now)).any fun (monthStart, monthEnd) =>
    within monthStart monthEnd timestampUtcMillis

end TransactionsViewModel

/-- The filter of `checkBudgetBreaches` on the timestamps. -/
def BudgetRepositoryImpl.inCurrentMonth (now timestampUtcMillis : ℤ) : Bool :=
  within (getMonthBoundaries now).1 (getMonthBoundaries now).2 timestampUtcMillis

/-- The expenses that a check counts are those in its window. -/
example (now : ℤ) (tx : TransactionEntity) :
    BudgetRepositoryImpl.isMonthExpense (BudgetRepositoryImpl.getMonthBoundaries now) tx =
      (BudgetRepositoryImpl.inCurrentMonth now tx.timestampUtcMillis && !tx.isIncome) := rfl

/-! ### Both windows -/

/-- Both checks have the timestamp in the current month, or neither has. -/
def SameMonth (calendar : DeviceCalendar) (now timestampUtcMillis : ℤ) : Prop :=
  TransactionsViewModel.inCurrentMonth calendar now timestampUtcMillis = true ↔
    BudgetRepositoryImpl.inCurrentMonth now timestampUtcMillis = true

/-- The first instant of the month in UTC. -/
def utcStartOfMonth (now : ℤ) : ℤ :=
  JavaTime.atStartOfDay (JavaTime.utcDate now).firstDayOfMonth

/-- The first instant of the next month in UTC. -/
def utcStartOfNextMonth (now : ℤ) : ℤ :=
  JavaTime.atStartOfDay (JavaTime.utcDate now).firstDayOfNextMonth

/-- A month of UTC is not empty. -/
theorem utcStartOfMonth_lt (now : ℤ) : utcStartOfMonth now < utcStartOfNextMonth now := by
  have hnext := (JavaTime.utcDate now).toEpochDay_firstDayOfNextMonth
  have hlength := daysInMonth_bounds (JavaTime.utcDate now).year (JavaTime.utcDate now).month
  rw [utcStartOfMonth, utcStartOfNextMonth, JavaTime.atStartOfDay, JavaTime.atStartOfDay]
  omega

/-- The view model counts what lies in the month of the device. -/
theorem inCurrentMonth_eq (calendar : DeviceCalendar) (now timestampUtcMillis : ℤ) :
    TransactionsViewModel.inCurrentMonth calendar now timestampUtcMillis =
      within (calendar.startOfMonth now) (calendar.startOfNextMonth now) timestampUtcMillis := by
  rw [TransactionsViewModel.inCurrentMonth,
    TransactionsViewModel.getMonthBoundaries_getCurrentMonth]
  rfl

/-- **The two windows agree on a timestamp** just when the months of the device and of UTC
have both begun at it or not, and the next ones likewise (or both have only begun in one of
the two). -/
theorem sameMonth_iff (calendar : DeviceCalendar) (now timestampUtcMillis : ℤ) :
    SameMonth calendar now timestampUtcMillis ↔
      (Between (calendar.startOfMonth now) (utcStartOfMonth now) timestampUtcMillis ↔
        Between (calendar.startOfNextMonth now) (utcStartOfNextMonth now)
          timestampUtcMillis) := by
  rw [SameMonth, inCurrentMonth_eq]
  exact within_iff_within (calendar.startOfMonth_lt now).le (utcStartOfMonth_lt now).le _

/-! ### A clock ahead of UTC -/

section Gregorian

variable (offset now : ℤ)

/-- The first day of a month, found by the year of its era. -/
theorem firstDate_yearOfEra (d : LocalDate) :
    (DeviceCalendar.firstDate d (JavaTime.yearOfEra d.year) (d.month - 1)).toEpochDay =
      LocalDate.monthStart d.monthIndex := by
  have hyear : (if 1 ≤ d.year then JavaTime.yearOfEra d.year
      else 1 - JavaTime.yearOfEra d.year) = d.year := by
    rw [JavaTime.yearOfEra]
    split_ifs
    · rfl
    · omega
  simp only [DeviceCalendar.firstDate, hyear]
  rfl

/-- The month of the device starts at the local midnight of its first day. -/
theorem startOfMonth_gregorian :
    (DeviceCalendar.gregorian offset).startOfMonth now =
      LocalDate.monthStart (JavaTime.localDate offset now).monthIndex * 86400000 - offset := by
  rw [← firstDate_yearOfEra]
  rfl

/-- The next month starts at the local midnight of its own. -/
theorem startOfNextMonth_gregorian :
    (DeviceCalendar.gregorian offset).startOfNextMonth now =
      LocalDate.monthStart ((JavaTime.localDate offset now).monthIndex + 1) * 86400000 -
        offset := by
  have hstart := startOfMonth_gregorian offset now
  have hadd : (DeviceCalendar.gregorian offset).startOfNextMonth now =
      JavaTime.plusMonths offset 1 ((DeviceCalendar.gregorian offset).startOfMonth now) := rfl
  have hwall : (DeviceCalendar.gregorian offset).startOfMonth now + offset =
      LocalDate.monthStart (JavaTime.localDate offset now).monthIndex * 86400000 := by
    omega
  have hdate : JavaTime.localDate offset ((DeviceCalendar.gregorian offset).startOfMonth now) =
      LocalDate.ofMonth (JavaTime.localDate offset now).monthIndex 1 one_le_first (first_le _) := by
    rw [JavaTime.localDate, hwall, JavaTime.utcDate, Int.mul_ediv_cancel _ (by decide),
      LocalDate.monthStart, LocalDate.ofEpochDay_toEpochDay]
  have hnext := ((LocalDate.ofMonth (JavaTime.localDate offset now).monthIndex 1 one_le_first
    (first_le _)).plusMonths 1).toEpochDay_eq_monthStart
  rw [LocalDate.monthIndex_plusMonths, LocalDate.monthIndex_ofMonth, LocalDate.day_plusMonths,
    LocalDate.monthIndex_ofMonth] at hnext
  have hlength : 1 ≤ lengthOfMonth ((JavaTime.localDate offset now).monthIndex + 1) :=
    first_le _
  have hday : min (LocalDate.ofMonth (JavaTime.localDate offset now).monthIndex 1 one_le_first
      (first_le _)).day (lengthOfMonth ((JavaTime.localDate offset now).monthIndex + 1)) = 1 :=
    min_eq_left hlength
  rw [hadd, JavaTime.plusMonths, hdate, JavaTime.withDate, hwall, JavaTime.atStartOfDay, hnext,
    hday, Int.mul_emod_left]
  omega

/-- **A clock ahead of UTC.** The windows are the same just when it is not ahead at all. -/
theorem sameMonth_gregorian_iff (hoffset : |offset| < 86400000) :
    (∀ timestampUtcMillis, SameMonth (.gregorian offset) now timestampUtcMillis) ↔
      offset = 0 := by
  have hmonth := startOfMonth_gregorian offset now
  have hnext := startOfNextMonth_gregorian offset now
  have hutc : utcStartOfMonth now =
      LocalDate.monthStart (JavaTime.utcDate now).monthIndex * 86400000 := by
    rw [utcStartOfMonth, JavaTime.atStartOfDay, LocalDate.toEpochDay_firstDayOfMonth_eq]
  have hutc_next : utcStartOfNextMonth now =
      LocalDate.monthStart ((JavaTime.utcDate now).monthIndex + 1) * 86400000 := by
    rw [utcStartOfNextMonth, JavaTime.atStartOfDay, LocalDate.toEpochDay_firstDayOfNextMonth_eq]
  constructor
  · intro hsame
    simp only [SameMonth, inCurrentMonth_eq] at hsame
    obtain ⟨heq, -⟩ := eq_of_within_iff_within
      ((DeviceCalendar.gregorian offset).startOfMonth_lt now) (utcStartOfMonth_lt now) hsame
    rw [abs_lt] at hoffset
    omega
  · rintro rfl timestampUtcMillis
    have hdate : JavaTime.localDate 0 now = JavaTime.utcDate now := by
      rw [JavaTime.localDate, add_zero]
    rw [hdate, sub_zero] at hmonth hnext
    rw [SameMonth, inCurrentMonth_eq, hmonth, hnext, ← hutc, ← hutc_next]
    rfl

end Gregorian

/-- An expense of 1 May 2024, an hour after midnight in Istanbul: the view model has it in
May, the repository in April. -/
theorem not_sameMonth_istanbul :
    ¬ SameMonth (.gregorian 10800000) 1715774400000 1714514400000 := by
  rw [SameMonth, inCurrentMonth_eq]
  decide

end SpendCraft
