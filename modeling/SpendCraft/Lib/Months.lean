import SpendCraft.Lib.JavaTime
import Mathlib.Algebra.Order.Ring.Int
import Mathlib.Data.Int.ConditionallyCompleteOrder
import Mathlib.Data.Int.SuccPred
import Mathlib.Tactic.Ring

/-!
# Month Arithmetic

Months are numbered through the years. Adding months to a date keeps the day of the month,
or takes the last day of a month that is too short for it. Hence months that are added one
after another may end on an earlier day than the same months added at once.

An instant is moved in local time; the clock of the place is ahead of UTC by a fixed offset.

## Conventions

A month has a number, `12 * year + month - 1`, so that adding months is adding numbers, and a date
is a number and a day. `ofMonth` takes the last day of a month for a day that the month does not
have. The clock of a place is a fixed offset for all instants, in milliseconds; a place that puts
its clocks forward is not covered, and an interval that spans such a day is not either.

Adding months to an instant moves its local date and keeps its local time of day, so an instant is
a date and a rest below a day (`withDate`).

## Proof

The day number of the first of a month grows with the month by its length (`monthStart_succ`), and
that decides which day numbers belong to a month. Adding months one after another is followed by
the day of the month, which never grows: `le_day_iterate_plusMonths` says that it stays as long as
no month on the way is shorter, and the equivalences say that it is lost otherwise.

## Main results

* `monthIndex_eq_iff`: the days of a month are those from its first to the first of the next.
* `plusMonths_plusMonths_eq_iff`, `iterate_plusMonths_eq_iff`: when months may be added in
  parts.
* `plusMonths_strictMono`: more months lead to a later date.
-/

namespace Calendar

/-- The length of the month with a number. -/
def lengthOfMonth (n : ℤ) : ℤ :=
  daysInMonth (n / 12) (n % 12 + 1)

/-- The shortest and the longest month. -/
theorem lengthOfMonth_bounds (n : ℤ) : 28 ≤ lengthOfMonth n ∧ lengthOfMonth n ≤ 31 :=
  daysInMonth_bounds _ _

/-- The first day of a month is a day of the month. -/
theorem one_le_first : (1 : ℤ) ≤ 1 := le_rfl

/-- Every month has a first day. -/
theorem first_le (n : ℤ) : 1 ≤ lengthOfMonth n := by
  have hbounds := lengthOfMonth_bounds n
  omega

namespace LocalDate

/-- The months from January of the year `0` to the month of a date. -/
def monthIndex (d : LocalDate) : ℤ :=
  12 * d.year + (d.month - 1)

/-- A day of the month with a number. -/
def ofMonth (n day : ℤ) (one_le_day : 1 ≤ day) (day_le : day ≤ lengthOfMonth n) : LocalDate :=
  { year := n / 12
    month := n % 12 + 1
    day := day
    one_le_month := by omega
    month_le := by omega
    one_le_day := one_le_day
    day_le := day_le }

/-- `LocalDate.plusMonths`. -/
def plusMonths (d : LocalDate) (k : ℤ) : LocalDate :=
  ofMonth (d.monthIndex + k) (min d.day (lengthOfMonth (d.monthIndex + k)))
    (le_min d.one_le_day (by have := lengthOfMonth_bounds (d.monthIndex + k); omega))
    (min_le_right _ _)

/-- The day number of the first day of the month with a number. -/
def monthStart (n : ℤ) : ℤ :=
  (ofMonth n 1 one_le_first (first_le n)).toEpochDay

variable {d e : LocalDate} {k l n : ℤ}

/-- The index of a month that was built from it. -/
@[simp] theorem monthIndex_ofMonth {day : ℤ} (one_le_day : 1 ≤ day)
    (day_le : day ≤ lengthOfMonth n) : (ofMonth n day one_le_day day_le).monthIndex = n := by
  simp only [monthIndex, ofMonth]
  omega

/-- Adding months adds to the index. -/
@[simp] theorem monthIndex_plusMonths (d : LocalDate) (k : ℤ) :
    (d.plusMonths k).monthIndex = d.monthIndex + k :=
  monthIndex_ofMonth _ _

/-- Adding months clamps the day to the length of the month reached. -/
@[simp] theorem day_plusMonths (d : LocalDate) (k : ℤ) :
    (d.plusMonths k).day = min d.day (lengthOfMonth (d.monthIndex + k)) := rfl

/-- Months with one number are the same. -/
theorem monthIndex_eq_iff_year_month :
    d.monthIndex = e.monthIndex ↔ d.year = e.year ∧ d.month = e.month := by
  have hd1 := d.one_le_month
  have hd2 := d.month_le
  have he1 := e.one_le_month
  have he2 := e.month_le
  rw [monthIndex, monthIndex]
  constructor
  · intro h
    refine ⟨?_, ?_⟩ <;> omega
  · rintro ⟨hyear, hmonth⟩
    omega

/-- A date is its month and its day. -/
theorem eq_iff_monthIndex_day : d = e ↔ d.monthIndex = e.monthIndex ∧ d.day = e.day := by
  rw [monthIndex_eq_iff_year_month]
  constructor
  · rintro rfl
    exact ⟨⟨rfl, rfl⟩, rfl⟩
  · rintro ⟨⟨hyear, hmonth⟩, hday⟩
    exact LocalDate.ext hyear hmonth hday

/-- The day is one of its month. -/
theorem day_le_lengthOfMonth (d : LocalDate) : d.day ≤ lengthOfMonth d.monthIndex := by
  have hmonth1 := d.one_le_month
  have hmonth2 := d.month_le
  have hyear : d.monthIndex / 12 = d.year := by
    rw [monthIndex]
    omega
  have hmonth : d.monthIndex % 12 + 1 = d.month := by
    rw [monthIndex]
    omega
  rw [lengthOfMonth, hyear, hmonth]
  exact d.day_le

/-! ### Months and day numbers -/

/-- The day number counts from the start of the month. -/
theorem toEpochDay_eq_monthStart (d : LocalDate) :
    d.toEpochDay = monthStart d.monthIndex + (d.day - 1) := by
  have hfirst : d.firstDayOfMonth =
      ofMonth d.monthIndex 1 one_le_first (first_le d.monthIndex) := by
    rw [eq_iff_monthIndex_day, monthIndex_ofMonth]
    exact ⟨rfl, rfl⟩
  have hday := d.toEpochDay_firstDayOfMonth
  rw [hfirst] at hday
  rw [monthStart]
  omega

/-- The first day of a month is its start. -/
theorem toEpochDay_firstDayOfMonth_eq (d : LocalDate) :
    d.firstDayOfMonth.toEpochDay = monthStart d.monthIndex := by
  have h := toEpochDay_eq_monthStart d.firstDayOfMonth
  have hday : d.firstDayOfMonth.day = 1 := rfl
  rw [hday, sub_self, add_zero] at h
  exact h

/-- The next month has the next index. -/
theorem monthIndex_firstDayOfNextMonth (d : LocalDate) :
    d.firstDayOfNextMonth.monthIndex = d.monthIndex + 1 := by
  simp only [monthIndex, firstDayOfNextMonth]
  split_ifs <;> omega

/-- The first day of the next month is its start. -/
theorem toEpochDay_firstDayOfNextMonth_eq (d : LocalDate) :
    d.firstDayOfNextMonth.toEpochDay = monthStart (d.monthIndex + 1) := by
  have h := toEpochDay_eq_monthStart d.firstDayOfNextMonth
  have hday : d.firstDayOfNextMonth.day = 1 := rfl
  rw [hday, sub_self, add_zero, monthIndex_firstDayOfNextMonth] at h
  exact h

/-- A month begins when the days of the one before it are over. -/
theorem monthStart_succ (n : ℤ) : monthStart (n + 1) = monthStart n + lengthOfMonth n := by
  have hnext := toEpochDay_firstDayOfNextMonth (ofMonth n 1 one_le_first (first_le n))
  rw [toEpochDay_firstDayOfNextMonth_eq, toEpochDay_firstDayOfMonth_eq, monthIndex_ofMonth] at hnext
  exact hnext

/-- Later months start later. -/
theorem monthStart_strictMono : StrictMono monthStart := by
  apply strictMono_int_of_lt_succ
  intro n
  have hbounds := lengthOfMonth_bounds n
  rw [monthStart_succ]
  omega

/-- A later month has later days. -/
theorem toEpochDay_lt_of_monthIndex_lt (h : d.monthIndex < e.monthIndex) :
    d.toEpochDay < e.toEpochDay := by
  have hday := d.day_le_lengthOfMonth
  have hone := e.one_le_day
  have hsucc := monthStart_succ d.monthIndex
  have hmono := monthStart_strictMono.monotone (show d.monthIndex + 1 ≤ e.monthIndex by omega)
  rw [toEpochDay_eq_monthStart, toEpochDay_eq_monthStart e]
  omega

/-- **The days of a month** are those from its first day to the first day of the next. -/
theorem monthIndex_eq_iff : e.monthIndex = d.monthIndex ↔
    d.firstDayOfMonth.toEpochDay ≤ e.toEpochDay ∧
      e.toEpochDay < d.firstDayOfNextMonth.toEpochDay := by
  have hday := e.day_le_lengthOfMonth
  have hone := e.one_le_day
  have hnumber := e.toEpochDay_eq_monthStart
  have hsucc := monthStart_succ e.monthIndex
  rw [toEpochDay_firstDayOfMonth_eq, toEpochDay_firstDayOfNextMonth_eq]
  constructor
  · intro h
    rw [← h]
    refine ⟨?_, ?_⟩ <;> omega
  · rintro ⟨hle, hlt⟩
    have hlow : d.monthIndex < e.monthIndex + 1 := by
      rw [← monthStart_strictMono.lt_iff_lt]
      omega
    have hhigh : e.monthIndex < d.monthIndex + 1 := by
      rw [← monthStart_strictMono.lt_iff_lt]
      omega
    omega

/-! ### Adding months -/

/-- No month added. -/
@[simp] theorem plusMonths_zero (d : LocalDate) : d.plusMonths 0 = d := by
  rw [eq_iff_monthIndex_day, monthIndex_plusMonths, day_plusMonths, add_zero]
  exact ⟨rfl, min_eq_left d.day_le_lengthOfMonth⟩

/-- More months lead to a later date. -/
theorem plusMonths_strictMono (d : LocalDate) :
    StrictMono fun k => (d.plusMonths k).toEpochDay := by
  intro k l h
  apply toEpochDay_lt_of_monthIndex_lt
  rw [monthIndex_plusMonths, monthIndex_plusMonths]
  omega

/-- **Two additions** are one just when the month in between is long enough. -/
theorem plusMonths_plusMonths_eq_iff :
    (d.plusMonths k).plusMonths l = d.plusMonths (k + l) ↔
      min d.day (lengthOfMonth (d.monthIndex + (k + l))) ≤ lengthOfMonth (d.monthIndex + k) := by
  rw [eq_iff_monthIndex_day]
  simp only [monthIndex_plusMonths, day_plusMonths, add_assoc, true_and]
  omega

/-- Two additions never lead further than one. -/
theorem toEpochDay_plusMonths_plusMonths_le (d : LocalDate) (k l : ℤ) :
    ((d.plusMonths k).plusMonths l).toEpochDay ≤ (d.plusMonths (k + l)).toEpochDay := by
  rw [toEpochDay_eq_monthStart, toEpochDay_eq_monthStart (d.plusMonths (k + l))]
  simp only [monthIndex_plusMonths, day_plusMonths, add_assoc]
  omega

/-- Steps of `s` months add up in the index, although the day may be clamped on the way. -/
theorem monthIndex_iterate_plusMonths (d : LocalDate) (s : ℤ) (k : ℕ) :
    ((fun e => plusMonths e s)^[k] d).monthIndex = d.monthIndex + k * s := by
  induction k with
  | zero => simp
  | succ k ih =>
      rw [Function.iterate_succ_apply', monthIndex_plusMonths, ih]
      push_cast
      ring

/-- The day that is left when all months on the way have cut it. -/
theorem le_day_iterate_plusMonths {x : ℤ} (s : ℤ) (k : ℕ) :
    x ≤ ((fun e => plusMonths e s)^[k] d).day ↔
      x ≤ d.day ∧ ∀ j : ℕ, 0 < j → j ≤ k → x ≤ lengthOfMonth (d.monthIndex + j * s) := by
  induction k with
  | zero =>
      constructor
      · intro h
        exact ⟨h, fun j hpos hle => absurd hpos (by omega)⟩
      · exact And.left
  | succ k ih =>
      have hindex : ((fun e => plusMonths e s)^[k] d).monthIndex + s =
          d.monthIndex + (k + 1 : ℕ) * s := by
        rw [monthIndex_iterate_plusMonths]
        push_cast
        ring
      rw [Function.iterate_succ_apply', day_plusMonths, hindex, le_min_iff, ih]
      constructor
      · rintro ⟨⟨hday, hbefore⟩, hlast⟩
        refine ⟨hday, ?_⟩
        intro j hpos hle
        rcases Nat.eq_or_lt_of_le hle with rfl | hlt
        · exact hlast
        · exact hbefore j hpos (by omega)
      · rintro ⟨hday, hall⟩
        exact ⟨⟨hday, fun j hpos hle => hall j hpos (by omega)⟩, hall (k + 1) (by omega) le_rfl⟩

/-- **Adding `s` months `k` times** is adding them at once just when no month on the way is
shorter than the day that is reached. -/
theorem iterate_plusMonths_eq_iff (s : ℤ) (k : ℕ) :
    (fun e => plusMonths e s)^[k] d = d.plusMonths (k * s) ↔
      ∀ j : ℕ, 0 < j → j < k →
        min d.day (lengthOfMonth (d.monthIndex + k * s)) ≤
          lengthOfMonth (d.monthIndex + j * s) := by
  rw [eq_iff_monthIndex_day, monthIndex_iterate_plusMonths, monthIndex_plusMonths, day_plusMonths]
  have hreached := @le_day_iterate_plusMonths d
    (min d.day (lengthOfMonth (d.monthIndex + k * s))) s k
  constructor
  · rintro ⟨-, hday⟩ j hpos hlt
    exact (hreached.mp hday.ge).2 j hpos (by omega)
  · intro hway
    refine ⟨rfl, le_antisymm ?_ (hreached.mpr ⟨min_le_left _ _, ?_⟩)⟩
    · obtain ⟨hday, hall⟩ := (le_day_iterate_plusMonths s k).mp
        (le_refl ((fun e => plusMonths e s)^[k] d).day)
      rcases Nat.eq_zero_or_pos k with rfl | hpos
      · have hlength := d.day_le_lengthOfMonth
        simpa using hlength
      · exact le_min hday (hall k hpos le_rfl)
    · intro j hpos hle
      rcases Nat.eq_or_lt_of_le hle with rfl | hlt
      · exact min_le_right _ _
      · exact hway j hpos hlt

end LocalDate

end Calendar

namespace JavaTime

open Calendar

/-! ### Instants in local time -/

/-- The date at a place whose clock is ahead of UTC by `offset` milliseconds. -/
def localDate (offset millis : ℤ) : LocalDate :=
  utcDate (millis + offset)

/-- The instant with the time of day of `millis`, on another date. -/
def withDate (offset millis : ℤ) (d : LocalDate) : ℤ :=
  atStartOfDay d + (millis + offset) % 86400000 - offset

/-- A time with months added to its local date, the time of day unchanged. -/
def plusMonths (offset : ℤ) (k millis : ℤ) : ℤ :=
  withDate offset millis ((localDate offset millis).plusMonths k)

variable {offset millis millis' k : ℤ} {d e : LocalDate}

/-- A time with its own date. -/
theorem withDate_localDate (offset millis : ℤ) :
    withDate offset millis (localDate offset millis) = millis := by
  rw [withDate, localDate, atStartOfDay_utcDate]
  omega

/-- The date of a time that was given one. -/
@[simp] theorem localDate_withDate (offset millis : ℤ) (d : LocalDate) :
    localDate offset (withDate offset millis d) = d := by
  have hday : (withDate offset millis d + offset) / 86400000 = d.toEpochDay := by
    rw [withDate, atStartOfDay]
    omega
  rw [localDate, utcDate, hday, LocalDate.ofEpochDay_toEpochDay]

/-- The time of day. -/
theorem emod_withDate (offset millis : ℤ) (d : LocalDate) :
    (withDate offset millis d + offset) % 86400000 = (millis + offset) % 86400000 := by
  rw [withDate, atStartOfDay]
  omega

/-- The last date given counts. -/
@[simp] theorem withDate_withDate (offset millis : ℤ) (d e : LocalDate) :
    withDate offset (withDate offset millis d) e = withDate offset millis e := by
  rw [withDate, emod_withDate, withDate]

/-- At one time of day, different dates are different times. -/
theorem withDate_inj : withDate offset millis d = withDate offset millis e ↔ d = e := by
  constructor
  · intro h
    rw [← localDate_withDate offset millis d, h, localDate_withDate]
  · rintro rfl
    rfl

/-- At one time of day, times are ordered as their days. -/
theorem withDate_lt_iff :
    withDate offset millis d < withDate offset millis e ↔ d.toEpochDay < e.toEpochDay := by
  rw [withDate, withDate, atStartOfDay, atStartOfDay]
  omega

/-- The same with equality allowed. -/
theorem withDate_le_iff :
    withDate offset millis d ≤ withDate offset millis e ↔ d.toEpochDay ≤ e.toEpochDay := by
  rw [withDate, withDate, atStartOfDay, atStartOfDay]
  omega

/-- No month added to a time. -/
@[simp] theorem plusMonths_zero : plusMonths offset 0 millis = millis := by
  rw [plusMonths, LocalDate.plusMonths_zero, withDate_localDate]

/-- More months are a later time: a clamped day is still in its month. -/
theorem plusMonths_strictMono (offset millis : ℤ) :
    StrictMono fun k => plusMonths offset k millis := by
  intro k l h
  exact withDate_lt_iff.mpr (LocalDate.plusMonths_strictMono _ h)

/-- Steps of `s` months on times are those steps on their dates. -/
theorem iterate_plusMonths (offset s : ℤ) (k : ℕ) (millis : ℤ) :
    (plusMonths offset s)^[k] millis =
      withDate offset millis ((fun d => d.plusMonths s)^[k] (localDate offset millis)) := by
  induction k with
  | zero => exact (withDate_localDate offset millis).symm
  | succ k ih =>
      rw [Function.iterate_succ_apply', Function.iterate_succ_apply', ih, plusMonths,
        localDate_withDate, withDate_withDate]

/-- **Months that are added one after another**, and at once. -/
theorem iterate_plusMonths_eq_iff (offset s : ℤ) (k : ℕ) (millis : ℤ) :
    (plusMonths offset s)^[k] millis = plusMonths offset (k * s) millis ↔
      ∀ j : ℕ, 0 < j → j < k →
        min (localDate offset millis).day
            (lengthOfMonth ((localDate offset millis).monthIndex + k * s)) ≤
          lengthOfMonth ((localDate offset millis).monthIndex + j * s) := by
  rw [iterate_plusMonths, plusMonths, withDate_inj, LocalDate.iterate_plusMonths_eq_iff]

end JavaTime
