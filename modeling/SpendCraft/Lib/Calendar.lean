import Mathlib.Data.Int.Notation
import Mathlib.Tactic.IntervalCases

/-!
# The Proleptic Gregorian Calendar

Dates and day numbers as `java.time.LocalDate` computes them: day `0` is 1970-01-01, and
the calendar extends to all integer years. A `LocalDate` carries the proof that it names
a day of the calendar.

The conversions go through years that begin on the first of March, so that the leap day
is the last day of its year: `marchDays y` is the day number, counted from 0000-03-01, of
the first of March of the year `y`.

## Conventions

The numbers are integers of any size, so that the calendar has no first and no last day and no
operation overflows. `/` and `%` are those of `ℤ` with a positive divisor: they round down, as
`Math.floorDiv` and `Math.floorMod` do, and years before the common era need no case of their own.
The definitions compute, and a date of a closed day number is found by evaluation.

## Proof

A year from March to March is found by an estimate that is off by one at most, `marchYear`; the
bounds `marchDays_marchYear_le` and `lt_marchDays_marchYear` say that it is the year of the day, and
`marchYear_eq` that no other year is. `toEpochDay_eq` brings the formula of the library, which
counts from January, to years from March. All bounds are linear arithmetic over the quotients
by `4`, `100`, `400` and `153`.

## Main results

* `toEpochDay_ofEpochDay`, `ofEpochDay_toEpochDay`: dates and day numbers correspond one
  to one.
* `toEpochDay_firstDayOfNextMonth`: the first of a month is `daysInMonth` days before the
  first of the next one.
-/

namespace Calendar

/-- The leap years of the Gregorian calendar. -/
def isLeap (y : ℤ) : Bool :=
  y % 4 == 0 && (y % 100 != 0 || y % 400 == 0)

/-- The number of days of the month `m` of the year `y`. -/
def daysInMonth (y m : ℤ) : ℤ :=
  if m = 2 then (if isLeap y then 29 else 28)
  else if m = 4 ∨ m = 6 ∨ m = 9 ∨ m = 11 then 30
  else 31

/-- A day of the calendar. -/
@[ext] structure LocalDate where
  year : ℤ
  month : ℤ
  day : ℤ
  one_le_month : 1 ≤ month
  month_le : month ≤ 12
  one_le_day : 1 ≤ day
  day_le : day ≤ daysInMonth year month
  deriving DecidableEq

/-- The rule for leap years as a proposition. -/
theorem isLeap_iff (y : ℤ) : isLeap y = true ↔ y % 4 = 0 ∧ (y % 100 ≠ 0 ∨ y % 400 = 0) := by
  simp [isLeap]

/-- A month has 28 to 31 days. -/
theorem daysInMonth_bounds (y m : ℤ) : 28 ≤ daysInMonth y m ∧ daysInMonth y m ≤ 31 := by
  unfold daysInMonth
  split_ifs <;> omega

namespace LocalDate

/-- `LocalDate.toEpochDay`. -/
def toEpochDay (d : LocalDate) : ℤ :=
  365 * d.year + (d.year + 3) / 4 - (d.year + 99) / 100 + (d.year + 399) / 400 +
    (367 * d.month - 362) / 12 + (d.day - 1) -
    (if 2 < d.month then (if isLeap d.year then 1 else 2) else 0) - 719528

end LocalDate

/-! ### Years from March -/

/-- The days from 0000-03-01 to the first of March of the year `y`. -/
def marchDays (y : ℤ) : ℤ :=
  365 * y + y / 4 - y / 100 + y / 400

/-- A year from March to March has the length that its February decides. -/
theorem marchDays_succ (y : ℤ) :
    marchDays (y + 1) = marchDays y + 365 + (if isLeap (y + 1) then 1 else 0) := by
  unfold marchDays
  split_ifs with h
  · rw [isLeap_iff] at h
    omega
  · rw [isLeap_iff] at h
    omega

/-- The year, counted from March, of the day `z` days after 0000-03-01: an estimate that
is at most one too large, corrected. -/
def marchYear (z : ℤ) : ℤ :=
  let yearEst := (400 * z + 591) / 146097
  if z < marchDays yearEst then yearEst - 1 else yearEst

/-- A day is not before the start of its year. -/
theorem marchDays_marchYear_le (z : ℤ) : marchDays (marchYear z) ≤ z := by
  simp only [marchYear]
  split_ifs with h
  · unfold marchDays
    omega
  · omega

/-- A day is before the start of the next year. -/
theorem lt_marchDays_marchYear (z : ℤ) : z < marchDays (marchYear z + 1) := by
  simp only [marchYear]
  split_ifs with h
  · rw [Int.sub_add_cancel]
    exact h
  · unfold marchDays
    omega

/-- Later years start later. -/
theorem marchDays_mono {a b : ℤ} (h : a ≤ b) : marchDays a ≤ marchDays b := by
  unfold marchDays
  omega

/-- The year from March is determined by its defining bounds. -/
theorem marchYear_eq {z y : ℤ} (hle : marchDays y ≤ z) (hlt : z < marchDays (y + 1)) :
    marchYear z = y := by
  have h1 := marchDays_marchYear_le z
  have h2 := lt_marchDays_marchYear z
  by_contra hne
  rcases lt_or_gt_of_ne hne with h | h
  · have := marchDays_mono (show marchYear z + 1 ≤ y by omega)
    omega
  · have := marchDays_mono (show y + 1 ≤ marchYear z by omega)
    omega

/-- The day of the year from March, in `[0, 365]`. -/
def marchDayOfYear (z : ℤ) : ℤ :=
  z - marchDays (marchYear z)

/-- The day within its year. -/
theorem marchDayOfYear_bounds (z : ℤ) :
    0 ≤ marchDayOfYear z ∧
      marchDayOfYear z < 365 + (if isLeap (marchYear z + 1) then 1 else 0) := by
  have h1 := marchDays_marchYear_le z
  have h2 := lt_marchDays_marchYear z
  rw [marchDays_succ] at h2
  unfold marchDayOfYear
  omega

/-- The month from March (`0` is March) of a day of the year from March. -/
def marchMonth (doy : ℤ) : ℤ :=
  (doy * 5 + 2) / 153

/-- The day of the month of a day of the year from March. -/
def marchDayOfMonth (doy : ℤ) : ℤ :=
  doy - (marchMonth doy * 306 + 5) / 10 + 1

/-! ### Dates from day numbers -/

/-- The day and the month that are computed from a day number are those of a date. -/
theorem ofEpochDay_valid (z : ℤ) :
    let m := marchMonth (marchDayOfYear z)
    let year := marchYear z + m / 10
    let month := (m + 2) % 12 + 1
    let day := marchDayOfMonth (marchDayOfYear z)
    1 ≤ month ∧ month ≤ 12 ∧ 1 ≤ day ∧ day ≤ daysInMonth year month := by
  obtain ⟨h0, h1⟩ := marchDayOfYear_bounds z
  generalize hdoy : marchDayOfYear z = doy at h0 h1
  generalize marchYear z = y at h1
  have hm : 0 ≤ marchMonth doy ∧ marchMonth doy ≤ 11 := by
    unfold marchMonth
    split_ifs at h1 <;> omega
  have hdef : marchMonth doy = (doy * 5 + 2) / 153 := rfl
  simp only [marchDayOfMonth]
  generalize marchMonth doy = m at hm hdef
  obtain ⟨hm0, hm11⟩ := hm
  refine ⟨by omega, by omega, ?_, ?_⟩
  · omega
  · -- only February, the last month from March, depends on the year
    interval_cases m <;> simp [daysInMonth] <;> split_ifs at h1 ⊢ <;> omega

/-- `LocalDate.ofEpochDay`. -/
def LocalDate.ofEpochDay (n : ℤ) : LocalDate :=
  let z := n + 719528 - 60
  { year := marchYear z + marchMonth (marchDayOfYear z) / 10
    month := (marchMonth (marchDayOfYear z) + 2) % 12 + 1
    day := marchDayOfMonth (marchDayOfYear z)
    one_le_month := (ofEpochDay_valid z).1
    month_le := (ofEpochDay_valid z).2.1
    one_le_day := (ofEpochDay_valid z).2.2.1
    day_le := (ofEpochDay_valid z).2.2.2 }

namespace LocalDate

/-- The year from March of a date. -/
def marchYearOf (d : LocalDate) : ℤ :=
  if 2 < d.month then d.year else d.year - 1

/-- The month from March of a date. -/
def marchMonthOf (d : LocalDate) : ℤ :=
  if 2 < d.month then d.month - 3 else d.month + 9

/-- The days of a year before a month, by the month from March. -/
theorem daysBefore_eq {m : ℤ} (h1 : 1 ≤ m) (h2 : m ≤ 12) :
    (367 * m - 362) / 12 =
      if 2 < m then ((m - 3) * 306 + 5) / 10 + 61 else ((m + 9) * 306 + 5) / 10 - 306 := by
  interval_cases m <;> rfl

/-- The day number through the year from March. -/
theorem toEpochDay_eq (d : LocalDate) :
    d.toEpochDay =
      marchDays d.marchYearOf + (d.marchMonthOf * 306 + 5) / 10 + (d.day - 1) - 719468 := by
  rw [toEpochDay, marchYearOf, marchMonthOf, daysBefore_eq d.one_le_month d.month_le]
  by_cases hm : 2 < d.month
  · simp only [if_pos hm, marchDays]
    by_cases hl : isLeap d.year = true
    · have := (isLeap_iff d.year).mp hl
      rw [if_pos hl]
      omega
    · have := mt (isLeap_iff d.year).mpr hl
      rw [if_neg hl]
      omega
  · simp only [if_neg hm, marchDays]
    omega

/-- The month within its year, counted from March. -/
theorem marchMonth_bounds (z : ℤ) :
    0 ≤ marchMonth (marchDayOfYear z) ∧ marchMonth (marchDayOfYear z) ≤ 11 := by
  obtain ⟨h0, h1⟩ := marchDayOfYear_bounds z
  unfold marchMonth
  split_ifs at h1 <;> omega

/-- The year of a day number. -/
theorem year_ofEpochDay (n : ℤ) :
    (ofEpochDay n).year = marchYear (n + 719528 - 60) +
      marchMonth (marchDayOfYear (n + 719528 - 60)) / 10 := rfl

/-- The month of a day number. -/
theorem month_ofEpochDay (n : ℤ) :
    (ofEpochDay n).month = (marchMonth (marchDayOfYear (n + 719528 - 60)) + 2) % 12 + 1 := rfl

/-- The day of the month of a day number. -/
theorem day_ofEpochDay (n : ℤ) :
    (ofEpochDay n).day = marchDayOfMonth (marchDayOfYear (n + 719528 - 60)) := rfl

/-- The year from March that a day number was computed with. -/
theorem marchYearOf_ofEpochDay (n : ℤ) :
    (ofEpochDay n).marchYearOf = marchYear (n + 719528 - 60) := by
  have hm := marchMonth_bounds (n + 719528 - 60)
  have hmonth := month_ofEpochDay n
  have hyear := year_ofEpochDay n
  unfold marchYearOf
  split_ifs <;> omega

/-- The month from March that a day number was computed with. -/
theorem marchMonthOf_ofEpochDay (n : ℤ) :
    (ofEpochDay n).marchMonthOf = marchMonth (marchDayOfYear (n + 719528 - 60)) := by
  have hm := marchMonth_bounds (n + 719528 - 60)
  have hmonth := month_ofEpochDay n
  unfold marchMonthOf
  split_ifs <;> omega

/-- **Day number, date, day number.** -/
@[simp] theorem toEpochDay_ofEpochDay (n : ℤ) : (ofEpochDay n).toEpochDay = n := by
  rw [toEpochDay_eq, marchYearOf_ofEpochDay, marchMonthOf_ofEpochDay, day_ofEpochDay,
    marchDayOfMonth]
  have hdoy : marchDayOfYear (n + 719528 - 60) =
      n + 719528 - 60 - marchDays (marchYear (n + 719528 - 60)) := rfl
  omega

/-- The months of a year are twelve. -/
theorem marchMonthOf_bounds (d : LocalDate) : 0 ≤ d.marchMonthOf ∧ d.marchMonthOf ≤ 11 := by
  have h1 := d.one_le_month
  have h2 := d.month_le
  unfold marchMonthOf
  split_ifs <;> omega

/-- The length of a month, by the months from March: only February, the last one, depends
on the year. -/
theorem daysInMonth_eq (d : LocalDate) :
    daysInMonth d.year d.month =
      if d.marchMonthOf = 11 then 28 + (if isLeap (d.marchYearOf + 1) then 1 else 0)
      else ((d.marchMonthOf + 1) * 306 + 5) / 10 - (d.marchMonthOf * 306 + 5) / 10 := by
  obtain ⟨y, m, day, h1, h2, -, -⟩ := d
  simp only [marchMonthOf, marchYearOf, daysInMonth]
  interval_cases m <;> simp
  split_ifs <;> rfl

/-- The day of the year from March of a date stays inside its month. -/
theorem marchDay_bounds (d : LocalDate) :
    marchMonth ((d.marchMonthOf * 306 + 5) / 10 + (d.day - 1)) = d.marchMonthOf ∧
      (d.marchMonthOf * 306 + 5) / 10 + (d.day - 1) <
        365 + (if isLeap (d.marchYearOf + 1) then 1 else 0) := by
  obtain ⟨hm0, hm11⟩ := d.marchMonthOf_bounds
  have hday := d.one_le_day
  have hle := d.day_le
  rw [daysInMonth_eq] at hle
  generalize d.marchMonthOf = k at hm0 hm11 hle
  rw [marchMonth]
  split_ifs at hle ⊢ <;> omega

/-- **Date, day number, date.** -/
@[simp] theorem ofEpochDay_toEpochDay (d : LocalDate) : ofEpochDay d.toEpochDay = d := by
  obtain ⟨hmonth, hlt⟩ := d.marchDay_bounds
  obtain ⟨hm0, hm11⟩ := d.marchMonthOf_bounds
  have hday := d.one_le_day
  have hz : d.toEpochDay + 719528 - 60 =
      marchDays d.marchYearOf + ((d.marchMonthOf * 306 + 5) / 10 + (d.day - 1)) := by
    rw [toEpochDay_eq]
    omega
  have hyear : marchYear (d.toEpochDay + 719528 - 60) = d.marchYearOf := by
    rw [hz]
    apply marchYear_eq
    · omega
    · rw [marchDays_succ]
      omega
  have hdoy : marchDayOfYear (d.toEpochDay + 719528 - 60) =
      (d.marchMonthOf * 306 + 5) / 10 + (d.day - 1) := by
    rw [marchDayOfYear, hyear, hz]
    omega
  have h1 := d.one_le_month
  have h2 := d.month_le
  ext
  · rw [year_ofEpochDay, hyear, hdoy, hmonth, marchYearOf, marchMonthOf]
    split_ifs <;> omega
  · rw [month_ofEpochDay, hdoy, hmonth, marchMonthOf]
    split_ifs <;> omega
  · rw [day_ofEpochDay, marchDayOfMonth, hdoy, hmonth]
    omega

/-! ### Months -/

/-- `TemporalAdjusters.firstDayOfMonth`. -/
def firstDayOfMonth (d : LocalDate) : LocalDate :=
  { d with
    day := 1
    one_le_day := le_refl 1
    day_le := by have := daysInMonth_bounds d.year d.month; omega }

/-- `TemporalAdjusters.firstDayOfNextMonth`. -/
def firstDayOfNextMonth (d : LocalDate) : LocalDate :=
  { year := if d.month = 12 then d.year + 1 else d.year
    month := if d.month = 12 then 1 else d.month + 1
    day := 1
    one_le_month := by have := d.one_le_month; split_ifs <;> omega
    month_le := by have := d.month_le; split_ifs <;> omega
    one_le_day := le_refl 1
    day_le := by
      have := daysInMonth_bounds (if d.month = 12 then d.year + 1 else d.year)
        (if d.month = 12 then 1 else d.month + 1)
      omega }

/-- A month begins `day - 1` days before each of its days. -/
theorem toEpochDay_firstDayOfMonth (d : LocalDate) :
    d.firstDayOfMonth.toEpochDay = d.toEpochDay - (d.day - 1) := by
  have hyear : d.firstDayOfMonth.marchYearOf = d.marchYearOf := rfl
  have hmonth : d.firstDayOfMonth.marchMonthOf = d.marchMonthOf := rfl
  have hday : d.firstDayOfMonth.day = 1 := rfl
  rw [toEpochDay_eq, toEpochDay_eq, hyear, hmonth, hday]
  omega

/-- The month after February, the last of a year from March, is its first. -/
theorem marchMonthOf_firstDayOfNextMonth (d : LocalDate) :
    d.firstDayOfNextMonth.marchMonthOf =
      if d.marchMonthOf = 11 then 0 else d.marchMonthOf + 1 := by
  have h1 := d.one_le_month
  have h2 := d.month_le
  simp only [marchMonthOf, firstDayOfNextMonth]
  split_ifs <;> omega

/-- After February, the year from March goes on by one. -/
theorem marchYearOf_firstDayOfNextMonth (d : LocalDate) :
    d.firstDayOfNextMonth.marchYearOf =
      if d.marchMonthOf = 11 then d.marchYearOf + 1 else d.marchYearOf := by
  have h1 := d.one_le_month
  have h2 := d.month_le
  simp only [marchMonthOf, marchYearOf, firstDayOfNextMonth]
  split_ifs <;> omega

/-- The next month begins when the days of the month are over. -/
theorem toEpochDay_firstDayOfNextMonth (d : LocalDate) :
    d.firstDayOfNextMonth.toEpochDay =
      d.firstDayOfMonth.toEpochDay + daysInMonth d.year d.month := by
  have hyear : d.firstDayOfMonth.marchYearOf = d.marchYearOf := rfl
  have hmonth : d.firstDayOfMonth.marchMonthOf = d.marchMonthOf := rfl
  have hday : d.firstDayOfMonth.day = 1 := rfl
  have hday' : d.firstDayOfNextMonth.day = 1 := rfl
  rw [toEpochDay_eq, toEpochDay_eq, marchMonthOf_firstDayOfNextMonth,
    marchYearOf_firstDayOfNextMonth, hyear, hmonth, hday, hday', daysInMonth_eq]
  by_cases h11 : d.marchMonthOf = 11
  · rw [if_pos h11, if_pos h11, if_pos h11, h11, marchDays_succ]
    omega
  · rw [if_neg h11, if_neg h11, if_neg h11]
    omega

end LocalDate

end Calendar
