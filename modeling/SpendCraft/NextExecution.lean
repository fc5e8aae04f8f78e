import SpendCraft.Ios.Recurring
import SpendCraft.Recurring

/-!
# From One Execution to the Next

A rule goes from one execution to the next by adding a period to the date before. Three
functions do so: one in each of the two view models, and one in the manager of the Android
app. The calendar is the Gregorian one, where a month that is too short cuts the day; the
day stays cut when the next period is added to the result.

The view model of the iOS app reads dates in whole seconds.

## Conventions

The three functions are the values of `Scheduler`, each at a fixed offset from UTC. The two apps
name the frequencies by different texts, and the iOS app adds components of its calendar; all of
them are a number of days, weeks, months or years. What the iOS app reads is the start of the
second (`dateRead`), so that the milliseconds of a date are lost by the first step.

## Proof

A step is `plus` of one period at the date that is read. Iterating it is adding months one after
the other, which `Lib.Months` compares with adding them at once: the day is kept as long as no
month on the way is shorter than the day that is reached in the end (`KeepsDay`). Days and weeks
are never cut. The rest is the milliseconds, which are read once.

## Main results

* `calculateNextExecution_eq`: a step adds one period to the date that is read.
* `iterate_calculateNextExecution_eq_iff`: when the executions stay on their days.
-/

namespace SpendCraft

open Calendar Kotlin

namespace RecurringFrequency

/-- The text for a frequency in the iOS app. -/
def text : RecurringFrequency → Text
  | daily => "DAILY".toList
  | weekly => "WEEKLY".toList
  | monthly => "MONTHLY".toList
  | yearly => "YEARLY".toList

/-- The component of the calendar that a frequency adds. -/
def component : RecurringFrequency → Ios.Component
  | daily => .day
  | weekly => .weekOfYear
  | monthly => .month
  | yearly => .year

/-- Both apps know the four frequencies. -/
theorem frequencyComponent_text (frequency : RecurringFrequency) :
    Ios.frequencyComponent frequency.text = some frequency.component := by
  cases frequency <;> rfl

/-- A date and `k` days, weeks, months or years. -/
def plus (offset : ℤ) (frequency : RecurringFrequency) (k : ℕ) (millis : ℤ) : ℤ :=
  match frequency with
  | daily => millis + k * 86400000
  | weekly => millis + k * (7 * 86400000)
  | monthly => JavaTime.plusMonths offset k millis
  | yearly => JavaTime.plusMonths offset (12 * k) millis

/-- The months of a period. -/
def months : RecurringFrequency → ℤ
  | daily => 0
  | weekly => 0
  | monthly => 1
  | yearly => 12

/-- No month before the `k`-th period is shorter than the day that the `k`-th period leads to. -/
def KeepsDay (frequency : RecurringFrequency) (k : ℕ) (date : LocalDate) : Prop :=
  ∀ j : ℕ, 0 < j → j < k →
    min date.day (lengthOfMonth (date.monthIndex + k * frequency.months)) ≤
      lengthOfMonth (date.monthIndex + j * frequency.months)

variable {offset : ℤ} {frequency : RecurringFrequency} {k : ℕ} {millis : ℤ}

/-- Days and weeks are never clamped. -/
theorem keepsDay_of_months_eq_zero (h : frequency.months = 0) (date : LocalDate) :
    frequency.KeepsDay k date := by
  intro j hpos hlt
  rw [h, mul_zero, mul_zero]
  exact min_le_right _ _

/-- **One period after another** leads to the date of all periods at once just when the day
is kept. -/
theorem iterate_plus_eq_iff :
    (frequency.plus offset 1)^[k] millis = frequency.plus offset k millis ↔
      frequency.KeepsDay k (JavaTime.localDate offset millis) := by
  cases frequency with
  | daily =>
      refine iff_of_true ?_ (keepsDay_of_months_eq_zero rfl _)
      have hstep : daily.plus offset 1 = fun m => m + 86400000 := by
        funext m
        simp [plus]
      rw [hstep, add_right_iterate, nsmul_eq_mul, plus]
  | weekly =>
      refine iff_of_true ?_ (keepsDay_of_months_eq_zero rfl _)
      have hstep : weekly.plus offset 1 = fun m => m + 7 * 86400000 := by
        funext m
        simp [plus]
      rw [hstep, add_right_iterate, nsmul_eq_mul, plus]
  | monthly =>
      have hstep : monthly.plus offset 1 = JavaTime.plusMonths offset 1 := rfl
      have hplus : monthly.plus offset k millis = JavaTime.plusMonths offset (k * 1) millis := by
        rw [mul_one, plus]
      rw [hstep, hplus, JavaTime.iterate_plusMonths_eq_iff]
      rfl
  | yearly =>
      have hstep : yearly.plus offset 1 = JavaTime.plusMonths offset 12 := rfl
      have hplus : yearly.plus offset k millis = JavaTime.plusMonths offset (k * 12) millis := by
        rw [mul_comm, plus]
      rw [hstep, hplus, JavaTime.iterate_plusMonths_eq_iff]
      rfl

/-- A period is a number of whole seconds. -/
theorem emod_plus (offset : ℤ) (frequency : RecurringFrequency) (k : ℕ) (millis : ℤ) :
    frequency.plus offset k millis % 1000 = millis % 1000 := by
  have hmonths : ∀ l : ℤ, JavaTime.plusMonths offset l millis % 1000 = millis % 1000 := by
    intro l
    have htime := JavaTime.emod_withDate offset millis
      ((JavaTime.localDate offset millis).plusMonths l)
    rw [JavaTime.plusMonths]
    omega
  cases frequency with
  | daily =>
      rw [plus]
      omega
  | weekly =>
      rw [plus]
      omega
  | monthly => exact hmonths k
  | yearly => exact hmonths (12 * k)

end RecurringFrequency

/-! ### The functions of the apps -/

/-- The code that moves a rule to its next execution. -/
inductive Scheduler
  | recurringViewModel
  | recurringTransactionManager
  | iosRecurringViewModel
  deriving DecidableEq, Repr

namespace Scheduler

/-- The three functions that compute the next date, at an offset from UTC. -/
def calculateNextExecution (offset : ℤ) (frequency : RecurringFrequency) :
    Scheduler → ℤ → ℤ
  | recurringViewModel => fun startDate =>
      RecurringViewModel.calculateNextExecution (.gregorian offset) startDate frequency
  | recurringTransactionManager =>
      RecurringTransactionManager.calculateNextExecution (.gregorian offset) frequency
  | iosRecurringViewModel => fun current =>
      Ios.RecurringViewModel.calculateNextExecution (.gregorian offset) current frequency.text

/-- The date that a function reads. -/
def dateRead (millis : ℤ) : Scheduler → ℤ
  | recurringViewModel => millis
  | recurringTransactionManager => millis
  | iosRecurringViewModel => Ios.dateOfMillis millis

variable {scheduler : Scheduler} {offset : ℤ} {frequency : RecurringFrequency} {k : ℕ}
  {millis startDate : ℤ}

/-- **A step** adds one period. -/
theorem calculateNextExecution_eq (scheduler : Scheduler) (offset : ℤ)
    (frequency : RecurringFrequency) (millis : ℤ) :
    scheduler.calculateNextExecution offset frequency millis =
      frequency.plus offset 1 (scheduler.dateRead millis) := by
  cases scheduler with
  | recurringViewModel =>
      cases frequency <;> simp only [calculateNextExecution, dateRead,
        RecurringViewModel.calculateNextExecution, JavaCalendar.gregorian,
        RecurringFrequency.plus, Nat.cast_one, one_mul, mul_one]
  | recurringTransactionManager =>
      cases frequency <;> simp only [calculateNextExecution, dateRead,
        RecurringTransactionManager.calculateNextExecution, JavaCalendar.gregorian,
        RecurringFrequency.plus, Nat.cast_one, one_mul, mul_one]
  | iosRecurringViewModel =>
      simp only [calculateNextExecution, Ios.RecurringViewModel.calculateNextExecution,
        RecurringFrequency.frequencyComponent_text]
      cases frequency <;> simp only [dateRead, RecurringFrequency.component,
        Ios.CalendarSystem.gregorian, RecurringFrequency.plus, Option.getD_some, Nat.cast_one]

/-- The iOS dates keep a time exactly if it is one of whole seconds. -/
theorem dateOfMillis_eq_iff : Ios.dateOfMillis millis = millis ↔ millis % 1000 = 0 := by
  constructor
  · intro h
    rw [← h, Ios.dateOfMillis]
    exact Int.mul_emod_left _ _
  · intro h
    exact Int.tdiv_mul_cancel (Int.dvd_of_emod_eq_zero h)

/-- What is read of a date is the date, but for the milliseconds on iOS. -/
theorem dateRead_eq_iff :
    scheduler.dateRead millis = millis ↔
      (scheduler = iosRecurringViewModel → millis % 1000 = 0) := by
  cases scheduler with
  | recurringViewModel => exact iff_of_true rfl (fun h => nomatch h)
  | recurringTransactionManager => exact iff_of_true rfl (fun h => nomatch h)
  | iosRecurringViewModel =>
      rw [forall_prop_of_true rfl]
      exact dateOfMillis_eq_iff

/-- A date that is read as it is, is read so after every period. -/
theorem iterate_calculateNextExecution (k : ℕ) (hread : scheduler.dateRead startDate = startDate) :
    (scheduler.calculateNextExecution offset frequency)^[k] startDate =
      (frequency.plus offset 1)^[k] startDate := by
  induction k generalizing startDate with
  | zero => rfl
  | succ k ih =>
      have hnext : scheduler.dateRead (frequency.plus offset 1 startDate) =
          frequency.plus offset 1 startDate := by
        rw [dateRead_eq_iff, RecurringFrequency.emod_plus]
        exact dateRead_eq_iff.mp hread
      rw [Function.iterate_succ_apply, Function.iterate_succ_apply, calculateNextExecution_eq,
        hread, ih hnext]

/-- A date that is read in whole seconds does not come back to its milliseconds. -/
theorem iterate_calculateNextExecution_ne (hread : scheduler.dateRead startDate ≠ startDate)
    (hk : k ≠ 0) :
    (scheduler.calculateNextExecution offset frequency)^[k] startDate ≠
      frequency.plus offset k startDate := by
  intro heq
  have hios : scheduler = iosRecurringViewModel ∧ startDate % 1000 ≠ 0 := by
    rwa [Ne, dateRead_eq_iff, Classical.not_imp] at hread
  obtain ⟨rfl, hmillis⟩ := hios
  obtain ⟨l, rfl⟩ := Nat.exists_eq_succ_of_ne_zero hk
  have hmod := congrArg (· % 1000) heq
  simp only [Function.iterate_succ_apply', calculateNextExecution_eq,
    RecurringFrequency.emod_plus, dateRead, Ios.dateOfMillis, Int.mul_emod_left] at hmod
  exact hmillis hmod.symm

/-- **The executions do not drift** just when the start is read as it is and no month on the
way is shorter than the day that is reached. -/
theorem iterate_calculateNextExecution_eq_iff :
    (scheduler.calculateNextExecution offset frequency)^[k] startDate =
        frequency.plus offset k startDate ↔
      (scheduler = iosRecurringViewModel → k = 0 ∨ startDate % 1000 = 0) ∧
        frequency.KeepsDay k (JavaTime.localDate offset startDate) := by
  rcases Nat.eq_zero_or_pos k with rfl | hpos
  · refine iff_of_true ?_ ⟨fun _ => Or.inl rfl, fun j hpos hlt => absurd hlt (Nat.not_lt_zero j)⟩
    cases frequency <;> simp [RecurringFrequency.plus]
  · have hk : k ≠ 0 := hpos.ne'
    by_cases hread : scheduler.dateRead startDate = startDate
    · have hmillis := dateRead_eq_iff.mp hread
      rw [iterate_calculateNextExecution k hread, RecurringFrequency.iterate_plus_eq_iff]
      exact ⟨fun hday => ⟨fun hios => Or.inr (hmillis hios), hday⟩, And.right⟩
    · refine iff_of_false (iterate_calculateNextExecution_ne hread hk) ?_
      rintro ⟨hmillis, -⟩
      exact hread (dateRead_eq_iff.mpr fun hios => (hmillis hios).resolve_left hk)

/-- A monthly rule that starts on 31 January 2024 is executed on 29 March, not on the 31st. -/
theorem not_iterate_calculateNextExecution_eq_january :
    (recurringViewModel.calculateNextExecution 0 .monthly)^[2] 1706659200000 ≠
      RecurringFrequency.monthly.plus 0 2 1706659200000 := by
  decide

end Scheduler

end SpendCraft
