import SpendCraft.Ios.NotificationReminders
import Mathlib.Data.Int.Interval

/-!
# The Rows of the Notification Settings

The row of a template shows its time and its days: up to four days of the month one by one, more
of them by the first and the last. The form of a template offers days of the month where the
template has some.

## Conventions

A row is the time and the text of the days of its template; what a template shows for ever, its
texts and its colour, is left out of the comparison. A day of the week without a name would end
the app, and the texts are optional for that reason. A list of days of the month is shown by its
first and last one if it has five or more, in the order of the list.

## Proof

A run is followed by the invariant of `NotificationForms`, to which this module adds what the
forms do to the days: a template has days of the month as long as no save empties them
(`monthly_iff`). The texts are then compared: up to four days read back, and longer lists only by
their ends (`SameEnds`). A row tells its reminders unless two lists of days read the same, and the
condition `Abridged` is about the template alone.

## Main results

* `monthly_iff`: a template has days of the month as long as it is not saved without any.
* `monthDaysText_eq_iff`: which days of the month read the same.
* `rows_tell_iff`: when the rows tell the reminders.
-/

namespace SpendCraft.Ios

open Kotlin Machine PrefixCode NotificationManager

/-! ### What a save changes -/

namespace NotificationSettings

variable {settings : NotificationSettings} {view : EditTemplateView}

/-- **What a step does to the templates**: saving a form changes its template. -/
theorem Proper.templates_step (h : settings.Proper) (event : SettingsEvent) :
    ((settings.step event).manager.templates = settings.manager.templates ∧
      ∀ id view, event = .save id → settings.sheet ≠ some (.editTemplate view)) ∨
    ∃ id view, event = .save id ∧ settings.sheet = some (.editTemplate view) ∧
      ∃ place : ℕ, settings.manager.templates[place]? = some view.template ∧
        (settings.step event).manager.templates =
          settings.manager.templates.set place view.updatedTemplate := by
  cases hsheet : settings.sheet with
  | none =>
      refine Or.inl ⟨?_, by simp⟩
      cases event with
      | deleteCustom row =>
          simp only [NotificationSettings.step, hsheet]
          split <;> rfl
      | relaunch =>
          simp only [NotificationSettings.step, hsheet, h.launch_eq]
          rfl
      | _ => simp only [NotificationSettings.step, hsheet]
  | some sheet =>
      cases event with
      | save id =>
          simp only [NotificationSettings.step, hsheet]
          cases sheet with
          | editTemplate view =>
              obtain ⟨place, hplace, hupdate⟩ := h.exists_updateTemplate (h.sheet view hsheet)
              refine Or.inr ⟨id, view, rfl, rfl, place, hplace, ?_⟩
              rw [NotificationSettings.save, hupdate]
              rfl
          | addCustom view =>
              refine Or.inl ⟨?_, by simp⟩
              rw [NotificationSettings.save]
              split <;> rfl
          | editCustom view =>
              refine Or.inl ⟨?_, by simp⟩
              rw [NotificationSettings.save]
              split
              next => rfl
              next =>
                cases hupdate : settings.manager.updateCustomNotification
                    view.updatedNotification with
                | none => rfl
                | some manager => exact templates_updateCustomNotification hupdate
      | relaunch =>
          refine Or.inl ⟨?_, by simp⟩
          simp only [NotificationSettings.step, hsheet, h.launch_eq]
          rfl
      | _ =>
          refine Or.inl ⟨?_, by simp⟩
          simp only [NotificationSettings.step, hsheet, NotificationSettings.dismiss]

/-- The template in the row has days of the month. -/
def Monthly (row : ℕ) (settings : NotificationSettings) : Prop :=
  ∃ template, settings.manager.templates[row]? = some template ∧
    template.daysOfMonth.isSome = true

/-- The form of the row is not saved without a day. -/
def KeepsADay (row : ℕ) (settings : NotificationSettings) : SettingsEvent → Prop
  | .save _ => ∀ view, settings.sheet = some (.editTemplate view) →
      settings.manager.templates[row]? = some view.template → view.selectedMonthDays ≠ ∅
  | _ => True

/-- A saved template has days of the month exactly if it had some and one is selected: an emptied
selection is saved as none. -/
theorem isSome_updatedTemplate_iff : view.updatedTemplate.daysOfMonth.isSome = true ↔
    view.template.daysOfMonth.isSome = true ∧ view.selectedMonthDays ≠ ∅ := by
  rw [EditTemplateView.updatedTemplate]
  split
  next hsome => rw [and_iff_right hsome, Ne, ← savedDays_eq_none_iff, Option.isSome_iff_ne_none]
  next hnone => simp [hnone]

/-- A template of the row is monthly after a step exactly if it was and the step keeps a day. -/
theorem Proper.monthly_step_iff (h : settings.Proper) (row : ℕ) (event : SettingsEvent) :
    (settings.step event).Monthly row ↔ settings.Monthly row ∧ settings.KeepsADay row event := by
  obtain ⟨hsame, hother⟩ | ⟨id, view, rfl, hsheet, place, hplace, htemplates⟩ :=
    h.templates_step event
  · have hkeeps : settings.KeepsADay row event := by
      cases event with
      | save id => exact fun view hsheet => absurd hsheet (hother id view rfl)
      | _ => trivial
    rw [Monthly, hsame, and_iff_left hkeeps, Monthly]
  · rw [Monthly, htemplates]
    by_cases hrow : place = row
    · obtain rfl := hrow
      have hlt := (List.getElem?_eq_some_iff.mp hplace).1
      have hmonthly : settings.Monthly place ↔ view.template.daysOfMonth.isSome = true := by
        simp [Monthly, hplace]
      have hkeeps : settings.KeepsADay place (.save id) ↔ view.selectedMonthDays ≠ ∅ := by
        simp [KeepsADay, hsheet, hplace]
      rw [hmonthly, hkeeps, ← isSome_updatedTemplate_iff, List.getElem?_set_self hlt]
      simp
    · have hkeeps : settings.KeepsADay row (.save id) := by
        intro view' hsheet' hrow'
        obtain rfl := SettingsSheet.editTemplate.inj (Option.some.inj (hsheet.symm.trans hsheet'))
        exact absurd (h.distinct.place_eq hplace hrow' rfl) hrow
      rw [List.getElem?_set_ne hrow, and_iff_left hkeeps, Monthly]

/-- **Days of the month are lost for ever**: a template has some just when it had some at first,
and every save of its form kept one. -/
theorem monthly_iff (row : ℕ) (events : List SettingsEvent) :
    (run step fresh events).Monthly row ↔
      fresh.Monthly row ∧ AllSteps step (KeepsADay row) fresh events :=
  run_iff_allSteps (fun _ event h => Proper.step h event)
    (fun _ event h => Proper.monthly_step_iff h row event) proper_fresh events

end NotificationSettings

/-! ### Texts -/

/-- `String(format: "%02d:%02d", hour, minute)` of an hour and a minute of a day. -/
def clockText (hour minute : ℤ) : Text :=
  padStart (intText hour) 2 '0' ++ ':' :: padStart (intText minute) 2 '0'

namespace NotificationTemplateRow

/-- `dayNames`, with Sunday first. -/
def dayNames : List Text :=
  ["Paz".toList, "Pzt".toList, "Sal".toList, "Çar".toList, "Per".toList, "Cum".toList,
    "Cmt".toList]

/-- `dayNames[day - 1]`, which traps where there is no such name. -/
def dayName (day : ℤ) : Option Text :=
  if 1 ≤ day then dayNames[(day - 1).toNat]? else none

/-- The text of the days of the week; a day without a name ends the app. -/
def daysText (days : List ℤ) : Option Text :=
  (days.mapM dayName).map fun names => ", ".toList.intercalate names

/-- The text of the days of the month: from five days on only the first and the last of the list
are shown. -/
def monthDaysText (days : List ℤ) : Text :=
  if days.length > 4 then
    intText (days.head?.getD 1) ++ '-' :: (intText (days.getLast?.getD 1) ++ ". günleri".toList)
  else ", ".toList.intercalate (days.map fun day => intText day ++ ['.']) ++ " günleri".toList

end NotificationTemplateRow

namespace NotificationTemplate

open NotificationTemplateRow

/-- The days in a row. `none` is a trap. -/
def rowDays (template : NotificationTemplate) : Option Text :=
  match template.daysOfMonth, template.daysOfWeek with
  | some monthDays, _ => some ("• Ayın ".toList ++ monthDaysText monthDays)
  | none, some weekDays => (daysText weekDays).map fun text => "• ".toList ++ text
  | none, none => some "• Her gün".toList

/-- What a row shows, beside what is the template's own for ever. -/
def row (template : NotificationTemplate) : Option (Text × Text × Bool) :=
  template.rowDays.map fun days =>
    (clockText template.hour template.minute, days, template.isEnabled)

end NotificationTemplate

/-- A number that is not negative is written by its digits alone. -/
theorem intText_of_nonneg {n : ℤ} (h : 0 ≤ n) : intText n = Nat.toDigits 10 n.natAbs :=
  if_neg (not_lt.mpr h)

/-- The text of a time shows the time, as both parts have two digits. -/
theorem clockText_injective {hour minute hour' minute' : ℤ} (hhour : 0 ≤ hour ∧ hour < 100)
    (hhour' : 0 ≤ hour' ∧ hour' < 100) (hminute : 0 ≤ minute ∧ minute < 100)
    (hminute' : 0 ≤ minute' ∧ minute' < 100)
    (h : clockText hour minute = clockText hour' minute') : hour = hour' ∧ minute = minute' := by
  have hlength {n : ℤ} (hn : 0 ≤ n ∧ n < 100) :
      (padStart (Nat.toDigits 10 n.natAbs) 2 '0').length = 2 :=
    length_padStart_toDigits (by decide) (by omega)
  have hvalue {n n' : ℤ} (hn : 0 ≤ n) (hn' : 0 ≤ n')
      (heq : padStart (Nat.toDigits 10 n.natAbs) 2 '0' =
        padStart (Nat.toDigits 10 n'.natAbs) 2 '0') : n = n' := by
    have hnat := congrArg (fun s => Nat.ofDigitChars 10 s 0) heq
    simp only [ofDigitChars_padStart] at hnat
    omega
  rw [clockText, clockText, intText_of_nonneg hhour.1, intText_of_nonneg hminute.1,
    intText_of_nonneg hhour'.1, intText_of_nonneg hminute'.1] at h
  obtain ⟨hhours, hminutes⟩ := List.append_inj h ((hlength hhour).trans (hlength hhour').symm)
  exact ⟨hvalue hhour.1 hhour'.1 hhours, hvalue hminute.1 hminute'.1 (List.cons.inj hminutes).2⟩

namespace NotificationTemplateRow

/-- A day with its point. -/
def dayText (day : ℤ) : Text :=
  intText day ++ ['.']

/-- The text of a day number consists of digits. -/
theorem digits_intText {day : ℤ} (h : 0 ≤ day) {c : Char} (hc : c.isDigit = false) :
    c ∉ intText day :=
  (digitsAnd_intText_of_nonneg [] h).not_mem ⟨hc, List.not_mem_nil⟩

/-- No text of a single day starts another one, as each ends with its full stop. -/
theorem prefixFree_dayTexts : PrefixFree {text | ∃ day : ℤ, 0 ≤ day ∧ text = dayText day} := by
  rintro _ ⟨day, hday, rfl⟩ _ ⟨day', hday', rfl⟩ ⟨rest, hrest⟩
  have hmarked : intText day ++ [rest].flatMap (fun u => '.' :: u) =
      intText day' ++ [[]].flatMap (fun u => '.' :: u) := by
    simpa [dayText] using hrest
  obtain ⟨heq, -⟩ := marked_append_inj (digits_intText hday (by decide))
    (digits_intText hday' (by decide)) hmarked
  rw [dayText, dayText, heq]

/-- Days that are shown one by one. -/
theorem shortText_injective {days days' : List ℤ} (h : ∀ day ∈ days, 0 ≤ day)
    (h' : ∀ day ∈ days', 0 ≤ day)
    (heq : ", ".toList.intercalate (days.map dayText) =
      ", ".toList.intercalate (days'.map dayText)) : days = days' := by
  have hinjective : Function.Injective dayText := fun day day' hday =>
    intText_injective (List.append_cancel_right hday)
  refine hinjective.list_map (prefixFree_dayTexts.intercalate_injective ?_ (by decide) ?_ ?_ heq)
  · rintro ⟨day, -, hnil⟩
    exact absurd hnil.symm (List.append_ne_nil_of_right_ne_nil _ (List.cons_ne_nil _ _))
  · intro text htext
    obtain ⟨day, hday, rfl⟩ := List.mem_map.mp htext
    exact ⟨day, h day hday, rfl⟩
  · intro text htext
    obtain ⟨day, hday, rfl⟩ := List.mem_map.mp htext
    exact ⟨day, h' day hday, rfl⟩

/-- Days that are shown by the first and the last. -/
theorem longText_injective {first last first' last' : ℤ} (hfirst : 0 ≤ first) (hfirst' : 0 ≤ first')
    (heq : intText first ++ '-' :: (intText last ++ ". günleri".toList) =
      intText first' ++ '-' :: (intText last' ++ ". günleri".toList)) :
    first = first' ∧ last = last' := by
  have hwhole : (intText first ++ '-' :: intText last) ++ ". günleri".toList =
      (intText first' ++ '-' :: intText last') ++ ". günleri".toList := by
    simpa using heq
  have hmarked : intText first ++ [intText last].flatMap (fun u => '-' :: u) =
      intText first' ++ [intText last'].flatMap (fun u => '-' :: u) := by
    simpa using List.append_cancel_right hwhole
  obtain ⟨hfirsts, hlasts⟩ := marked_append_inj (digits_intText hfirst (by decide))
    (digits_intText hfirst' (by decide)) hmarked
  exact ⟨intText_injective hfirsts, intText_injective (by simpa using hlasts)⟩

/-- The text of a few days has no dash. -/
theorem minus_notMem_shortText {days : List ℤ} (h : ∀ day ∈ days, 0 ≤ day) :
    '-' ∉ ", ".toList.intercalate (days.map dayText) ++ " günleri".toList := by
  have hnames : '-' ∉ ", ".toList.intercalate (days.map dayText) := by
    refine notMem_intercalate (by decide) fun text htext hmem => ?_
    obtain ⟨day, hday, rfl⟩ := List.mem_map.mp htext
    rcases List.mem_append.mp hmem with hdigits | hpoint
    · exact digits_intText (h day hday) (by decide) hdigits
    · exact absurd hpoint (by decide)
  rintro hmem
  rcases List.mem_append.mp hmem with hdays | hend
  · exact hnames hdays
  · exact absurd hend (by decide)

end NotificationTemplateRow

/-! ### Days that read the same -/

/-- More than four days, with the same first and last. -/
def SameEnds (days days' : List ℤ) : Prop :=
  4 < days.length ∧ 4 < days'.length ∧ days.head? = days'.head? ∧ days.getLast? = days'.getLast?

section Days

open NotificationTemplateRow

variable {bound first last day : ℤ} {days days' : List ℤ}

/-- Days with the same ends have the same text. -/
theorem SameEnds.monthDaysText_eq (h : SameEnds days days') :
    monthDaysText days = monthDaysText days' := by
  obtain ⟨hlong, hlong', hhead, hlast⟩ := h
  rw [monthDaysText, monthDaysText, if_pos hlong, if_pos hlong', hhead, hlast]

/-- Proper days have a first day. -/
theorem ProperDays.exists_head? (h : ProperDays bound days) : ∃ first, days.head? = some first :=
  Option.ne_none_iff_exists'.mp (mt List.head?_eq_none_iff.mp h.nonempty)

/-- Proper days have a last day. -/
theorem ProperDays.exists_getLast? (h : ProperDays bound days) :
    ∃ last, days.getLast? = some last :=
  Option.ne_none_iff_exists'.mp (mt List.getLast?_eq_none_iff.mp h.nonempty)

/-- **Which days of the month read the same.** -/
theorem monthDaysText_eq_iff (h : ProperDays bound days) (h' : ProperDays bound days') :
    monthDaysText days = monthDaysText days' ↔ days = days' ∨ SameEnds days days' := by
  have hnonneg {days : List ℤ} (h : ProperDays bound days) : ∀ day ∈ days, 0 ≤ day :=
    fun day hday => by have := (h.range day hday).1; omega
  have hmixed {days days' : List ℤ} (h : ProperDays bound days) (hshort : ¬ 4 < days.length)
      (hlong : 4 < days'.length) : monthDaysText days ≠ monthDaysText days' := by
    intro heq
    rw [monthDaysText, monthDaysText, if_neg hshort, if_pos hlong] at heq
    refine minus_notMem_shortText (hnonneg h) ?_
    rw [show days.map dayText = days.map fun day => intText day ++ ['.'] from rfl, heq]
    exact List.mem_append_right _ List.mem_cons_self
  constructor
  · intro heq
    by_cases hlong : 4 < days.length <;> by_cases hlong' : 4 < days'.length
    · obtain ⟨first, hfirst⟩ := h.exists_head?
      obtain ⟨first', hfirst'⟩ := h'.exists_head?
      obtain ⟨last, hlast⟩ := h.exists_getLast?
      obtain ⟨last', hlast'⟩ := h'.exists_getLast?
      rw [monthDaysText, monthDaysText, if_pos hlong, if_pos hlong', hfirst, hfirst', hlast,
        hlast'] at heq
      obtain ⟨rfl, rfl⟩ := longText_injective
        (hnonneg h first (List.mem_of_mem_head? hfirst))
        (hnonneg h' first' (List.mem_of_mem_head? hfirst')) heq
      exact Or.inr ⟨hlong, hlong', hfirst.trans hfirst'.symm, hlast.trans hlast'.symm⟩
    · exact absurd heq.symm (hmixed h' hlong' hlong)
    · exact absurd heq (hmixed h hlong hlong')
    · rw [monthDaysText, monthDaysText, if_neg hlong, if_neg hlong'] at heq
      exact Or.inl (shortText_injective (hnonneg h) (hnonneg h') (List.append_cancel_right heq))
  · rintro (rfl | hends)
    · rfl
    · exact hends.monthDaysText_eq

/-- The head of proper days is the least of them. -/
theorem ProperDays.head_le (h : ProperDays bound days) (hfirst : days.head? = some first) :
    first ∈ days ∧ ∀ day ∈ days, first ≤ day := by
  cases days with
  | nil => cases hfirst
  | cons day days =>
      obtain rfl := Option.some.inj hfirst
      refine ⟨List.mem_cons_self, List.forall_mem_cons.mpr ⟨le_refl day, fun other hother => ?_⟩⟩
      exact ((List.pairwise_cons.mp h.sorted).1 other hother).le

/-- The last of proper days is the greatest of them. -/
theorem ProperDays.le_getLast (h : ProperDays bound days) (hlast : days.getLast? = some last) :
    last ∈ days ∧ ∀ day ∈ days, day ≤ last := by
  obtain ⟨before, rfl⟩ := List.getLast?_eq_some_iff.mp hlast
  refine ⟨List.mem_append_right _ List.mem_cons_self, fun day hday => ?_⟩
  rcases List.mem_append.mp hday with hbefore | hself
  · exact ((List.pairwise_append.mp h.sorted).2.2 day hbefore last List.mem_cons_self).le
  · exact (List.mem_singleton.mp hself).le

/-- The least of proper days is their head. -/
theorem ProperDays.head?_eq (h : ProperDays bound days) (hmem : first ∈ days)
    (hle : ∀ day ∈ days, first ≤ day) : days.head? = some first := by
  cases hfirst : days.head? with
  | none => exact absurd (List.head?_eq_none_iff.mp hfirst) h.nonempty
  | some other =>
      obtain ⟨hother, hleast⟩ := h.head_le hfirst
      rw [le_antisymm (hleast first hmem) (hle other hother)]

/-- The greatest of proper days is their last. -/
theorem ProperDays.getLast?_eq (h : ProperDays bound days) (hmem : last ∈ days)
    (hle : ∀ day ∈ days, day ≤ last) : days.getLast? = some last := by
  cases hlast : days.getLast? with
  | none => exact absurd (List.getLast?_eq_none_iff.mp hlast) h.nonempty
  | some other =>
      obtain ⟨hother, hgreatest⟩ := h.le_getLast hlast
      rw [le_antisymm (hle other hother) (hgreatest last hmem)]

/-- As no day is listed twice, the set of the days has as many elements as the list. -/
theorem ProperDays.card_toFinset (h : ProperDays bound days) :
    days.toFinset.card = days.length :=
  List.toFinset_card_of_nodup h.nodup

/-- Proper days are the sorted list of their set, so the set determines them. -/
theorem ProperDays.eq_of_toFinset_eq (h : ProperDays bound days) (h' : ProperDays bound days')
    (heq : days.toFinset = days'.toFinset) : days = days' := by
  have hsaved := savedDays_toFinset h
  rw [heq, savedDays_toFinset h'] at hsaved
  exact (Option.some.inj hsaved).symm

/-- Proper days lie between their ends. -/
theorem ProperDays.subset_Icc (h : ProperDays bound days) (hfirst : days.head? = some first)
    (hlast : days.getLast? = some last) : days.toFinset ⊆ Finset.Icc first last := by
  intro day hday
  have hmem := List.mem_toFinset.mp hday
  exact Finset.mem_Icc.mpr ⟨(h.head_le hfirst).2 day hmem, (h.le_getLast hlast).2 day hmem⟩

/-- Five days in a row are all days between the first and the last. -/
theorem ProperDays.toFinset_eq_Icc (h : ProperDays bound days) (hfirst : days.head? = some first)
    (hlast : days.getLast? = some last) (hlong : 4 < days.length) (hfive : last - first = 4) :
    days.toFinset = Finset.Icc first last := by
  refine Finset.eq_of_subset_of_card_le (h.subset_Icc hfirst hlast) ?_
  rw [Int.card_Icc, h.card_toFinset]
  omega

/-- Of more days in a row, one between the first and the last can be taken out; of others, one
can be put in. -/
theorem ProperDays.exists_tapped (h : ProperDays 31 days) (hfirst : days.head? = some first)
    (hlast : days.getLast? = some last) (hlong : 4 < days.length) (hnot : last - first ≠ 4) :
    ∃ day, (1 ≤ day ∧ day ≤ 31) ∧ ∃ days', savedDays (tapped day days.toFinset) = some days' ∧
      SameEnds days days' ∧ (day ∈ days' ↔ day ∉ days) := by
  obtain ⟨hfirstMem, hleast⟩ := h.head_le hfirst
  obtain ⟨hlastMem, hgreatest⟩ := h.le_getLast hlast
  have hsubset := h.subset_Icc hfirst hlast
  have hcard := h.card_toFinset
  have hspan : 4 < last - first := by
    have hle := Finset.card_le_card hsubset
    rw [Int.card_Icc, hcard] at hle
    omega
  obtain ⟨day, hbetween, hmany⟩ : ∃ day, (first < day ∧ day < last) ∧
      4 < (tapped day days.toFinset).card := by
    by_cases hgap : ∃ day, (first < day ∧ day < last) ∧ day ∉ days
    · obtain ⟨day, hbetween, hday⟩ := hgap
      refine ⟨day, hbetween, ?_⟩
      rw [tapped, if_neg (by simpa using hday), Finset.card_insert_of_notMem (by simpa using hday)]
      omega
    · push Not at hgap
      have hall : Finset.Icc first last ⊆ days.toFinset := by
        intro day hday
        obtain ⟨hle, hge⟩ := Finset.mem_Icc.mp hday
        rw [List.mem_toFinset]
        rcases hle.eq_or_lt with rfl | hlt
        · exact hfirstMem
        · rcases hge.eq_or_lt with rfl | hgt
          · exact hlastMem
          · exact hgap day ⟨hlt, hgt⟩
      have hle := Finset.card_le_card hall
      rw [Int.card_Icc] at hle
      have hmem : first + 1 ∈ days := hgap (first + 1) ⟨by omega, by omega⟩
      refine ⟨first + 1, ⟨by omega, by omega⟩, ?_⟩
      rw [tapped, if_pos (by simpa using hmem), Finset.card_erase_of_mem (by simpa using hmem)]
      omega
  have hrange : 1 ≤ day ∧ day ≤ 31 := by
    have hfirstRange := h.range first hfirstMem
    have hlastRange := h.range last hlastMem
    omega
  have hwithin : Within 31 days.toFinset := fun other hother =>
    h.range other (List.mem_toFinset.mp hother)
  have hne : tapped day days.toFinset ≠ ∅ := by
    rintro hempty
    rw [hempty] at hmany
    exact absurd hmany (by simp)
  obtain ⟨days', hsaved⟩ := Option.ne_none_iff_exists'.mp (mt savedDays_eq_none_iff.mp hne)
  have h' : ProperDays 31 days' := (hwithin.tapped hrange).properDays days' hsaved
  have hmem (other : ℤ) : other ∈ days' ↔ if other = day then day ∉ days else other ∈ days := by
    rw [← List.mem_toFinset, toFinset_of_savedDays hsaved, mem_tapped, List.mem_toFinset,
      List.mem_toFinset]
  have hother {other : ℤ} (hne : other ≠ day) : other ∈ days' ↔ other ∈ days := by
    rw [hmem, if_neg hne]
  have hinside : ∀ other ∈ days', first ≤ other ∧ other ≤ last := by
    intro other hday
    by_cases heq : other = day
    · omega
    · have hold := (hother heq).mp hday
      exact ⟨hleast other hold, hgreatest other hold⟩
  refine ⟨day, hrange, days', hsaved, ⟨hlong, ?_, ?_, ?_⟩, by rw [hmem, if_pos rfl]⟩
  · rwa [← h'.card_toFinset, toFinset_of_savedDays hsaved]
  · rw [hfirst, h'.head?_eq ((hother (by omega)).mpr hfirstMem) fun other hday =>
      (hinside other hday).1]
  · rw [hlast, h'.getLast?_eq ((hother (by omega)).mpr hlastMem) fun other hday =>
      (hinside other hday).2]

end Days

/-! ### Rows and reminders -/

namespace NotificationTemplate

open NotificationTemplateRow

variable {template template' : NotificationTemplate}

/-- More than four days, which are not five in a row. -/
def Abridged (template : NotificationTemplate) : Prop :=
  ∃ days ∈ template.daysOfMonth, 4 < days.length ∧ ∃ first last,
    days.head? = some first ∧ days.getLast? = some last ∧ last - first ≠ 4

/-- No row traps. -/
theorem exists_rowDays (hfixed : template.fixed ∈ templates.map fixed) :
    ∃ text, template.rowDays = some text := by
  have hnames : ∀ part ∈ templates.map fixed, ∀ days ∈ part.2.2.2,
      (daysText days).isSome = true := by decide
  cases hmonth : template.daysOfMonth with
  | some monthDays =>
      exact ⟨"• Ayın ".toList ++ monthDaysText monthDays, by simp only [rowDays, hmonth]⟩
  | none =>
      cases hweek : template.daysOfWeek with
      | some weekDays =>
          obtain ⟨text, htext⟩ := Option.isSome_iff_exists.mp
            (hnames template.fixed hfixed weekDays hweek)
          exact ⟨"• ".toList ++ text, by simp only [rowDays, hmonth, hweek, htext, Option.map_some]⟩
      | none => exact ⟨"• Her gün".toList, by simp only [rowDays, hmonth, hweek]⟩

/-- Rows that show the same days belong to the same days, or to days with the same ends. -/
theorem rowDays_eq (h : template.Proper) (h' : template'.Proper)
    (hweek : template.daysOfWeek = template'.daysOfWeek)
    (heq : template.rowDays = template'.rowDays) :
    template.daysOfMonth = template'.daysOfMonth ∨ ∃ days ∈ template.daysOfMonth,
      ∃ days' ∈ template'.daysOfMonth, SameEnds days days' := by
  -- A template with days of the month and one without do not read the same.
  have hmixed {template template' : NotificationTemplate} {days : List ℤ} (h : template.Proper)
      (hweek : template.daysOfWeek = template'.daysOfWeek)
      (hsome : template.daysOfMonth = some days) (hnone : template'.daysOfMonth = none) :
      template.rowDays ≠ template'.rowDays := by
    have hdaily : template'.daysOfWeek = none := by
      rw [← hweek, h.monthly (by rw [hsome]; rfl)]
    intro heq
    simp only [rowDays, hsome, hnone, hdaily] at heq
    have hthird := congrArg (fun s : Text => s[2]?) (Option.some.inj heq)
    have hmonthly (s : Text) : ("• Ayın ".toList ++ s)[2]? = some 'A' := rfl
    rw [hmonthly] at hthird
    exact absurd hthird (by decide)
  cases hsome : template.daysOfMonth with
  | some days =>
      cases hsome' : template'.daysOfMonth with
      | some days' =>
          simp only [rowDays, hsome, hsome'] at heq
          have htext := List.append_cancel_left (Option.some.inj heq)
          refine ((monthDaysText_eq_iff (h.days days hsome) (h'.days days' hsome')).mp htext).imp
            (congrArg some) fun hends => ⟨days, rfl, days', rfl, hends⟩
      | none => exact absurd heq (hmixed h hweek hsome hsome')
  | none =>
      cases hsome' : template'.daysOfMonth with
      | some days' => exact absurd heq.symm (hmixed h' hweek.symm hsome' hsome)
      | none => exact Or.inl rfl

/-- Days with the same ends are shown by the same row. -/
theorem row_eq_of_sameEnds {days days' : List ℤ} (hdays : template.daysOfMonth = some days)
    (hends : SameEnds days days') :
    { template with daysOfMonth := some days' }.row = template.row := by
  have hrow : template.rowDays = some ("• Ayın ".toList ++ monthDaysText days) := by
    simp only [rowDays, hdays]
  rw [row, row, hrow, hends.monthDaysText_eq]
  rfl

/-- **A row tells its template**, if it shows all of its days. -/
theorem eq_of_row_eq (h : template.Proper) (h' : template'.Proper)
    (hfixed : template.fixed = template'.fixed) (hmem : template.fixed ∈ templates.map fixed)
    (hfull : ¬ template.Abridged) (heq : template.row = template'.row) : template = template' := by
  obtain ⟨text, htext⟩ := exists_rowDays hmem
  obtain ⟨text', htext'⟩ := exists_rowDays (hfixed ▸ hmem)
  simp only [row, htext, htext', Option.map_some, Option.some_inj, Prod.mk.injEq] at heq
  obtain ⟨hclock, rfl, henabled⟩ := heq
  have hhour := h.hour
  have hhour' := h'.hour
  have hminute := h.minute
  have hminute' := h'.minute
  obtain ⟨hhours, hminutes⟩ :=
    clockText_injective (by omega) (by omega) (by omega) (by omega) hclock
  obtain ⟨hid, htitle, hbody, hweek⟩ : template.id = template'.id ∧
      template.title = template'.title ∧ template.body = template'.body ∧
        template.daysOfWeek = template'.daysOfWeek := by
    simpa [fixed] using hfixed
  have hdays : template.daysOfMonth = template'.daysOfMonth := by
    rcases rowDays_eq h h' hweek (htext.trans htext'.symm) with hsame | hends
    · exact hsame
    · obtain ⟨days, hdays, days', hdays', hlong, hlong', hhead, hlast⟩ := hends
      have hproper := h.days days hdays
      have hproper' := h'.days days' hdays'
      obtain ⟨first, hfirst⟩ := hproper.exists_head?
      obtain ⟨last, hlast₁⟩ := hproper.exists_getLast?
      have hfive : last - first = 4 := by
        by_contra hne
        exact hfull ⟨days, hdays, hlong, first, last, hfirst, hlast₁, hne⟩
      have hsame : days = days' := hproper.eq_of_toFinset_eq hproper'
        ((hproper.toFinset_eq_Icc hfirst hlast₁ hlong hfive).trans
          (hproper'.toFinset_eq_Icc (hhead ▸ hfirst) (hlast ▸ hlast₁) hlong' hfive).symm)
      rw [Option.mem_def.mp hdays, Option.mem_def.mp hdays', hsame]
  obtain ⟨id, title, body, hour, minute, isEnabled, daysOfWeek, daysOfMonth⟩ := template
  obtain ⟨id', title', body', hour', minute', isEnabled', daysOfWeek', daysOfMonth'⟩ := template'
  simp_all

end NotificationTemplate

/-- The requests for the templates. -/
def NotificationManager.templateRequests (manager : NotificationManager) :
    List NotificationRequest :=
  requests { manager with customNotifications := [] }

namespace NotificationSettings

variable {settings settings' : NotificationSettings} {template : NotificationTemplate}

/-- The rows of the templates. -/
def rows (settings : NotificationSettings) : List (Option (Text × Text × Bool)) :=
  settings.manager.templates.map NotificationTemplate.row

/-- The request for a day of the month. -/
def monthRequest (template : NotificationTemplate) (day : ℤ) : NotificationRequest :=
  { identifier := (RequestDay.month day).identifier template.id
    title := template.title
    body := template.body
    trigger := (RequestDay.month day).trigger template.hour template.minute }

/-- The requests of an enabled monthly template are those of its days. -/
theorem Proper.monthRequest_mem_iff (h : settings.Proper)
    (hmem : template ∈ settings.manager.templates) (henabled : template.isEnabled = true)
    {days : List ℤ} (hdays : template.daysOfMonth = some days) (day : ℤ) :
    monthRequest template day ∈ settings.manager.templateRequests ↔ day ∈ days := by
  rw [templateRequests, requests_eq_flatMap]
  simp only [NotificationManager.enabled, List.filter_nil, List.map_nil, List.append_nil,
    List.mem_flatMap, List.mem_map]
  constructor
  · rintro ⟨_, ⟨other, hother, rfl⟩, day', hday', heq⟩
    have hother := List.mem_of_mem_filter hother
    have hid {template : NotificationTemplate} (hmem : template ∈ settings.manager.templates) :
        template.id ∈ NotificationTemplate.templates.map NotificationTemplate.id :=
      h.templateIds ▸ List.mem_map_of_mem hmem
    have hidentifier : day'.identifier other.id = (RequestDay.month day).identifier template.id :=
      congrArg NotificationRequest.identifier heq
    obtain ⟨hsame, rfl⟩ := eq_of_identifier_eq prefixFree_ids (Or.inl (hid hother))
      (Or.inl (hid hmem)) hidentifier
    obtain rfl := List.inj_on_of_nodup_map h.distinct hother hmem hsame
    simpa [RequestDay.all, hdays] using hday'
  · intro hday
    refine ⟨_, ⟨template, List.mem_filter.mpr ⟨hmem, henabled⟩, rfl⟩, .month day, ?_, rfl⟩
    simpa [RequestDay.all, hdays] using hday

/-- Where the rows show all days, the same rows are those of the same templates. -/
theorem filter_isEnabled_eq {templates templates' : List NotificationTemplate}
    (h : ∀ template ∈ templates, template.Proper) (h' : ∀ template ∈ templates', template.Proper)
    (hmem : ∀ template ∈ templates,
      template.fixed ∈ NotificationTemplate.templates.map NotificationTemplate.fixed)
    (hfixed : templates.map NotificationTemplate.fixed =
      templates'.map NotificationTemplate.fixed)
    (hrows : templates.map NotificationTemplate.row = templates'.map NotificationTemplate.row)
    (hfull : ∀ template ∈ templates, template.isEnabled = true → ¬ template.Abridged) :
    templates.filter NotificationTemplate.isEnabled =
      templates'.filter NotificationTemplate.isEnabled := by
  induction templates generalizing templates' with
  | nil => rw [List.map_eq_nil_iff.mp hrows.symm]
  | cons template templates ih =>
      cases templates' with
      | nil => cases hrows
      | cons template' templates' =>
          rw [List.map_cons, List.map_cons, List.cons.injEq] at hfixed hrows
          have hrest := ih (fun t ht => h t (List.mem_cons_of_mem _ ht))
            (fun t ht => h' t (List.mem_cons_of_mem _ ht))
            (fun t ht => hmem t (List.mem_cons_of_mem _ ht)) hfixed.2 hrows.2
            (fun t ht => hfull t (List.mem_cons_of_mem _ ht))
          have hproper := h template List.mem_cons_self
          have hproper' := h' template' List.mem_cons_self
          have hknown := hmem template List.mem_cons_self
          have henabled : template.isEnabled = template'.isEnabled := by
            obtain ⟨text, htext⟩ := NotificationTemplate.exists_rowDays hknown
            obtain ⟨text', htext'⟩ := NotificationTemplate.exists_rowDays (hfixed.1 ▸ hknown)
            have hrow := hrows.1
            simp only [NotificationTemplate.row, htext, htext', Option.map_some,
              Option.some_inj, Prod.mk.injEq] at hrow
            exact hrow.2.2
          cases hon : template.isEnabled with
          | true =>
              have hsame := NotificationTemplate.eq_of_row_eq hproper hproper' hfixed.1 hknown
                (hfull template List.mem_cons_self hon) hrows.1
              rw [List.filter_cons_of_pos hon, List.filter_cons_of_pos (henabled ▸ hon), hsame,
                hrest]
          | false =>
              rw [List.filter_cons_of_neg (by simp [hon]),
                List.filter_cons_of_neg (by simp [← henabled, hon]), hrest]

/-- The taps that change one day of a template. -/
def changeDay (row : ℕ) (day : ℤ) : List SettingsEvent :=
  [.cancel, .openTemplate row, .edit (.day day), .save []]

/-- A change of one day in the form and a save: the template of the row has the days with that one
tapped. -/
theorem Proper.run_changeDay (h : settings.Proper) {row : ℕ}
    (hrow : settings.manager.templates[row]? = some template) {days : List ℤ}
    (hdays : template.daysOfMonth = some days) {day : ℤ} (hday : 1 ≤ day ∧ day ≤ 31) :
    (run NotificationSettings.step settings (changeDay row day)).manager.templates =
      settings.manager.templates.set row
        { template with daysOfMonth := savedDays (tapped day days.toFinset) } := by
  let view : EditTemplateView := (EditTemplateView.init template).edit (.day day)
  have hview : view = { EditTemplateView.init template with
      selectedMonthDays := tapped day days.toFinset } := by
    have hoffered : (EditTemplateView.init template).template.daysOfMonth.isSome = true ∧
        1 ≤ day ∧ day ≤ 31 := ⟨by simp [EditTemplateView.init, hdays], hday⟩
    simp only [view, EditTemplateView.edit, if_pos hoffered]
    simp [EditTemplateView.init, hdays]
  have hopened : run NotificationSettings.step settings (changeDay row day) =
      { settings with sheet := some (.editTemplate view) }.step (.save []) := by
    cases hsheet : settings.sheet <;>
      simp [changeDay, NotificationSettings.step, hsheet, NotificationSettings.dismiss, hrow,
        SettingsSheet.edit, view]
  have hmem := List.mem_of_getElem? hrow
  have hproper : Proper { settings with sheet := some (.editTemplate view) } := by
    refine h.withSheet _ fun view' hview' => ?_
    obtain rfl := SettingsSheet.editTemplate.inj (Option.some.inj hview')
    exact (EditTemplateView.Proper.init (h.templates template hmem) hmem).edit _
  obtain ⟨-, hother⟩ | ⟨id, view', -, hsheet, place, hplace, htemplates⟩ :=
    hproper.templates_step (.save [])
  · exact absurd rfl (hother [] view rfl)
  · obtain rfl := SettingsSheet.editTemplate.inj (Option.some.inj hsheet)
    rw [hopened, htemplates]
    have htemplate : view.template = template := by
      rw [hview]
      rfl
    obtain rfl := h.distinct.place_eq hplace hrow (congrArg _ htemplate)
    rw [hview]
    simp [EditTemplateView.updatedTemplate, EditTemplateView.init, hdays]

/-- **What the rows tell.** Wherever the same rows are shown, the same reminders of the templates
are scheduled, just when no template that is on has more than four days of the month, but for five
days in a row. -/
theorem rows_tell_iff (events : List SettingsEvent) :
    (∀ events', (run step fresh events').rows = (run step fresh events).rows →
      (run step fresh events').manager.templateRequests =
        (run step fresh events).manager.templateRequests) ↔
    ∀ template ∈ (run step fresh events).manager.templates, template.isEnabled = true →
      ¬ template.Abridged := by
  have h := proper_run events
  constructor
  · rintro htell template hmem henabled ⟨days, hdays, hlong, first, last, hfirst, hlast, hnot⟩
    obtain ⟨row, hrow⟩ := List.mem_iff_getElem?.mp hmem
    have hproper := (h.templates template hmem).days days hdays
    obtain ⟨day, hday, days', hsaved, hends, hchanged⟩ :=
      hproper.exists_tapped hfirst hlast hlong hnot
    have hrun := h.run_changeDay hrow hdays hday
    rw [hsaved, ← run_append] at hrun
    have hrows : (run step fresh (events ++ changeDay row day)).rows =
        (run step fresh events).rows := by
      rw [rows, hrun]
      exact KeyedItems.map_set_of_getElem? hrow
        (NotificationTemplate.row_eq_of_sameEnds hdays hends)
    -- The day is asked for in one of the states.
    have hlt := (List.getElem?_eq_some_iff.mp hrow).1
    have hmem' : { template with daysOfMonth := some days' } ∈
        (run step fresh (events ++ changeDay row day)).manager.templates :=
      hrun ▸ List.mem_set hlt _
    have hbefore := h.monthRequest_mem_iff hmem henabled hdays day
    have hafter := (proper_run (events ++ changeDay row day)).monthRequest_mem_iff hmem' henabled
      rfl day
    rw [htell _ hrows, hchanged] at hafter
    exact iff_not_self (hbefore.symm.trans hafter)
  · intro hfull events' hrows
    have h' := proper_run events'
    have hfilter := filter_isEnabled_eq h.templates h'.templates
      (fun template hmem => h.fixed ▸ List.mem_map_of_mem hmem) (h.fixed.trans h'.fixed.symm)
      hrows.symm hfull
    simp only [templateRequests, requests, hfilter]

end NotificationSettings

end SpendCraft.Ios
