import SpendCraft.Ios.SalaryReminders
import SpendCraft.Lib.KeyedItems
import Mathlib.Data.Finset.Sort

/-!
# The Notification Settings of the iOS App

`NotificationSettingsView` has a row for each template and each custom notification. A tap on a
row opens a form, and saving the form has `NotificationManager` save the change in `UserDefaults`
and schedule all notifications again. They are scheduled at each start of the app, too.

Days are offered one by one; those of the month also by buttons for several. A notification that
is saved without a selected day is for every day.

## Conventions

A form is the sheet that is open with the values it shows, and an edit changes one of them, if the
sheet offers it; the pickers offer the hours and the minutes of a day. A save hands the changed
notification to the manager, which writes `UserDefaults` and schedules all requests again. What
was encoded is decoded as it was. The `UUID` of a new notification is an input.

## Proof

The invariant is `Proper`: the templates are those of the installation up to the fields that a
form changes (`fixed`), times are times of a day, and the days of a template lie in the month, in
their order; and the same of the sheet that is open. Each edit keeps it, and so does a save, since
a sheet that is proper hands on a proper notification. What is in `UserDefaults` is what the
manager holds, hence a new start of the app changes nothing.

## Main results

* `Proper.step`: the templates are those of the installation, but for what their forms change.
* `Proper.launch_eq`: a new start of the app finds everything as it was.
-/

namespace SpendCraft.Ios

open Kotlin Machine NotificationManager

/-! ### Forms -/

/-- A tap on a day. -/
def tapped (day : ℤ) (days : Finset ℤ) : Finset ℤ :=
  if day ∈ days then days.erase day else insert day days

/-- The days that are saved. -/
def savedDays (days : Finset ℤ) : Option (List ℤ) :=
  if days = ∅ then none else some (days.sort (· ≤ ·))

/-- The state of the sheet that edits a template: the template it was opened with, the time and
switch shown, and the days of the month selected. The name and the texts of a template are not
edited. -/
structure EditTemplateView where
  template : NotificationTemplate
  hour : ℤ
  minute : ℤ
  isEnabled : Bool
  selectedMonthDays : Finset ℤ

/-- The sheet as it opens, with the values of the template. -/
def EditTemplateView.init (template : NotificationTemplate) : EditTemplateView :=
  { template := template
    hour := template.hour
    minute := template.minute
    isEnabled := template.isEnabled
    selectedMonthDays := (template.daysOfMonth.getD []).toFinset }

/-- What the sheet hands back: the template with the edited time and switch, and with the selected
days if it is a monthly template at all. -/
def EditTemplateView.updatedTemplate (view : EditTemplateView) : NotificationTemplate :=
  { view.template with
    hour := view.hour
    minute := view.minute
    isEnabled := view.isEnabled
    daysOfMonth :=
      if view.template.daysOfMonth.isSome then savedDays view.selectedMonthDays
      else view.template.daysOfMonth }

/-- The state of the sheet that writes a custom notification. -/
structure AddCustomNotificationView where
  title : Text
  messageBody : Text
  hour : ℤ
  minute : ℤ
  selectedDays : Finset ℤ

/-- The empty sheet, at nine in the morning with no day selected, which means every day. -/
def AddCustomNotificationView.init : AddCustomNotificationView :=
  { title := [], messageBody := [], hour := 9, minute := 0, selectedDays := ∅ }

/-- The `id` is a new `UUID().uuidString`. -/
def AddCustomNotificationView.notification (id : Text) (view : AddCustomNotificationView) :
    CustomNotification :=
  { id := id
    title := view.title
    body := view.messageBody
    hour := view.hour
    minute := view.minute
    isEnabled := true
    daysOfWeek := savedDays view.selectedDays }

/-- The state of the sheet that edits a custom notification. -/
structure EditCustomNotificationView where
  notification : CustomNotification
  title : Text
  messageBody : Text
  hour : ℤ
  minute : ℤ
  isEnabled : Bool
  selectedDays : Finset ℤ

/-- The sheet as it opens, with the values of the notification. -/
def EditCustomNotificationView.init (notification : CustomNotification) :
    EditCustomNotificationView :=
  { notification := notification
    title := notification.title
    messageBody := notification.body
    hour := notification.hour
    minute := notification.minute
    isEnabled := notification.isEnabled
    selectedDays := (notification.daysOfWeek.getD []).toFinset }

/-- What the sheet hands back: the notification with every field but the `id` as edited. -/
def EditCustomNotificationView.updatedNotification (view : EditCustomNotificationView) :
    CustomNotification :=
  { view.notification with
    title := view.title
    body := view.messageBody
    hour := view.hour
    minute := view.minute
    isEnabled := view.isEnabled
    daysOfWeek := savedDays view.selectedDays }

/-- The form that is open. -/
inductive SettingsSheet
  | editTemplate (view : EditTemplateView)
  | addCustom (view : AddCustomNotificationView)
  | editCustom (view : EditCustomNotificationView)

/-- What can be done in a form. -/
inductive FormEdit
  | hour (hour : ℤ)
  | minute (minute : ℤ)
  | isEnabled
  | day (day : ℤ)
  | quickSelect (button : ℕ)
  | title (title : Text)
  | messageBody (messageBody : Text)

/-- `Set(first...last)` -/
def closedRange (first last : ℤ) : Finset ℤ :=
  ((List.range (last - first + 1).toNat).map fun i : ℕ => first + (i : ℤ)).toFinset

/-- The buttons for several days, the last of them for every day. -/
def quickSelections : List (Finset ℤ) :=
  [closedRange 1 5, closedRange 5 15, closedRange 15 20, closedRange 20 31, closedRange 25 30,
    closedRange 1 31]

/-- The pickers offer the hours and the minutes of a day. -/
def picked (bound : ℤ) (choice : ℤ) (current : ℤ) : ℤ :=
  if 0 ≤ choice ∧ choice < bound then choice else current

/-- An edit of the template sheet. The grid of days and the quick selections are shown for a
monthly template only. -/
def EditTemplateView.edit (view : EditTemplateView) : FormEdit → EditTemplateView
  | .hour hour => { view with hour := picked 24 hour view.hour }
  | .minute minute => { view with minute := picked 60 minute view.minute }
  | .isEnabled => { view with isEnabled := !view.isEnabled }
  | .day day =>
      if view.template.daysOfMonth.isSome ∧ 1 ≤ day ∧ day ≤ 31 then
        { view with selectedMonthDays := tapped day view.selectedMonthDays }
      else view
  | .quickSelect button =>
      match view.template.daysOfMonth, quickSelections[button]? with
      | some _, some days => { view with selectedMonthDays := days }
      | _, _ => view
  | .title _ | .messageBody _ => view

/-- An edit of the sheet for a new custom notification, which has neither a switch nor quick
selections. -/
def AddCustomNotificationView.edit (view : AddCustomNotificationView) :
    FormEdit → AddCustomNotificationView
  | .hour hour => { view with hour := picked 24 hour view.hour }
  | .minute minute => { view with minute := picked 60 minute view.minute }
  | .day day =>
      if 1 ≤ day ∧ day ≤ 7 then { view with selectedDays := tapped day view.selectedDays }
      else view
  | .title title => { view with title := title }
  | .messageBody messageBody => { view with messageBody := messageBody }
  | .isEnabled | .quickSelect _ => view

/-- An edit of the sheet for an existing custom notification: the one sheet with both texts and
switch. -/
def EditCustomNotificationView.edit (view : EditCustomNotificationView) :
    FormEdit → EditCustomNotificationView
  | .hour hour => { view with hour := picked 24 hour view.hour }
  | .minute minute => { view with minute := picked 60 minute view.minute }
  | .isEnabled => { view with isEnabled := !view.isEnabled }
  | .day day =>
      if 1 ≤ day ∧ day ≤ 7 then { view with selectedDays := tapped day view.selectedDays }
      else view
  | .title title => { view with title := title }
  | .messageBody messageBody => { view with messageBody := messageBody }
  | .quickSelect _ => view

/-- An edit goes to the sheet that is open. -/
def SettingsSheet.edit (e : FormEdit) : SettingsSheet → SettingsSheet
  | .editTemplate view => .editTemplate (view.edit e)
  | .addCustom view => .addCustom (view.edit e)
  | .editCustom view => .editCustom (view.edit e)

/-! ### The settings -/

/-- The two keys of `UserDefaults`, the manager, the notification center and the form. What is
decoded is what was encoded. -/
structure NotificationSettings where
  savedTemplates : Option (List NotificationTemplate)
  savedCustomNotifications : Option (List CustomNotification)
  manager : NotificationManager
  pendingRequests : PendingRequests
  sheet : Option SettingsSheet

/-- What a user does on the settings screen. A `row` is a place in the list shown, the `id` of a
save is the UUID drawn for a new notification, and `relaunch` starts the app again. -/
inductive SettingsEvent
  | openTemplate (row : ℕ)
  | openCustom (row : ℕ)
  | openNew
  | edit (e : FormEdit)
  | save (id : Text)
  | cancel
  | deleteCustom (row : ℕ)
  | relaunch

namespace NotificationSettings

/-- A start of the app: `loadTemplates`, `loadCustomNotifications` and
`scheduleAllNotifications`. -/
def launch (savedTemplates : Option (List NotificationTemplate))
    (savedCustomNotifications : Option (List CustomNotification)) : NotificationSettings :=
  let manager : NotificationManager :=
    { templates := savedTemplates.getD NotificationTemplate.templates
      customNotifications := savedCustomNotifications.getD [] }
  { savedTemplates := some manager.templates
    savedCustomNotifications := savedCustomNotifications
    manager := manager
    pendingRequests := manager.scheduleAllNotifications
    sheet := none }

/-- The first start. -/
def fresh : NotificationSettings :=
  launch none none

/-- `saveTemplates`: the templates are encoded into `UserDefaults` and every request is scheduled
anew. -/
def saveTemplates (settings : NotificationSettings) (manager : NotificationManager) :
    NotificationSettings :=
  { settings with
    savedTemplates := some manager.templates
    manager := manager
    pendingRequests := manager.scheduleAllNotifications }

/-- `saveCustomNotifications`: the same for the custom notifications. -/
def saveCustomNotifications (settings : NotificationSettings) (manager : NotificationManager) :
    NotificationSettings :=
  { settings with
    savedCustomNotifications := some manager.customNotifications
    manager := manager
    pendingRequests := manager.scheduleAllNotifications }

/-- `dismiss()` -/
def dismiss (settings : NotificationSettings) : NotificationSettings :=
  { settings with sheet := none }

/-- The button of the form. A custom notification needs a title and a message. -/
def save (id : Text) (sheet : SettingsSheet) (settings : NotificationSettings) :
    NotificationSettings :=
  match sheet with
  | .editTemplate view =>
      ((settings.manager.updateTemplate view.updatedTemplate).elim settings
        settings.saveTemplates).dismiss
  | .addCustom view =>
      if view.title.isEmpty || view.messageBody.isEmpty then settings
      else
        (settings.saveCustomNotifications
          (settings.manager.addCustomNotification (view.notification id))).dismiss
  | .editCustom view =>
      if view.title.isEmpty || view.messageBody.isEmpty then settings
      else
        ((settings.manager.updateCustomNotification view.updatedNotification).elim settings
          settings.saveCustomNotifications).dismiss

/-- The rows can be used where no form is open. -/
def step (settings : NotificationSettings) (event : SettingsEvent) : NotificationSettings :=
  match settings.sheet, event with
  | none, .openTemplate row =>
      { settings with
        sheet := settings.manager.templates[row]?.map fun template =>
          .editTemplate (.init template) }
  | none, .openCustom row =>
      { settings with
        sheet := settings.manager.customNotifications[row]?.map fun notification =>
          .editCustom (.init notification) }
  | none, .openNew => { settings with sheet := some (.addCustom .init) }
  | none, .deleteCustom row =>
      match settings.manager.customNotifications[row]? with
      | some notification =>
          settings.saveCustomNotifications (settings.manager.deleteCustomNotification notification)
      | none => settings
  | some sheet, .edit e => { settings with sheet := some (sheet.edit e) }
  | some sheet, .save id => settings.save id sheet
  | some _, .cancel => settings.dismiss
  | _, .relaunch => launch settings.savedTemplates settings.savedCustomNotifications
  | _, _ => settings

end NotificationSettings

/-! ### Days -/

/-- Days of a month or a week, in their order. -/
structure ProperDays (bound : ℤ) (days : List ℤ) : Prop where
  nonempty : days ≠ []
  sorted : days.Pairwise (· < ·)
  range : ∀ day ∈ days, 1 ≤ day ∧ day ≤ bound

/-- Proper days are strictly increasing, so no day is listed twice. -/
theorem ProperDays.nodup {bound : ℤ} {days : List ℤ} (h : ProperDays bound days) : days.Nodup :=
  h.sorted.imp ne_of_lt

/-- Properness of a list of days is checked by running through it. -/
instance (bound : ℤ) (days : List ℤ) : Decidable (ProperDays bound days) :=
  decidable_of_iff
    (days ≠ [] ∧ days.Pairwise (· < ·) ∧ ∀ day ∈ days, 1 ≤ day ∧ day ≤ bound)
    ⟨fun ⟨nonempty, sorted, range⟩ => ⟨nonempty, sorted, range⟩,
      fun h => ⟨h.nonempty, h.sorted, h.range⟩⟩

/-- The selected days are offered. -/
def Within (bound : ℤ) (days : Finset ℤ) : Prop :=
  ∀ day ∈ days, 1 ≤ day ∧ day ≤ bound

section Days

variable {bound day : ℤ} {selection : Finset ℤ} {days : List ℤ}

/-- The days of a closed range. -/
theorem mem_closedRange {first last : ℤ} :
    day ∈ closedRange first last ↔ first ≤ day ∧ day ≤ last := by
  simp only [closedRange, List.mem_toFinset, List.mem_map, List.mem_range]
  constructor
  · rintro ⟨i, hi, rfl⟩
    omega
  · rintro ⟨hfirst, hlast⟩
    exact ⟨(day - first).toNat, by omega, by omega⟩

/-- A tap changes the membership of the tapped day and of no other. -/
theorem mem_tapped {other : ℤ} :
    other ∈ tapped day selection ↔ if other = day then day ∉ selection else other ∈ selection := by
  rw [tapped]
  split <;> by_cases hother : other = day <;> simp_all

/-- A tap on a day of the grid keeps the selection within the grid. -/
theorem Within.tapped (h : Within bound selection) (hday : 1 ≤ day ∧ day ≤ bound) :
    Within bound (tapped day selection) := by
  intro other hother
  rw [mem_tapped] at hother
  split at hother
  next heq => exact heq ▸ hday
  next => exact h other hother

/-- The selection a sheet opens with lies within the grid. -/
theorem ProperDays.within {daysOption : Option (List ℤ)}
    (h : ∀ days ∈ daysOption, ProperDays bound days) :
    Within bound (daysOption.getD []).toFinset := by
  cases daysOption with
  | none => simp [Within]
  | some days => exact fun day hday => (h days rfl).range day (List.mem_toFinset.mp hday)

/-- Only the empty selection is saved as no days at all. -/
theorem savedDays_eq_none_iff : savedDays selection = none ↔ selection = ∅ := by
  rw [savedDays]
  split <;> simp_all

/-- The saved days are those selected. -/
theorem toFinset_of_savedDays (h : savedDays selection = some days) :
    days.toFinset = selection := by
  rw [savedDays] at h
  split at h
  next => cases h
  next =>
    obtain rfl := Option.some.inj h
    exact Finset.sort_toFinset _ _

/-- Proper days survive being opened and saved again without an edit. -/
theorem savedDays_toFinset (h : ProperDays bound days) : savedDays days.toFinset = some days := by
  rw [savedDays, if_neg (by simpa using h.nonempty)]
  exact congrArg some (List.toFinset_sort _ h.nodup |>.mpr (h.sorted.imp le_of_lt))

/-- What is saved from a selection within the grid is proper. -/
theorem Within.properDays (h : Within bound selection) :
    ∀ days ∈ savedDays selection, ProperDays bound days := by
  intro days hdays
  rw [savedDays] at hdays
  split at hdays
  next => cases hdays
  next hne =>
    obtain rfl := Option.some.inj hdays
    refine ⟨?_, (Finset.sortedLT_sort selection).pairwise, fun day hday =>
      h day ((Finset.mem_sort _).mp hday)⟩
    intro hnil
    exact hne (Finset.card_eq_zero.mp (by rw [← Finset.length_sort (· ≤ ·), hnil]; rfl))

end Days

/-! ### Templates -/

namespace NotificationTemplate

/-- What no form changes. -/
def fixed (template : NotificationTemplate) : Text × Text × Text × Option (List ℤ) :=
  (template.id, template.title, template.body, template.daysOfWeek)

/-- A template as the app keeps it: its time is a time of day, its days lie in the month, and a
monthly template names no days of the week. -/
structure Proper (template : NotificationTemplate) : Prop where
  hour : 0 ≤ template.hour ∧ template.hour < 24
  minute : 0 ≤ template.minute ∧ template.minute < 60
  days : ∀ days ∈ template.daysOfMonth, ProperDays 31 days
  monthly : template.daysOfMonth.isSome = true → template.daysOfWeek = none

/-- Properness of a template is checked field by field. -/
instance (template : NotificationTemplate) : Decidable template.Proper :=
  decidable_of_iff ((0 ≤ template.hour ∧ template.hour < 24) ∧
    (0 ≤ template.minute ∧ template.minute < 60) ∧
    (∀ days ∈ template.daysOfMonth, ProperDays 31 days) ∧
    (template.daysOfMonth.isSome = true → template.daysOfWeek = none))
    ⟨fun ⟨hour, minute, days, monthly⟩ => ⟨hour, minute, days, monthly⟩,
      fun h => ⟨h.hour, h.minute, h.days, h.monthly⟩⟩

/-- The templates the app ships with are proper. -/
theorem proper_templates : ∀ template ∈ templates, template.Proper := by decide

end NotificationTemplate

/-- A template sheet in a reachable state: it was opened on a template of the manager, and what it
shows can be saved. -/
structure EditTemplateView.Proper (view : EditTemplateView) (manager : NotificationManager) :
    Prop where
  mem : view.template ∈ manager.templates
  hour : 0 ≤ view.hour ∧ view.hour < 24
  minute : 0 ≤ view.minute ∧ view.minute < 60
  days : Within 31 view.selectedMonthDays

/-- A picker offers only values below its bound, and an answer it does not offer changes nothing.
-/
theorem picked_range {bound choice current : ℤ} (h : 0 ≤ current ∧ current < bound) :
    0 ≤ picked bound choice current ∧ picked bound choice current < bound := by
  rw [picked]
  split
  next hchoice => exact hchoice
  next => exact h

namespace EditTemplateView

variable {view : EditTemplateView} {manager : NotificationManager}

/-- The sheet opens in a proper state on a proper template. -/
theorem Proper.init {template : NotificationTemplate} (h : template.Proper)
    (hmem : template ∈ manager.templates) : (EditTemplateView.init template).Proper manager where
  mem := hmem
  hour := h.hour
  minute := h.minute
  days := ProperDays.within h.days

/-- The quick selections name days of the month only. -/
theorem within_quickSelections : ∀ days ∈ quickSelections, Within 31 days := by
  intro days hdays day hday
  simp only [quickSelections, List.mem_cons, List.not_mem_nil, or_false] at hdays
  rcases hdays with rfl | rfl | rfl | rfl | rfl | rfl <;>
    · rw [mem_closedRange] at hday
      omega

/-- **Step lemma of the sheet:** every edit keeps it proper. -/
theorem Proper.edit (h : view.Proper manager) (e : FormEdit) : (view.edit e).Proper manager := by
  cases e with
  | hour hour => exact { h with hour := picked_range h.hour }
  | minute minute => exact { h with minute := picked_range h.minute }
  | isEnabled => exact { h with }
  | day day =>
      rw [EditTemplateView.edit]
      split
      next hday => exact { h with days := h.days.tapped hday.2 }
      next => exact h
  | quickSelect button =>
      rw [EditTemplateView.edit]
      split
      next hbutton =>
        exact { h with days := within_quickSelections _ (List.mem_of_getElem? hbutton) }
      next => exact h
  | title _ | messageBody _ => exact h

/-- What a proper sheet hands back is a proper template. -/
theorem Proper.updatedTemplate (h : view.Proper manager) (htemplate : view.template.Proper) :
    view.updatedTemplate.Proper where
  hour := h.hour
  minute := h.minute
  days := by
    rw [EditTemplateView.updatedTemplate]
    split
    next => exact h.days.properDays
    next => exact htemplate.days
  monthly hsome := by
    by_cases hmonthly : view.template.daysOfMonth.isSome = true
    · exact htemplate.monthly hmonthly
    · simp only [EditTemplateView.updatedTemplate, if_neg hmonthly] at hsome
      exact absurd hsome hmonthly

end EditTemplateView

namespace NotificationSettings

/-- What every run keeps: the templates are those of the installation, but for what their forms
may change. -/
structure Proper (settings : NotificationSettings) : Prop where
  saved : settings.savedTemplates = some settings.manager.templates
  savedCustom : settings.savedCustomNotifications.getD [] = settings.manager.customNotifications
  pending : settings.pendingRequests = settings.manager.scheduleAllNotifications
  fixed : settings.manager.templates.map NotificationTemplate.fixed =
    NotificationTemplate.templates.map NotificationTemplate.fixed
  templates : ∀ template ∈ settings.manager.templates, template.Proper
  sheet : ∀ view, settings.sheet = some (.editTemplate view) → view.Proper settings.manager

variable {settings : NotificationSettings} {manager : NotificationManager}

/-- The manager always holds the templates of the app in their order, so their ids are those of
the shipped list. -/
theorem Proper.templateIds (h : settings.Proper) :
    settings.manager.templates.map NotificationTemplate.id =
      NotificationTemplate.templates.map NotificationTemplate.id := by
  have hids := congrArg (List.map Prod.fst) h.fixed
  rwa [List.map_map, List.map_map] at hids

/-- No two templates share an id. -/
theorem Proper.distinct (h : settings.Proper) :
    KeyedItems.Distinct NotificationTemplate.id settings.manager.templates := by
  rw [KeyedItems.Distinct, h.templateIds]
  decide

/-- Saving a form changes its template. -/
theorem Proper.exists_updateTemplate (h : settings.Proper) {view : EditTemplateView}
    (hview : view.Proper settings.manager) :
    ∃ place : ℕ, settings.manager.templates[place]? = some view.template ∧
      settings.manager.updateTemplate view.updatedTemplate =
        some { settings.manager with
          templates := settings.manager.templates.set place view.updatedTemplate } := by
  obtain ⟨place, hplace⟩ := List.mem_iff_getElem?.mp hview.mem
  refine ⟨place, hplace, ?_⟩
  have hfind := h.distinct.findIdx?_eq hplace
  rw [NotificationManager.updateTemplate]
  exact congrArg _ hfind

/-- Another sheet on top of the same settings leaves them proper if it is proper itself. -/
theorem Proper.withSheet (h : settings.Proper) (sheet : Option SettingsSheet)
    (hsheet : ∀ view, sheet = some (.editTemplate view) → view.Proper settings.manager) :
    Proper { settings with sheet := sheet } :=
  { h with sheet := hsheet }

/-- Saving a template from a proper sheet and closing it: the place of the template keeps its id,
and the stored list is the one in memory. -/
theorem Proper.saveTemplates (h : settings.Proper) {view : EditTemplateView}
    (hview : view.Proper settings.manager) {place : ℕ}
    (hplace : settings.manager.templates[place]? = some view.template) :
    (settings.saveTemplates { settings.manager with
      templates := settings.manager.templates.set place view.updatedTemplate }).dismiss.Proper
      where
  saved := rfl
  savedCustom := h.savedCustom
  pending := rfl
  fixed := by
    have hsame : view.updatedTemplate.fixed = view.template.fixed := rfl
    exact (KeyedItems.map_set_of_getElem? hplace hsame).trans h.fixed
  templates := by
    intro template hmem
    rcases List.mem_or_eq_of_mem_set hmem with hold | rfl
    · exact h.templates template hold
    · exact hview.updatedTemplate (h.templates _ hview.mem)
  sheet := by simp [dismiss]

/-- A closed sheet has no obligations left. -/
theorem Proper.dismiss (h : settings.Proper) : settings.dismiss.Proper :=
  h.withSheet none (by simp)

/-- A save of the custom notifications touches no template, so the settings stay proper as long as
no template sheet is open. -/
theorem Proper.saveCustomNotifications (h : settings.Proper) (manager : NotificationManager)
    (htemplates : manager.templates = settings.manager.templates)
    (hsheet : ∀ view, settings.sheet ≠ some (.editTemplate view)) :
    (settings.saveCustomNotifications manager).Proper where
  saved := h.saved.trans (congrArg some htemplates.symm)
  savedCustom := rfl
  pending := rfl
  fixed := (congrArg _ htemplates).trans h.fixed
  templates template hmem := h.templates template (htemplates ▸ hmem)
  sheet view hview := absurd hview (hsheet view)

/-- An update of a custom notification leaves the templates as they are. -/
theorem templates_updateCustomNotification {notification : CustomNotification}
    (h : settings.manager.updateCustomNotification notification = some manager) :
    manager.templates = settings.manager.templates := by
  obtain ⟨place, -, rfl⟩ := Option.map_eq_some_iff.mp h
  rfl

/-- A save keeps the settings proper, whichever sheet it comes from. -/
theorem Proper.save (h : settings.Proper) {sheet : SettingsSheet}
    (hsheet : settings.sheet = some sheet) (id : Text) : (settings.save id sheet).Proper := by
  cases sheet with
  | editTemplate view =>
      obtain ⟨place, hplace, hupdate⟩ := h.exists_updateTemplate (h.sheet view hsheet)
      simp only [NotificationSettings.save, hupdate, Option.elim_some]
      exact h.saveTemplates (h.sheet view hsheet) hplace
  | addCustom view =>
      rw [NotificationSettings.save]
      split
      next => exact h
      next =>
        exact (h.saveCustomNotifications (settings.manager.addCustomNotification
          (view.notification id)) rfl (by simp [hsheet])).dismiss
  | editCustom view =>
      rw [NotificationSettings.save]
      split
      next => exact h
      next =>
        cases hupdate : settings.manager.updateCustomNotification view.updatedNotification with
        | none => exact h.dismiss
        | some manager =>
            exact (h.saveCustomNotifications manager
              (templates_updateCustomNotification hupdate) (by simp [hsheet])).dismiss

/-- A new start finds everything as it was. -/
theorem Proper.launch_eq (h : settings.Proper) :
    launch settings.savedTemplates settings.savedCustomNotifications = settings.dismiss := by
  obtain ⟨savedTemplates, savedCustomNotifications, ⟨templates, customs⟩, pending, sheet⟩ :=
    settings
  obtain rfl : savedTemplates = some templates := h.saved
  obtain rfl : savedCustomNotifications.getD [] = customs := h.savedCustom
  obtain rfl : pending = scheduleAllNotifications ⟨templates, savedCustomNotifications.getD []⟩ :=
    h.pending
  rfl

/-- **Step lemma:** every event on the settings screen keeps the settings proper. -/
theorem Proper.step (h : settings.Proper) (event : SettingsEvent) :
    (settings.step event).Proper := by
  cases hsheet : settings.sheet with
  | none =>
      cases event with
      | openTemplate row =>
          simp only [NotificationSettings.step, hsheet]
          refine h.withSheet _ fun view hview => ?_
          obtain ⟨template, htemplate, heq⟩ := Option.map_eq_some_iff.mp hview
          obtain rfl := SettingsSheet.editTemplate.inj heq
          have hmem := List.mem_of_getElem? htemplate
          exact EditTemplateView.Proper.init (h.templates template hmem) hmem
      | openCustom row =>
          simp only [NotificationSettings.step, hsheet]
          refine h.withSheet _ fun view hview => ?_
          obtain ⟨notification, -, heq⟩ := Option.map_eq_some_iff.mp hview
          cases heq
      | openNew =>
          simp only [NotificationSettings.step, hsheet]
          exact h.withSheet _ (by simp)
      | deleteCustom row =>
          simp only [NotificationSettings.step, hsheet]
          split
          next notification _ =>
            exact h.saveCustomNotifications
              (settings.manager.deleteCustomNotification notification) rfl (by simp [hsheet])
          next => exact h
      | relaunch =>
          simp only [NotificationSettings.step, hsheet, h.launch_eq]
          exact h.dismiss
      | edit _ | save _ | cancel =>
          simp only [NotificationSettings.step, hsheet]
          exact h
  | some sheet =>
      cases event with
      | edit e =>
          simp only [NotificationSettings.step, hsheet]
          refine h.withSheet _ fun view hview => ?_
          cases sheet with
          | editTemplate before =>
              obtain rfl := SettingsSheet.editTemplate.inj (Option.some.inj hview)
              exact (h.sheet before hsheet).edit e
          | addCustom _ | editCustom _ => cases hview
      | save id =>
          simp only [NotificationSettings.step, hsheet]
          exact h.save hsheet id
      | cancel =>
          simp only [NotificationSettings.step, hsheet]
          exact h.dismiss
      | relaunch =>
          simp only [NotificationSettings.step, hsheet, h.launch_eq]
          exact h.dismiss
      | openTemplate _ | openCustom _ | openNew | deleteCustom _ =>
          simp only [NotificationSettings.step, hsheet]
          exact h

/-- A fresh installation is proper. -/
theorem proper_fresh : fresh.Proper where
  saved := rfl
  savedCustom := rfl
  pending := rfl
  fixed := rfl
  templates := NotificationTemplate.proper_templates
  sheet := by simp [fresh, launch]

/-- **Run lemma:** the settings are proper in every state reached from a fresh installation. -/
theorem proper_run (events : List SettingsEvent) : (run step fresh events).Proper :=
  run_invariant_of_step (I := Proper) (fun _ event h => h.step event) proper_fresh events

end NotificationSettings

end SpendCraft.Ios
