import SpendCraft.Ios.NotificationForms
import SpendCraft.Ios.Rescheduling
import SpendCraft.Lib.PrefixCode

/-!
# The Reminders of the Notification Settings

A notification asks for one request for each of its days, whose identifier starts with the id of
the notification. The ids of the templates have an underscore and differ in more than their end;
those of the custom notifications are the texts of `UUID`s. So no request takes the place of
another one in the notification center.

The limit of the notification center on the number of requests is left out.

## Conventions

The identifier of a request is the id of the notification with a suffix for the day. Of a `UUID`
one thing is needed, `IsUuid`, and that a new one is an id of its own is a condition on the run
(`NewId`). The requests of other producers in the notification center are a matter of
`Rescheduling`; here the question is whether the requests of the manager stay apart.

## Proof

The ids of the templates have an underscore and those of the custom notifications have none, and
no template id is the start of another, so an identifier can be taken apart into an id and a
suffix (`Lib.PrefixCode`). `CustomProper` adds the ids of the custom notifications to the
invariant of `NotificationForms`, and each form keeps it. The requests after a run are then the
days of the enabled notifications, one for each.

## Main results

* `nodup_identifiers`: no two requests have the same identifier.
* `CustomProper.step`: what the forms of the custom notifications keep.
* `pending_rows_run`: every reminder that a row promises is pending, and no other.
-/

namespace SpendCraft.Ios

open Kotlin Relational Machine PrefixCode NotificationManager

/-! ### Identifiers -/

namespace RequestDay

/-- What comes behind the id of a notification. -/
def suffix : RequestDay → Text
  | every => []
  | month day => "_monthDay_".toList ++ intText day
  | week day => "_weekDay_".toList ++ intText day

/-- The identifier of a request is the id of its notification with the day after it. -/
theorem identifier_eq (id : Text) (day : RequestDay) : day.identifier id = id ++ day.suffix := by
  cases day with
  | every => exact (List.append_nil id).symm
  | month day => exact List.append_assoc _ _ _
  | week day => exact List.append_assoc _ _ _

/-- The second character tells the kind of the day. -/
theorem suffix_injective : Function.Injective suffix := by
  have hmonth (day : ℤ) : (month day).suffix[1]? = some 'm' := rfl
  have hweek (day : ℤ) : (week day).suffix[1]? = some 'w' := rfl
  have hevery : every.suffix[1]? = none := rfl
  intro day day' h
  have hsecond := congrArg (fun s : Text => s[1]?) h
  cases day <;> cases day'
  case every.every => rfl
  case month.month => exact congrArg month (intText_injective (List.append_cancel_left h))
  case week.week => exact congrArg week (intText_injective (List.append_cancel_left h))
  all_goals simp [hmonth, hweek, hevery] at hsecond

/-- No day is asked for twice, whichever of the two kinds of days a notification has. -/
theorem nodup_all {daysOfWeek daysOfMonth : Option (List ℤ)}
    (hweek : ∀ days ∈ daysOfWeek, days.Nodup) (hmonth : ∀ days ∈ daysOfMonth, days.Nodup) :
    (all daysOfWeek daysOfMonth).Nodup := by
  have hmonths : Function.Injective month := fun _ _ => month.inj
  have hweeks : Function.Injective week := fun _ _ => week.inj
  cases daysOfMonth with
  | some monthDays => exact (hmonth monthDays rfl).map hmonths
  | none =>
      cases daysOfWeek with
      | some weekDays => exact (hweek weekDays rfl).map hweeks
      | none => exact List.nodup_singleton every

end RequestDay

namespace NotificationManager

variable {manager : NotificationManager}

/-- The requests of the manager: one for every day of every enabled notification. -/
theorem requests_eq_flatMap (manager : NotificationManager) :
    manager.requests = manager.enabled.flatMap fun notification =>
      notification.days.map notification.request := by
  rw [requests_eq, dayRequests, List.map_flatMap]
  simp only [List.map_map]
  rfl

/-- The enabled notifications keep the order of their ids. -/
theorem map_id_enabled_sublist (manager : NotificationManager) :
    (manager.enabled.map ScheduledNotification.id).Sublist manager.ids := by
  rw [enabled, ids, List.map_append, List.map_map, List.map_map]
  exact (List.filter_sublist.map _).append (List.filter_sublist.map _)

/-- Identifiers of days tell the id and the day, where no id starts with another. -/
theorem eq_of_identifier_eq {code : Set Text} (hcode : PrefixFree code) {id id' : Text}
    (hid : id ∈ code) (hid' : id' ∈ code) {day day' : RequestDay}
    (h : day.identifier id = day'.identifier id') : id = id' ∧ day = day' := by
  rw [RequestDay.identifier_eq, RequestDay.identifier_eq] at h
  exact (hcode.append_inj hid hid' h).imp_right fun hsuffix =>
    RequestDay.suffix_injective hsuffix

/-- **No request takes the place of another.** -/
theorem nodup_identifiers (hids : manager.ids.Nodup)
    (hcode : PrefixFree {id | id ∈ manager.ids})
    (hdays : ∀ notification ∈ manager.enabled, notification.days.Nodup) :
    (manager.requests.map NotificationRequest.identifier).Nodup := by
  have hmem {notification : ScheduledNotification} (h : notification ∈ manager.enabled) :
      notification.id ∈ manager.ids :=
    manager.map_id_enabled_sublist.subset (List.mem_map_of_mem h)
  rw [requests_eq_flatMap, List.map_flatMap, List.nodup_flatMap]
  refine ⟨fun notification hnotification => ?_, ?_⟩
  · rw [List.map_map]
    refine (hdays notification hnotification).map fun day day' heq => ?_
    exact (eq_of_identifier_eq hcode (hmem hnotification) (hmem hnotification) heq).2
  · have hdistinct : manager.enabled.Pairwise fun a b => a.id ≠ b.id :=
      List.pairwise_map.mp (manager.map_id_enabled_sublist.nodup hids)
    refine hdistinct.imp_of_mem fun {a b} ha hb hne => ?_
    rw [Function.onFun, List.disjoint_left]
    intro identifier hleft hright
    simp only [List.mem_map, exists_exists_and_eq_and] at hleft hright
    obtain ⟨day, -, rfl⟩ := hleft
    obtain ⟨day', -, heq⟩ := hright
    exact hne (eq_of_identifier_eq hcode (hmem hb) (hmem ha) heq).1.symm

/-- Then all requests are pending. -/
theorem rows_scheduleAllNotifications
    (h : (manager.requests.map NotificationRequest.identifier).Nodup) :
    manager.scheduleAllNotifications.rows = manager.requests := by
  rw [scheduleAllNotifications, Table.rows_foldl_insertOrReplace]
  · exact List.nil_append _
  · rwa [Table.rows_empty, List.nil_append]

end NotificationManager
namespace NotificationSettings

variable {settings : NotificationSettings} {manager : NotificationManager}

/-! ### Custom notifications -/

/-- What is needed of a `UUID().uuidString`. -/
def IsUuid (id : Text) : Prop :=
  id.length = 36 ∧ '_' ∉ id

/-- It is read off the text. -/
instance (id : Text) : Decidable (IsUuid id) :=
  inferInstanceAs (Decidable (_ ∧ _))

/-- A notification that is created has an id of its own. -/
def NewId (settings : NotificationSettings) : SettingsEvent → Prop
  | .save id => ∀ view, settings.sheet = some (.addCustom view) →
      IsUuid id ∧ id ∉ settings.manager.customNotifications.map CustomNotification.id
  | _ => True

/-- Proper settings whose custom notifications have ids of their own and proper days, also in the
form that is open. -/
structure CustomProper (settings : NotificationSettings) : Prop extends settings.Proper where
  distinct : KeyedItems.Distinct CustomNotification.id settings.manager.customNotifications
  uuid : ∀ notification ∈ settings.manager.customNotifications, IsUuid notification.id
  days : ∀ notification ∈ settings.manager.customNotifications,
    ∀ days ∈ notification.daysOfWeek, ProperDays 7 days
  adding : ∀ view, settings.sheet = some (.addCustom view) → Within 7 view.selectedDays
  editing : ∀ view, settings.sheet = some (.editCustom view) →
    view.notification ∈ settings.manager.customNotifications ∧ Within 7 view.selectedDays

/-- A closed sheet keeps the custom notifications proper. -/
theorem CustomProper.dismiss (h : settings.CustomProper) : settings.dismiss.CustomProper where
  toProper := h.toProper.dismiss
  distinct := h.distinct
  uuid := h.uuid
  days := h.days
  adding := by simp [NotificationSettings.dismiss]
  editing := by simp [NotificationSettings.dismiss]

/-- Saving a template does not touch the custom notifications. -/
theorem CustomProper.saveTemplates (h : settings.CustomProper) {view : EditTemplateView}
    (hview : view.Proper settings.manager) {place : ℕ}
    (hplace : settings.manager.templates[place]? = some view.template) :
    (settings.saveTemplates { settings.manager with
      templates := settings.manager.templates.set place view.updatedTemplate }).dismiss.CustomProper
      where
  toProper := h.toProper.saveTemplates hview hplace
  distinct := h.distinct
  uuid := h.uuid
  days := h.days
  adding := by simp [NotificationSettings.dismiss]
  editing := by simp [NotificationSettings.dismiss]

/-- Other notifications that are as they should be. -/
theorem CustomProper.saveCustomNotifications (h : settings.CustomProper)
    (manager : NotificationManager) (htemplates : manager.templates = settings.manager.templates)
    (hsheet : ∀ view, settings.sheet ≠ some (.editTemplate view))
    (hdistinct : KeyedItems.Distinct CustomNotification.id manager.customNotifications)
    (hproper : ∀ notification ∈ manager.customNotifications,
      notification ∈ settings.manager.customNotifications ∨
        IsUuid notification.id ∧ ∀ days ∈ notification.daysOfWeek, ProperDays 7 days) :
    (settings.saveCustomNotifications manager).dismiss.CustomProper where
  toProper := (h.toProper.saveCustomNotifications manager htemplates hsheet).dismiss
  distinct := hdistinct
  uuid notification hmem := (hproper notification hmem).elim (h.uuid notification) And.left
  days notification hmem := (hproper notification hmem).elim (h.days notification) And.right
  adding := by simp [NotificationSettings.dismiss]
  editing := by simp [NotificationSettings.dismiss]

/-- A save from any sheet keeps them proper, if a new notification gets an id that no other has.
-/
theorem CustomProper.save (h : settings.CustomProper) {sheet : SettingsSheet}
    (hsheet : settings.sheet = some sheet) {id : Text} (hnew : settings.NewId (.save id)) :
    (settings.save id sheet).CustomProper := by
  cases sheet with
  | editTemplate view =>
      obtain ⟨place, hplace, hupdate⟩ := h.exists_updateTemplate (h.sheet view hsheet)
      simp only [NotificationSettings.save, hupdate, Option.elim_some]
      exact h.saveTemplates (h.sheet view hsheet) hplace
  | addCustom view =>
      rw [NotificationSettings.save]
      split
      next => exact h
      next =>
        refine h.saveCustomNotifications (settings.manager.addCustomNotification
          (view.notification id)) rfl (by simp [hsheet]) ?_ ?_
        · refine (KeyedItems.distinct_perm (List.perm_append_singleton _ _).symm).mp ?_
          exact (KeyedItems.distinct_cons_iff h.distinct).mpr (hnew view hsheet).2
        · intro notification hmem
          rcases List.mem_append.mp hmem with hold | hlast
          · exact Or.inl hold
          · obtain rfl := List.mem_singleton.mp hlast
            exact Or.inr ⟨(hnew view hsheet).1, (h.adding view hsheet).properDays⟩
  | editCustom view =>
      obtain ⟨hmem, hwithin⟩ := h.editing view hsheet
      obtain ⟨place, hplace⟩ := List.mem_iff_getElem?.mp hmem
      have hfind : settings.manager.updateCustomNotification view.updatedNotification = some
          { settings.manager with
            customNotifications :=
              settings.manager.customNotifications.set place view.updatedNotification } :=
        congrArg _ (h.distinct.findIdx?_eq hplace)
      rw [NotificationSettings.save]
      split
      next => exact h
      next =>
        rw [hfind]
        refine h.saveCustomNotifications { settings.manager with
          customNotifications :=
            settings.manager.customNotifications.set place view.updatedNotification }
          rfl (by simp [hsheet]) ?_ ?_
        · have hsame : view.updatedNotification.id = view.notification.id := rfl
          exact h.distinct.of_map_eq (KeyedItems.map_set_of_getElem? hplace hsame)
        · intro notification hnotification
          rcases List.mem_or_eq_of_mem_set hnotification with hold | rfl
          · exact Or.inl hold
          · exact Or.inr ⟨h.uuid view.notification hmem, hwithin.properDays⟩

/-- An edit of the sheet for a new notification selects days of the week only. -/
theorem within_edit_addCustom {view : AddCustomNotificationView} (e : FormEdit)
    (h : Within 7 view.selectedDays) : Within 7 (view.edit e).selectedDays := by
  cases e with
  | day day =>
      rw [AddCustomNotificationView.edit]
      split
      next hday => exact h.tapped hday
      next => exact h
  | _ => exact h

/-- An edit of the sheet for an existing one stays with its notification and selects days of the
week only. -/
theorem edit_editCustom {view : EditCustomNotificationView} (e : FormEdit)
    (h : Within 7 view.selectedDays) :
    (view.edit e).notification = view.notification ∧ Within 7 (view.edit e).selectedDays := by
  cases e with
  | day day =>
      rw [EditCustomNotificationView.edit]
      split
      next hday => exact ⟨rfl, h.tapped hday⟩
      next => exact ⟨rfl, h⟩
  | _ => exact ⟨rfl, h⟩

/-- Another sheet on top of the same settings. -/
theorem CustomProper.withSheet (h : settings.CustomProper) (sheet : Option SettingsSheet)
    (hsheet : ∀ view, sheet = some (.editTemplate view) → view.Proper settings.manager)
    (hadding : ∀ view, sheet = some (.addCustom view) → Within 7 view.selectedDays)
    (hediting : ∀ view, sheet = some (.editCustom view) →
      view.notification ∈ settings.manager.customNotifications ∧ Within 7 view.selectedDays) :
    CustomProper { settings with sheet := sheet } :=
  { h with
    toProper := h.toProper.withSheet sheet hsheet
    adding := hadding
    editing := hediting }

/-- **Step lemma:** every event with a new id keeps the custom notifications proper. -/
theorem CustomProper.step (h : settings.CustomProper) (event : SettingsEvent)
    (hnew : settings.NewId event) : (settings.step event).CustomProper := by
  have hproper := h.toProper.step event
  cases hsheet : settings.sheet with
  | none =>
      cases event with
      | openTemplate row =>
          simp only [NotificationSettings.step, hsheet] at hproper ⊢
          refine h.withSheet _ hproper.sheet (fun view hview => ?_) (fun view hview => ?_)
          all_goals
            obtain ⟨template, -, heq⟩ := Option.map_eq_some_iff.mp hview
            cases heq
      | openCustom row =>
          simp only [NotificationSettings.step, hsheet] at hproper ⊢
          refine h.withSheet _ hproper.sheet (fun view hview => ?_) (fun view hview => ?_)
          · obtain ⟨notification, -, heq⟩ := Option.map_eq_some_iff.mp hview
            cases heq
          · obtain ⟨notification, hnotification, heq⟩ := Option.map_eq_some_iff.mp hview
            obtain rfl := SettingsSheet.editCustom.inj heq
            have hmem := List.mem_of_getElem? hnotification
            exact ⟨hmem, ProperDays.within (h.days notification hmem)⟩
      | openNew =>
          simp only [NotificationSettings.step, hsheet] at hproper ⊢
          refine h.withSheet _ hproper.sheet (fun view hview => ?_) (by simp)
          obtain rfl := SettingsSheet.addCustom.inj (Option.some.inj hview)
          simp [AddCustomNotificationView.init, Within]
      | deleteCustom row =>
          simp only [NotificationSettings.step, hsheet] at hproper ⊢
          split at hproper
          next notification hnotification =>
            have hdeleted := h.saveCustomNotifications
              (settings.manager.deleteCustomNotification notification) rfl (by simp [hsheet])
              (h.distinct.filter _) fun other hother => Or.inl (List.mem_of_mem_filter hother)
            have hclosed : (settings.saveCustomNotifications
                (settings.manager.deleteCustomNotification notification)).dismiss =
                settings.saveCustomNotifications
                  (settings.manager.deleteCustomNotification notification) := by
              simp [NotificationSettings.dismiss, NotificationSettings.saveCustomNotifications,
                hsheet]
            rwa [hclosed] at hdeleted
          next => exact h
      | relaunch =>
          simp only [NotificationSettings.step, hsheet, h.launch_eq]
          exact h.dismiss
      | edit _ | save _ | cancel =>
          simp only [NotificationSettings.step, hsheet]
          exact h
  | some sheet =>
      cases event with
      | edit e =>
          simp only [NotificationSettings.step, hsheet] at hproper ⊢
          refine h.withSheet _ hproper.sheet (fun view hview => ?_) (fun view hview => ?_)
          · cases sheet with
            | addCustom before =>
                obtain rfl := SettingsSheet.addCustom.inj (Option.some.inj hview)
                exact within_edit_addCustom e (h.adding before hsheet)
            | editTemplate _ | editCustom _ => cases hview
          · cases sheet with
            | editCustom before =>
                obtain rfl := SettingsSheet.editCustom.inj (Option.some.inj hview)
                obtain ⟨hmem, hwithin⟩ := h.editing before hsheet
                obtain ⟨hsame, hedited⟩ := edit_editCustom e hwithin
                exact ⟨hsame ▸ hmem, hedited⟩
            | editTemplate _ | addCustom _ => cases hview
      | save id =>
          simp only [NotificationSettings.step, hsheet]
          exact h.save hsheet hnew
      | cancel =>
          simp only [NotificationSettings.step, hsheet]
          exact h.dismiss
      | relaunch =>
          simp only [NotificationSettings.step, hsheet, h.launch_eq]
          exact h.dismiss
      | openTemplate _ | openCustom _ | openNew | deleteCustom _ =>
          simp only [NotificationSettings.step, hsheet]
          exact h

/-- A fresh installation has no custom notifications. -/
theorem customProper_fresh : fresh.CustomProper where
  toProper := proper_fresh
  distinct := List.nodup_nil
  uuid := by simp [fresh, launch]
  days := by simp [fresh, launch]
  adding := by simp [fresh, launch]
  editing := by simp [fresh, launch]

/-! ### Reminders -/

/-- No id of a template or a UUID starts another one, so the identifiers of their requests differ.
-/
theorem prefixFree_ids : PrefixFree
    {id | id ∈ NotificationTemplate.templates.map NotificationTemplate.id ∨ IsUuid id} := by
  have htemplates : ∀ u ∈ NotificationTemplate.templates.map NotificationTemplate.id,
      ('_' ∈ u ∧ u.length < 36) ∧
      ∀ v ∈ NotificationTemplate.templates.map NotificationTemplate.id, u <+: v → u = v := by
    decide
  rintro u (hu | hu) v (hv | hv) hstarts
  · exact (htemplates u hu).2 v hv hstarts
  · exact absurd (hstarts.subset (htemplates u hu).1.1) hv.2
  · have hle := hstarts.length_le
    have hlt := (htemplates v hv).1.2
    have hlength := hu.1
    omega
  · exact hstarts.eq_of_length (hu.1.trans hv.1.symm)

/-- An id of the manager is that of a template or a UUID. -/
theorem CustomProper.mem_ids (h : settings.CustomProper) {id : Text}
    (hid : id ∈ settings.manager.ids) :
    id ∈ NotificationTemplate.templates.map NotificationTemplate.id ∨ IsUuid id := by
  rw [NotificationManager.ids, h.templateIds, List.mem_append] at hid
  refine hid.imp_right fun hcustom => ?_
  obtain ⟨notification, hmem, rfl⟩ := List.mem_map.mp hcustom
  exact h.uuid notification hmem

/-- No two notifications of the manager share an id. -/
theorem CustomProper.nodup_ids (h : settings.CustomProper) : settings.manager.ids.Nodup := by
  rw [NotificationManager.ids, List.nodup_append]
  refine ⟨h.toProper.distinct, h.distinct, ?_⟩
  rintro id htemplate _ hcustom rfl
  rw [h.templateIds] at htemplate
  obtain ⟨notification, hmem, rfl⟩ := List.mem_map.mp hcustom
  have hunderscore : ∀ u ∈ NotificationTemplate.templates.map NotificationTemplate.id,
      '_' ∈ u := by decide
  exact (h.uuid notification hmem).2 (hunderscore _ htemplate)

/-- An enabled notification asks for no day twice. -/
theorem CustomProper.nodup_days (h : settings.CustomProper) :
    ∀ notification ∈ settings.manager.enabled, notification.days.Nodup := by
  intro notification hmem
  rcases List.mem_append.mp hmem with htemplate | hcustom
  · obtain ⟨template, hfilter, rfl⟩ := List.mem_map.mp htemplate
    have htemplate := List.mem_of_mem_filter hfilter
    have hweek : ∀ fixed ∈ NotificationTemplate.templates.map NotificationTemplate.fixed,
        ∀ days ∈ fixed.2.2.2, days.Nodup := by decide
    refine RequestDay.nodup_all ?_ fun days hdays =>
      ((h.templates template htemplate).days days hdays).nodup
    exact hweek template.fixed (h.fixed ▸ List.mem_map_of_mem htemplate)
  · obtain ⟨custom, hfilter, rfl⟩ := List.mem_map.mp hcustom
    have hmem := List.mem_of_mem_filter hfilter
    exact RequestDay.nodup_all (fun days hdays => (h.days custom hmem days hdays).nodup) (by simp)

/-- **What is pending is what the rows promise**: in every run with new ids for new notifications
there is a request for each day of each notification that is on, and no other, and a new start of
the app finds the same notifications. -/
theorem pending_rows_run (events : List SettingsEvent)
    (hnew : AllSteps step NewId fresh events) :
    (run step fresh events).pendingRequests.rows =
        ((run step fresh events).manager.enabled.flatMap fun notification =>
          notification.days.map notification.request) ∧
      ((run step fresh events).step .relaunch).manager = (run step fresh events).manager := by
  have h : (run step fresh events).CustomProper :=
    run_invariant (I := CustomProper) (fun _ event h hnew => h.step event hnew) hnew
      customProper_fresh
  constructor
  · rw [h.pending, NotificationManager.rows_scheduleAllNotifications,
      NotificationManager.requests_eq_flatMap]
    refine NotificationManager.nodup_identifiers h.nodup_ids ?_ h.nodup_days
    intro u hu v hv hstarts
    exact prefixFree_ids u (h.mem_ids hu) v (h.mem_ids hv) hstarts
  · cases hsheet : (run step fresh events).sheet <;>
      simp only [NotificationSettings.step, hsheet, h.launch_eq] <;> rfl

/-- A notification for the rent, on Mondays. -/
def rentReminder : List SettingsEvent :=
  [.openNew, .edit (.title "Kira".toList), .edit (.messageBody "Kira günü".toList),
    .edit (.day 2), .save "E621E1F8-C36C-495A-93FC-0C247A3E6E5F".toList]

/-- The theorem at a reminder for the rent, with a restart at the end. -/
theorem pending_rows_run_rentReminder :
    (run step fresh rentReminder).pendingRequests.rows =
        ((run step fresh rentReminder).manager.enabled.flatMap fun notification =>
          notification.days.map notification.request) ∧
      ((run step fresh rentReminder).step .relaunch).manager =
        (run step fresh rentReminder).manager :=
  pending_rows_run rentReminder
    ⟨trivial, trivial, trivial, trivial, fun _ _ => ⟨by decide, List.not_mem_nil⟩, trivial⟩

end NotificationSettings

end SpendCraft.Ios
