import SpendCraft.Ios.SalaryReminders

/-!
# Rescheduling of the iOS App

The notification center holds the pending requests of several producers: the templates and
custom notifications of `NotificationManager`, the daily reminder and the local notifications
of `NotificationsViewModel`, and the notice of `AISuggestionsView`. `scheduleAllNotifications`
removes all of them before it adds those of the manager again. An added request takes the
place of the one with its identifier.

## Conventions

A request is its identifier and its trigger, and the center holds one for each identifier. The
producers are the manager and three others, whose identifiers are fixed texts or drawn. The
templates and the custom notifications are lists in any state, their ids included: nothing is
assumed of them that the app does not make sure of.

## Proof

Scheduling removes everything and adds the requests of the enabled notifications, in their order.
Nothing is left of the others, so they are unchanged only if every pending request was one of the
manager's; and each day has its request if no two have one identifier, because a later one takes
the place. Both are decided from the state before, and the equivalence joins them.

## Main results

* `requests_eq`: the requests of the manager, one for each day of an enabled notification.
* `rebuilt_iff`: when rescheduling leaves the others alone and gives each day its request.
* `not_rebuilt_daily`: the daily reminder is removed.
-/

namespace SpendCraft.Ios

open Kotlin Relational NotificationManager

/-! ### The other producers -/

/-- `NotificationsViewModel.scheduleDailyReminder`. -/
def NotificationsViewModel.scheduleDailyReminder (pending : PendingRequests) : PendingRequests :=
  pending.insertOrReplace
    { identifier := "dailyReminder".toList
      title := "Günlük Hatırlatma".toList
      body := "Bugünün harcamalarını eklemeyi unutmayın!".toList
      trigger := .calendar none none 20 0 }

/-! ### Identifiers -/

/-- A day of a notification: every day, a day of the month or a day of the week. -/
inductive RequestDay
  | every
  | month (day : ℤ)
  | week (day : ℤ)
  deriving DecidableEq, Repr

namespace RequestDay

/-- The identifier of the request for a day. -/
def identifier (id : Text) : RequestDay → Text
  | every => id
  | month day => id ++ "_monthDay_".toList ++ intText day
  | week day => id ++ "_weekDay_".toList ++ intText day

/-- The trigger of the request for a day. -/
def trigger (hour minute : ℤ) : RequestDay → NotificationTrigger
  | every => .calendar none none hour minute
  | month day => .calendar (some day) none hour minute
  | week day => .calendar none (some day) hour minute

/-- Days of the month go before days of the week. -/
def all (daysOfWeek daysOfMonth : Option (List ℤ)) : List RequestDay :=
  match daysOfMonth, daysOfWeek with
  | some monthDays, _ => monthDays.map month
  | none, some weekDays => weekDays.map week
  | none, none => [every]

/-- The trigger shows the day. -/
theorem eq_of_trigger_eq {hour minute hour' minute' : ℤ} {day day' : RequestDay}
    (h : day.trigger hour minute = day'.trigger hour' minute') : day = day' := by
  cases day <;> cases day' <;> simp_all [trigger]

/-- For one day, the identifier shows the notification. -/
theorem eq_of_identifier_eq {id id' : Text} {day : RequestDay}
    (h : day.identifier id = day.identifier id') : id = id' := by
  cases day <;> simpa [identifier] using h

end RequestDay

/-- What templates and custom notifications have in common. -/
structure ScheduledNotification where
  id : Text
  title : Text
  body : Text
  hour : ℤ
  minute : ℤ
  days : List RequestDay

namespace ScheduledNotification

/-- The request for a day. -/
def request (notification : ScheduledNotification) (day : RequestDay) : NotificationRequest :=
  { identifier := day.identifier notification.id
    title := notification.title
    body := notification.body
    trigger := day.trigger notification.hour notification.minute }

end ScheduledNotification

namespace NotificationManager

/-- The ids of the templates and the custom notifications. -/
def ids (manager : NotificationManager) : List Text :=
  manager.templates.map NotificationTemplate.id ++
    manager.customNotifications.map CustomNotification.id

/-- The enabled templates and custom notifications. -/
def enabled (manager : NotificationManager) : List ScheduledNotification :=
  ((manager.templates.filter NotificationTemplate.isEnabled).map fun template =>
      { id := template.id
        title := template.title
        body := template.body
        hour := template.hour
        minute := template.minute
        days := RequestDay.all template.daysOfWeek template.daysOfMonth }) ++
    (manager.customNotifications.filter CustomNotification.isEnabled).map fun notification =>
      { id := notification.id
        title := notification.title
        body := notification.body
        hour := notification.hour
        minute := notification.minute
        days := RequestDay.all notification.daysOfWeek none }

/-- The pairs of an id and a day that are enabled, each with a request for it. -/
def dayRequests (manager : NotificationManager) :
    List ((Text × RequestDay) × NotificationRequest) :=
  manager.enabled.flatMap fun notification =>
    notification.days.map fun day => ((notification.id, day), notification.request day)

/-- `scheduleNotification` adds a request for each day that is asked for. -/
theorem scheduleNotification_eq (id title body : Text) (hour minute : ℤ)
    (daysOfWeek daysOfMonth : Option (List ℤ)) :
    scheduleNotification id title body hour minute daysOfWeek daysOfMonth =
      (RequestDay.all daysOfWeek daysOfMonth).map fun day =>
        { identifier := day.identifier id
          title := title
          body := body
          trigger := day.trigger hour minute } := by
  cases daysOfMonth with
  | some monthDays =>
      simp [scheduleNotification, RequestDay.all, RequestDay.identifier, RequestDay.trigger]
  | none =>
      cases daysOfWeek with
      | some weekDays =>
          simp [scheduleNotification, RequestDay.all, RequestDay.identifier, RequestDay.trigger]
      | none => rfl

/-- **The requests of the manager**, one for each day of an enabled notification. -/
theorem requests_eq (manager : NotificationManager) :
    manager.requests = manager.dayRequests.map Prod.snd := by
  have hrequests : manager.dayRequests.map Prod.snd =
      manager.enabled.flatMap fun notification => notification.days.map notification.request := by
    simp [dayRequests, List.map_flatMap, Function.comp_def]
  rw [hrequests, requests, enabled, List.flatMap_append, List.flatMap_map, List.flatMap_map]
  simp only [scheduleNotification_eq]
  rfl

/-- The requests of the manager are those of its days. -/
theorem mem_requests_iff {manager : NotificationManager} {request : NotificationRequest} :
    request ∈ manager.requests ↔ ∃ key, (key, request) ∈ manager.dayRequests := by
  rw [requests_eq, List.mem_map]
  constructor
  · rintro ⟨⟨key, request⟩, hmem, rfl⟩
    exact ⟨key, hmem⟩
  · rintro ⟨key, hmem⟩
    exact ⟨(key, request), hmem, rfl⟩

/-- A request for a day has its identifier and its trigger. -/
theorem of_mem_dayRequests {manager : NotificationManager} {id : Text} {day : RequestDay}
    {request : NotificationRequest} (h : ((id, day), request) ∈ manager.dayRequests) :
    request.identifier = day.identifier id ∧
      (∃ hour minute, request.trigger = day.trigger hour minute) ∧ id ∈ manager.ids := by
  obtain ⟨notification, henabled, hday⟩ := List.mem_flatMap.mp h
  obtain ⟨day', -, heq⟩ := List.mem_map.mp hday
  obtain ⟨⟨rfl, rfl⟩, rfl⟩ : (notification.id = id ∧ day' = day) ∧
      notification.request day' = request := by simpa using heq
  refine ⟨rfl, ⟨notification.hour, notification.minute, rfl⟩, ?_⟩
  rw [ids, List.mem_append]
  rcases List.mem_append.mp henabled with htemplate | hcustom
  · obtain ⟨template, hmem, rfl⟩ := List.mem_map.mp htemplate
    exact Or.inl (List.mem_map_of_mem (List.mem_of_mem_filter hmem))
  · obtain ⟨custom, hmem, rfl⟩ := List.mem_map.mp hcustom
    exact Or.inr (List.mem_map_of_mem (List.mem_of_mem_filter hmem))

/-- A request is for one day of one id. -/
theorem key_eq_of_mem_dayRequests {manager : NotificationManager} {key key' : Text × RequestDay}
    {request : NotificationRequest} (h : (key, request) ∈ manager.dayRequests)
    (h' : (key', request) ∈ manager.dayRequests) : key = key' := by
  obtain ⟨hidentifier, ⟨hour, minute, htrigger⟩, -⟩ := of_mem_dayRequests h
  obtain ⟨hidentifier', ⟨hour', minute', htrigger'⟩, -⟩ := of_mem_dayRequests h'
  have hday : key.2 = key'.2 := RequestDay.eq_of_trigger_eq (htrigger.symm.trans htrigger')
  rw [hidentifier, hday] at hidentifier'
  exact Prod.ext (RequestDay.eq_of_identifier_eq hidentifier') hday

/-- What is pending after scheduling. -/
theorem mem_requests_of_mem_scheduleAllNotifications {manager : NotificationManager}
    {request : NotificationRequest} (h : request ∈ manager.scheduleAllNotifications.rows) :
    request ∈ manager.requests := by
  rcases Table.mem_of_mem_foldl_insertOrReplace h with hold | hnew
  · cases hold
  · exact hnew

end NotificationManager

/-! ### Rescheduling -/

/-- The identifier is one of a template or a custom notification, for some day. -/
def Owned (ids : List Text) (identifier : Text) : Prop :=
  ∃ id ∈ ids, ∃ day : RequestDay, identifier = day.identifier id

/-- The requests of other producers are those before, and each day of an enabled notification
has one request. -/
structure Rebuilt (before after : PendingRequests) (ids : List Text)
    (manager : NotificationManager) : Prop where
  others : ∀ request, ¬ Owned ids request.identifier →
    (request ∈ after.rows ↔ request ∈ before.rows)
  own : ∀ request ∈ after.rows, Owned ids request.identifier → request ∈ manager.requests
  one : ∀ key ∈ manager.dayRequests.map Prod.fst,
    ∃! request, request ∈ after.rows ∧ (key, request) ∈ manager.dayRequests

/-- Different days of enabled notifications have different identifiers. -/
def DistinctIdentifiers (manager : NotificationManager) : Prop :=
  ∀ key ∈ manager.dayRequests.map Prod.fst, ∀ key' ∈ manager.dayRequests.map Prod.fst,
    key.2.identifier key.1 = key'.2.identifier key'.1 → key = key'

/-- Whether identifiers are distinct is checked on the list of them. -/
instance (manager : NotificationManager) : Decidable (DistinctIdentifiers manager) :=
  inferInstanceAs (Decidable (∀ key ∈ manager.dayRequests.map Prod.fst,
    ∀ key' ∈ manager.dayRequests.map Prod.fst,
      key.2.identifier key.1 = key'.2.identifier key'.1 → key = key'))

section Rebuilt

variable {manager : NotificationManager} {before : PendingRequests} {ids : List Text}

/-- A request of the manager is owned by one of its notifications. -/
theorem owned_of_mem_requests (hids : manager.ids ⊆ ids) {request : NotificationRequest}
    (h : request ∈ manager.requests) : Owned ids request.identifier := by
  obtain ⟨⟨id, day⟩, hmem⟩ := mem_requests_iff.mp h
  obtain ⟨hidentifier, -, hid⟩ := of_mem_dayRequests hmem
  exact ⟨id, hids hid, day, hidentifier⟩

/-- **The rebuilt part** has a request for each day just when no two days share an identifier. -/
theorem one_iff : (∀ key ∈ manager.dayRequests.map Prod.fst, ∃! request,
      request ∈ manager.scheduleAllNotifications.rows ∧ (key, request) ∈ manager.dayRequests) ↔
    DistinctIdentifiers manager := by
  constructor
  · intro h key hkey key' hkey' hsame
    obtain ⟨request, ⟨hpending, hmem⟩, -⟩ := h key hkey
    obtain ⟨request', ⟨hpending', hmem'⟩, -⟩ := h key' hkey'
    have hidentifier := (of_mem_dayRequests hmem).1
    have hidentifier' := (of_mem_dayRequests hmem').1
    have heq : request = request' := Table.eq_of_key_eq hpending hpending'
      (hidentifier.trans (hsame.trans hidentifier'.symm))
    rw [← heq] at hmem'
    exact key_eq_of_mem_dayRequests hmem hmem'
  · intro h key hkey
    obtain ⟨⟨key, asked⟩, hasked, rfl⟩ := List.mem_map.mp hkey
    have hidentifier := (of_mem_dayRequests hasked).1
    -- a request with the identifier is pending, for this key or another one
    have hpending : asked.identifier ∈
        manager.scheduleAllNotifications.rows.map NotificationRequest.identifier := by
      rw [scheduleAllNotifications, Table.mem_keys_foldl_insertOrReplace]
      exact Or.inr (List.mem_map_of_mem (mem_requests_iff.mpr ⟨key, hasked⟩))
    obtain ⟨request, hrequest, hsame⟩ := List.mem_map.mp hpending
    obtain ⟨key', hmem⟩ := mem_requests_iff.mp
      (mem_requests_of_mem_scheduleAllNotifications hrequest)
    have hidentifier' := (of_mem_dayRequests hmem).1
    have hkeys : key = key' := h key hkey key' (List.mem_map.mpr ⟨_, hmem, rfl⟩)
      (hidentifier.symm.trans (hsame.symm.trans hidentifier'))
    rw [← hkeys] at hmem
    refine ⟨request, ⟨hrequest, hmem⟩, ?_⟩
    rintro request' ⟨hrequest', hmem'⟩
    exact Table.eq_of_key_eq hrequest' hrequest
      ((of_mem_dayRequests hmem').1.trans (of_mem_dayRequests hmem).1.symm)

/-- Scheduling everything anew brings exactly the requests of the manager, if it owns all that
were pending and no two of its own share an identifier. -/
theorem rebuilt_scheduleAllNotifications_iff (hids : manager.ids ⊆ ids) :
    Rebuilt before manager.scheduleAllNotifications ids manager ↔
      (∀ request ∈ before.rows, Owned ids request.identifier) ∧ DistinctIdentifiers manager := by
  rw [← one_iff]
  constructor
  · rintro ⟨hothers, -, hone⟩
    refine ⟨fun request hrequest => ?_, hone⟩
    by_contra hother
    exact hother (owned_of_mem_requests hids (mem_requests_of_mem_scheduleAllNotifications
      ((hothers request hother).mpr hrequest)))
  · rintro ⟨howned, hone⟩
    refine ⟨fun request hother => iff_of_false ?_ ?_, fun request hrequest _ =>
      mem_requests_of_mem_scheduleAllNotifications hrequest, hone⟩
    · intro hrequest
      exact hother (owned_of_mem_requests hids
        (mem_requests_of_mem_scheduleAllNotifications hrequest))
    · intro hrequest
      exact hother (howned request hrequest)

end Rebuilt

/-- **Rescheduling** leaves the other producers alone and gives each day of an enabled
notification its request, just when no other producer has a pending request and no two of
the days share an identifier. -/
theorem rebuilt_iff (s : ReminderState) (event : ReminderEvent) {manager : NotificationManager}
    (h : event.scheduled s.manager = some manager) :
    Rebuilt s.pendingRequests (event.step s).pendingRequests (s.manager.ids ++ manager.ids)
        manager ↔
      (∀ request ∈ s.pendingRequests.rows,
          Owned (s.manager.ids ++ manager.ids) request.identifier) ∧
        DistinctIdentifiers manager := by
  have hstep : event.step s = s.rescheduleIf (event.scheduled s.manager) := by
    cases event with
    | cancelSalaryNotificationForCurrentMonth => cases h
    | nextMonth => cases h
    | _ => rfl
  rw [hstep, h]
  exact rebuilt_scheduleAllNotifications_iff (List.subset_append_right _ _)

/-- The manager of a fresh installation. -/
def freshManager : NotificationManager :=
  { templates := NotificationTemplate.templates, customNotifications := [] }

/-- The start of a fresh installation. -/
theorem rebuilt_fresh : Rebuilt (Table.empty _) freshManager.scheduleAllNotifications
    (freshManager.ids ++ freshManager.ids) freshManager :=
  (rebuilt_iff ⟨freshManager, Table.empty _, [], 24288⟩ .scheduleAllNotifications rfl).mpr
    ⟨by simp, by decide +kernel⟩

/-- An identifier starts like its id. -/
theorem head?_identifier {id : Text} (hne : id ≠ []) (day : RequestDay) :
    (day.identifier id).head? = id.head? := by
  cases day with
  | every => rfl
  | month d => rw [RequestDay.identifier, List.append_assoc, List.head?_append_of_ne_nil _ hne]
  | week d => rw [RequestDay.identifier, List.append_assoc, List.head?_append_of_ne_nil _ hne]

/-- The daily reminder is gone after the next start of the app. -/
theorem not_rebuilt_daily :
    ¬ Rebuilt (NotificationsViewModel.scheduleDailyReminder (Table.empty _))
      freshManager.scheduleAllNotifications (freshManager.ids ++ freshManager.ids)
      freshManager := by
  intro h
  rw [rebuilt_scheduleAllNotifications_iff (List.subset_append_left _ _)] at h
  obtain ⟨id, hid, day, heq⟩ := h.1 _ (Table.mem_insertOrReplace.mpr (Or.inr rfl))
  have hids : ∀ id ∈ freshManager.ids ++ freshManager.ids, id ≠ [] ∧ id.head? ≠ some 'd' := by
    decide
  obtain ⟨hne, hhead⟩ := hids id hid
  have hdaily := congrArg List.head? heq
  rw [head?_identifier hne] at hdaily
  exact hhead hdaily.symm

end SpendCraft.Ios
