import SpendCraft.Ios.SignOut
import SpendCraft.Lib.Machine

/-!
# Salary Reminders of the iOS App

The template `monthly_1` asks for a repeating request on each of its days of the month.
`cancelSalaryNotificationForCurrentMonth` removes the requests of the days one to five from
the notification center and notes the month in `UserDefaults`. Scheduling removes every
request and adds those of the enabled templates and custom notifications again; it does not
read the noted months. A removed request does not come back by itself.

Months are counted from the year zero. Time passes by a step of its own.

## Conventions

The months are numbers from the year zero on, the current one among the state, and a step of time
is the next month. The notification center is the table of pending requests, by their identifiers.
The templates and the custom notifications may be edited in every way that the manager offers, at
any time, and every such edit schedules all requests again. `Dismissed` looks the current month up
among the notes. Of the source only `shouldShowSalaryNotificationForCurrentMonth` does so, which
nothing calls.

## Proof

The invariant `Kept` has two parts, the months that are dismissed and the others. A cancel begins
the one, and time the other. A step that schedules puts the requests back, which is harmful in a
dismissed month only; a month that ends while its requests are gone leaves the next one without
them. `Allowed` is these conditions on one step, and `Kept.step_iff` says that they are exact.

## Main results

* `mem_dismissed_iff`: the noted months are those of the cancels.
* `Kept.step_iff`: which steps keep the reminders as they should be.
* `staysCancelled_iff`: the same for the runs.
-/

namespace SpendCraft.Ios

open Kotlin Relational Machine

/-! ### The manager -/

/-- The templates of a fresh installation. -/
def NotificationTemplate.templates : List NotificationTemplate :=
  [ { id := "morning_1".toList, title := "Günaydın! ☀️".toList,
      body :=
        "Yeni bir gün, yeni bir başlangıç! Harcamalarınızı takip etmeye hazır mısınız?".toList,
      hour := 8, minute := 0, isEnabled := true, daysOfWeek := none, daysOfMonth := none },
    { id := "morning_2".toList, title := "Kahve Molası ☕️".toList,
      body := "Kahvenizi içerken bugünkü bütçenizi kontrol edin!".toList,
      hour := 9, minute := 30, isEnabled := false, daysOfWeek := none, daysOfMonth := none },
    { id := "noon_1".toList, title := "Öğle Arası 🍽️".toList,
      body := "Yemek harcamanızı kaydetmeyi unutmayın!".toList,
      hour := 12, minute := 30, isEnabled := true, daysOfWeek := none, daysOfMonth := none },
    { id := "noon_2".toList, title := "Harcama Kontrolü 💰".toList,
      body := "Bugüne kadar ne kadar harcadınız? Kontrol edin!".toList,
      hour := 14, minute := 0, isEnabled := false, daysOfWeek := none, daysOfMonth := none },
    { id := "evening_1".toList, title := "Günün Özeti 🌙".toList,
      body := "Bugünkü harcamalarınızı gözden geçirme zamanı!".toList,
      hour := 20, minute := 0, isEnabled := true, daysOfWeek := none, daysOfMonth := none },
    { id := "evening_2".toList, title := "Günlük Hedef 🎯".toList,
      body := "Bugünkü bütçe hedefinize ulaştınız mı?".toList,
      hour := 21, minute := 0, isEnabled := false, daysOfWeek := none, daysOfMonth := none },
    { id := "weekly_1".toList, title := "Haftalık Rapor 📊".toList,
      body := "Bu haftaki harcamalarınızı inceleyin!".toList,
      hour := 10, minute := 0, isEnabled := false, daysOfWeek := some [1], daysOfMonth := none },
    { id := "weekly_2".toList, title := "Hafta Sonu Planı 🎉".toList,
      body := "Hafta sonu harcamalarınızı planlayın!".toList,
      hour := 18, minute := 0, isEnabled := false, daysOfWeek := some [6], daysOfMonth := none },
    { id := "monthly_1".toList, title := "Maaş Günü 💸".toList,
      body := "Gelirinizi kaydetmeyi unutmayın!".toList,
      hour := 10, minute := 0, isEnabled := true, daysOfWeek := none,
      daysOfMonth := some [1, 2, 3, 4, 5] },
    { id := "monthly_2".toList, title := "Fatura Ödemeleri 🧾".toList,
      body := "Ay sonuna yaklaştık, faturalarınızı kontrol edin!".toList,
      hour := 19, minute := 0, isEnabled := false, daysOfWeek := none,
      daysOfMonth := some [25, 26, 27, 28, 29, 30] },
    { id := "motivation_1".toList, title := "Tasarruf Hedefi 🎯".toList,
      body := "Küçük tasarruflar büyük sonuçlar doğurur! Devam edin!".toList,
      hour := 16, minute := 0, isEnabled := false, daysOfWeek := none, daysOfMonth := none },
    { id := "motivation_2".toList, title := "Finansal Özgürlük 🚀".toList,
      body := "Her kaydettiğiniz işlem sizi hedefinize bir adım yaklaştırıyor!".toList,
      hour := 15, minute := 30, isEnabled := false, daysOfWeek := none, daysOfMonth := none },
    { id := "weekend_1".toList, title := "Hafta Sonu Başladı! 🎊".toList,
      body := "Hafta sonu harcamalarınızı takip etmeyi unutmayın!".toList,
      hour := 11, minute := 0, isEnabled := false, daysOfWeek := some [6, 7], daysOfMonth := none },
    { id := "weekend_2".toList, title := "Pazar Günü 🏡".toList,
      body := "Haftayı değerlendirin ve yeni haftayı planlayın!".toList,
      hour := 19, minute := 0, isEnabled := false, daysOfWeek := some [7], daysOfMonth := none } ]

namespace NotificationManager

/-- `templates[index] = template` at the first template with the id. -/
def updateTemplate (template : NotificationTemplate) (manager : NotificationManager) :
    Option NotificationManager :=
  (manager.templates.findIdx? fun t => t.id == template.id).map fun index =>
    { manager with templates := manager.templates.set index template }

/-- `addCustomNotification`: it comes last. -/
def addCustomNotification (notification : CustomNotification) (manager : NotificationManager) :
    NotificationManager :=
  { manager with customNotifications := manager.customNotifications ++ [notification] }

/-- `updateCustomNotification`: the first notification with the id is replaced; without one
nothing happens. -/
def updateCustomNotification (notification : CustomNotification)
    (manager : NotificationManager) : Option NotificationManager :=
  (manager.customNotifications.findIdx? fun n => n.id == notification.id).map fun index =>
    { manager with customNotifications := manager.customNotifications.set index notification }

/-- `deleteCustomNotification`: every notification with the id goes. -/
def deleteCustomNotification (notification : CustomNotification)
    (manager : NotificationManager) : NotificationManager :=
  { manager with
    customNotifications := manager.customNotifications.filter fun n => n.id != notification.id }

/-- `"monthly_1_monthDay_\(day)"` -/
def salaryIdentifier (day : ℤ) : Text :=
  "monthly_1".toList ++ "_monthDay_".toList ++ intText day

/-- The days of the month on which an enabled template `monthly_1` reminds. -/
def salaryDays (manager : NotificationManager) : List ℤ :=
  ((manager.templates.filter NotificationTemplate.isEnabled).filter fun template =>
    template.id == "monthly_1".toList).flatMap fun template => template.daysOfMonth.getD []

end NotificationManager

open NotificationManager

/-- The manager, the requests in the notification center, the months noted as dismissed, by
year and month, and the current month. -/
structure ReminderState where
  manager : NotificationManager
  pendingRequests : PendingRequests
  salaryNotificationDismissed : List (ℤ × ℤ)
  month : ℤ

namespace ReminderState

/-- The year and the month, as `dateComponents` gives them. -/
def yearMonth (month : ℤ) : ℤ × ℤ :=
  (month / 12, month % 12 + 1)

/-- A request with the identifier waits in the notification center. -/
def Pending (s : ReminderState) (identifier : Text) : Prop :=
  identifier ∈ s.pendingRequests.rows.map NotificationRequest.identifier

/-- Whether a request is pending is looked up by its identifier. -/
instance (s : ReminderState) (identifier : Text) : Decidable (s.Pending identifier) :=
  inferInstanceAs (Decidable (_ ∈ _))

/-- The current month is noted. -/
def Dismissed (s : ReminderState) : Prop :=
  yearMonth s.month ∈ s.salaryNotificationDismissed

/-- Whether the month was dismissed is looked up in the list. -/
instance (s : ReminderState) : Decidable s.Dismissed :=
  inferInstanceAs (Decidable (_ ∈ _))

/-- The manager is saved and schedules its requests. -/
def reschedule (manager : NotificationManager) (s : ReminderState) : ReminderState :=
  { s with
    manager := manager
    pendingRequests := manager.scheduleAllNotifications }

/-- An edit that finds nothing to edit schedules nothing. -/
def rescheduleIf (manager : Option NotificationManager) (s : ReminderState) : ReminderState :=
  match manager with
  | some manager => s.reschedule manager
  | none => s

/-- `cancelSalaryNotificationForCurrentMonth`: the five requests are removed and the month is
noted. The templates do not change. -/
def cancelSalaryNotificationForCurrentMonth (s : ReminderState) : ReminderState :=
  { s with
    pendingRequests := s.pendingRequests.deleteWhere fun request =>
      decide (request.identifier ∈ ([1, 2, 3, 4, 5] : List ℤ).map salaryIdentifier)
    salaryNotificationDismissed := yearMonth s.month :: s.salaryNotificationDismissed }

end ReminderState

/-- What happens to the reminders: a call of the manager, or the next month begins. -/
inductive ReminderEvent
  | scheduleAllNotifications
  | updateTemplate (template : NotificationTemplate)
  | addCustomNotification (notification : CustomNotification)
  | updateCustomNotification (notification : CustomNotification)
  | deleteCustomNotification (notification : CustomNotification)
  | cancelSalaryNotificationForCurrentMonth
  | nextMonth
  deriving DecidableEq, Repr

namespace ReminderEvent

/-- The manager that the event schedules, if it schedules. -/
def scheduled (manager : NotificationManager) : ReminderEvent → Option NotificationManager
  | scheduleAllNotifications => some manager
  | updateTemplate template => manager.updateTemplate template
  | addCustomNotification notification => some (manager.addCustomNotification notification)
  | updateCustomNotification notification => manager.updateCustomNotification notification
  | deleteCustomNotification notification => some (manager.deleteCustomNotification notification)
  | _ => none

/-- One event. Every change of the manager schedules all notifications anew. -/
def step (s : ReminderState) (event : ReminderEvent) : ReminderState :=
  match event with
  | cancelSalaryNotificationForCurrentMonth => s.cancelSalaryNotificationForCurrentMonth
  | nextMonth => { s with month := s.month + 1 }
  | event => s.rescheduleIf (event.scheduled s.manager)

/-- In a dismissed month nothing is scheduled that asks for salary requests, and the month
ends with none of them enabled; a cancel finds no requests of other days. -/
def Allowed (s : ReminderState) (event : ReminderEvent) : Prop :=
  match event with
  | cancelSalaryNotificationForCurrentMonth =>
      ∀ day, s.Pending (salaryIdentifier day) → day ∈ ([1, 2, 3, 4, 5] : List ℤ)
  | nextMonth => s.Dismissed → s.manager.salaryDays = []
  | event => s.Dismissed → ∀ manager ∈ event.scheduled s.manager, ∀ day,
      salaryIdentifier day ∉ manager.requests.map NotificationRequest.identifier

end ReminderEvent

/-- After a cancel no salary request is pending while its month lasts, and in later months
that are not dismissed themselves those of the enabled days are. -/
def StaysCancelled (s : ReminderState) (events : List ReminderEvent) : Prop :=
  ∀ pre mid, pre ++ .cancelSalaryNotificationForCurrentMonth :: mid <+: events →
    let before := run ReminderEvent.step s pre
    let after :=
      run ReminderEvent.step s (pre ++ .cancelSalaryNotificationForCurrentMonth :: mid)
    (after.month = before.month → ∀ day, ¬ after.Pending (salaryIdentifier day)) ∧
      (before.month < after.month → ¬ after.Dismissed →
        ∀ day ∈ after.manager.salaryDays, after.Pending (salaryIdentifier day))

/-! ### Identifiers and months -/

/-- Different days have different identifiers. -/
theorem salaryIdentifier_injective : Function.Injective salaryIdentifier := by
  intro day day' heq
  have htext : intText day = intText day' := List.append_cancel_left heq
  have hvalue := congrArg signedValue htext
  rw [signedValue_intText, signedValue_intText] at hvalue
  exact Option.some.inj hvalue

/-- Different months have different years or months. -/
theorem yearMonth_injective : Function.Injective ReminderState.yearMonth := by
  intro m m' heq
  rw [ReminderState.yearMonth, ReminderState.yearMonth, Prod.mk.injEq] at heq
  omega

/-- What is pending after scheduling is what the manager asks for. -/
theorem pending_reschedule_iff {manager : NotificationManager} {s : ReminderState}
    {identifier : Text} : (s.reschedule manager).Pending identifier ↔
      identifier ∈ manager.requests.map NotificationRequest.identifier := by
  rw [ReminderState.Pending, ReminderState.reschedule, scheduleAllNotifications,
    Table.mem_keys_foldl_insertOrReplace]
  simp

/-- Each enabled day has its request. -/
theorem mem_requests_of_mem_salaryDays {manager : NotificationManager} {day : ℤ}
    (hday : day ∈ manager.salaryDays) :
    salaryIdentifier day ∈ manager.requests.map NotificationRequest.identifier := by
  obtain ⟨template, htemplate, hmem⟩ := List.mem_flatMap.mp hday
  obtain ⟨henabled, hid⟩ := List.mem_filter.mp htemplate
  rw [beq_iff_eq] at hid
  cases hdays : template.daysOfMonth with
  | none => simp [hdays] at hmem
  | some days =>
      rw [hdays, Option.getD_some] at hmem
      rw [requests, List.map_append, List.mem_append]
      left
      rw [List.map_flatMap, List.mem_flatMap]
      refine ⟨template, henabled, ?_⟩
      rw [hdays, scheduleNotification, List.map_map, List.mem_map]
      refine ⟨day, hmem, ?_⟩
      rw [Function.comp_apply, hid]
      rfl

/-- What is pending after a cancel. -/
theorem pending_cancel_iff {s : ReminderState} {day : ℤ} :
    s.cancelSalaryNotificationForCurrentMonth.Pending (salaryIdentifier day) ↔
      s.Pending (salaryIdentifier day) ∧ day ∉ ([1, 2, 3, 4, 5] : List ℤ) := by
  have hrows : s.cancelSalaryNotificationForCurrentMonth.pendingRequests.rows =
      s.pendingRequests.rows.filter fun request => !decide
        (request.identifier ∈ ([1, 2, 3, 4, 5] : List ℤ).map salaryIdentifier) := rfl
  rw [ReminderState.Pending, hrows, ← List.mem_map_of_injective salaryIdentifier_injective,
    ReminderState.Pending]
  constructor
  · intro h
    obtain ⟨request, hmem, hid⟩ := List.mem_map.mp h
    obtain ⟨hrequest, hother⟩ := List.mem_filter.mp hmem
    rw [hid] at hother
    exact ⟨List.mem_map.mpr ⟨request, hrequest, hid⟩, by simpa using hother⟩
  · rintro ⟨h, hother⟩
    obtain ⟨request, hrequest, hid⟩ := List.mem_map.mp h
    refine List.mem_map.mpr ⟨request, List.mem_filter.mpr ⟨hrequest, ?_⟩, hid⟩
    rw [hid]
    simpa using hother

/-! ### The noted months -/

section Months

variable {s : ReminderState}

/-- Scheduling does not touch the months. -/
theorem month_rescheduleIf (manager : Option NotificationManager) :
    (s.rescheduleIf manager).month = s.month ∧
      (s.rescheduleIf manager).salaryNotificationDismissed = s.salaryNotificationDismissed := by
  cases manager with
  | none => exact ⟨rfl, rfl⟩
  | some manager => exact ⟨rfl, rfl⟩

/-- What a step does to the months. -/
theorem months_step (event : ReminderEvent) :
    (event.step s).month = (if event = .nextMonth then s.month + 1 else s.month) ∧
      (event.step s).salaryNotificationDismissed =
        (if event = .cancelSalaryNotificationForCurrentMonth then
          ReminderState.yearMonth s.month :: s.salaryNotificationDismissed
        else s.salaryNotificationDismissed) := by
  cases event with
  | cancelSalaryNotificationForCurrentMonth => exact ⟨rfl, rfl⟩
  | nextMonth => exact ⟨rfl, rfl⟩
  | _ => exact month_rescheduleIf _

/-- The month does not go back in a step. -/
theorem month_le_step (event : ReminderEvent) : s.month ≤ (event.step s).month := by
  rw [(months_step event).1]
  split_ifs
  · omega
  · exact le_rfl

/-- The month does not go back in a run. -/
theorem month_le_run (events : List ReminderEvent) :
    s.month ≤ (run ReminderEvent.step s events).month := by
  induction events generalizing s with
  | nil => exact le_rfl
  | cons event events ih => exact (month_le_step event).trans ih

/-- **The noted months** are those before and those of the cancels. -/
theorem mem_dismissed_iff {key : ℤ × ℤ} {events : List ReminderEvent} :
    key ∈ (run ReminderEvent.step s events).salaryNotificationDismissed ↔
      key ∈ s.salaryNotificationDismissed ∨
        ∃ pre mid, events = pre ++ .cancelSalaryNotificationForCurrentMonth :: mid ∧
          key = ReminderState.yearMonth (run ReminderEvent.step s pre).month := by
  induction events generalizing s with
  | nil => simp
  | cons event events ih =>
      rw [run_cons, ih, (months_step event).2]
      constructor
      · rintro (hkey | ⟨pre, mid, rfl, rfl⟩)
        · split_ifs at hkey with hcancel
          · obtain rfl | hkey := List.mem_cons.mp hkey
            · exact .inr ⟨[], events, by rw [hcancel]; rfl, rfl⟩
            · exact .inl hkey
          · exact .inl hkey
        · exact .inr ⟨event :: pre, mid, rfl, rfl⟩
      · rintro (hkey | ⟨pre, mid, heq, rfl⟩)
        · left
          split_ifs
          · exact List.mem_cons_of_mem _ hkey
          · exact hkey
        · cases pre with
          | nil =>
              obtain ⟨rfl, rfl⟩ := List.cons.inj heq
              exact .inl (by simp)
          | cons event' pre =>
              obtain ⟨rfl, rfl⟩ := List.cons.inj heq
              exact .inr ⟨pre, mid, rfl, rfl⟩

end Months

/-! ### Keeping the reminders -/

/-- No salary request is pending in a dismissed month, and those of the enabled days are in
a month after the last dismissed one. -/
structure Kept (s : ReminderState) : Prop where
  cancelled : s.Dismissed → ∀ day, ¬ s.Pending (salaryIdentifier day)
  back : s.salaryNotificationDismissed ≠ [] → ¬ s.Dismissed →
    ∀ day ∈ s.manager.salaryDays, s.Pending (salaryIdentifier day)

/-- The noted months are not in the future. -/
def NotedBefore (s : ReminderState) : Prop :=
  ∀ key ∈ s.salaryNotificationDismissed, ∃ m ≤ s.month, key = ReminderState.yearMonth m

section Steps

variable {s : ReminderState}

/-- **Step lemma:** a month that was noted is not a later one. -/
theorem NotedBefore.step (h : NotedBefore s) (event : ReminderEvent) :
    NotedBefore (event.step s) := by
  have hle := month_le_step (s := s) event
  intro key hkey
  rw [(months_step event).2] at hkey
  have hbefore : key ∈ s.salaryNotificationDismissed →
      ∃ m ≤ (event.step s).month, key = ReminderState.yearMonth m := by
    intro hmem
    obtain ⟨m, hm, heq⟩ := h key hmem
    exact ⟨m, hm.trans hle, heq⟩
  split_ifs at hkey
  · obtain heq | hmem := List.mem_cons.mp hkey
    · exact ⟨s.month, hle, heq⟩
    · exact hbefore hmem
  · exact hbefore hkey

/-- A new month is not noted yet. -/
theorem NotedBefore.not_dismissed_nextMonth (h : NotedBefore s) :
    ¬ (ReminderEvent.step s .nextMonth).Dismissed := by
  intro hdismissed
  obtain ⟨m, hle, heq⟩ := h _ hdismissed
  have hmonth : s.month + 1 = m := yearMonth_injective heq
  omega

/-- **Scheduling** keeps the reminders unless the month is dismissed and the manager asks
for salary requests. -/
theorem kept_reschedule_iff (manager : NotificationManager) :
    Kept (s.reschedule manager) ↔ (s.Dismissed → ∀ day,
      salaryIdentifier day ∉ manager.requests.map NotificationRequest.identifier) := by
  constructor
  · intro h hdismissed day hmem
    exact h.cancelled hdismissed day (pending_reschedule_iff.mpr hmem)
  · intro h
    refine ⟨fun hdismissed day hpending => ?_, fun _ _ day hday => ?_⟩
    · exact h hdismissed day (pending_reschedule_iff.mp hpending)
    · exact pending_reschedule_iff.mpr (mem_requests_of_mem_salaryDays hday)

/-- After scheduling, a dismissed month is still quiet exactly if no reminder of the salary is
scheduled. -/
theorem Kept.rescheduleIf_iff (h : Kept s) (manager : Option NotificationManager) :
    Kept (s.rescheduleIf manager) ↔ (s.Dismissed → ∀ m ∈ manager, ∀ day,
      salaryIdentifier day ∉ m.requests.map NotificationRequest.identifier) := by
  cases manager with
  | none => exact iff_of_true h (by simp)
  | some manager =>
      rw [ReminderState.rescheduleIf, kept_reschedule_iff]
      simp

/-- **The step.** Which steps keep the reminders as they should be. -/
theorem Kept.step_iff (h : Kept s) (hnoted : NotedBefore s) (event : ReminderEvent) :
    Kept (event.step s) ↔ ReminderEvent.Allowed s event := by
  cases event with
  | cancelSalaryNotificationForCurrentMonth =>
      have hdismissed : s.cancelSalaryNotificationForCurrentMonth.Dismissed :=
        List.mem_cons_self
      constructor
      · intro hkept day hpending
        by_contra hother
        exact hkept.cancelled hdismissed day (pending_cancel_iff.mpr ⟨hpending, hother⟩)
      · intro hallowed
        refine ⟨fun _ day hpending => ?_, fun _ hnot => absurd hdismissed hnot⟩
        obtain ⟨hbefore, hother⟩ := pending_cancel_iff.mp hpending
        exact hother (hallowed day hbefore)
  | nextMonth =>
      have hnew := hnoted.not_dismissed_nextMonth
      constructor
      · intro hkept hdismissed
        rw [List.eq_nil_iff_forall_not_mem]
        intro day hday
        exact h.cancelled hdismissed day
          (hkept.back (List.ne_nil_of_mem hdismissed) hnew day hday)
      · intro hallowed
        refine ⟨fun hdismissed => absurd hdismissed hnew, fun hsome _ day hday => ?_⟩
        by_cases hdismissed : s.Dismissed
        · have hnone : s.manager.salaryDays = [] := hallowed hdismissed
          exact absurd hday (by simp [ReminderEvent.step, hnone])
        · exact h.back hsome hdismissed day hday
  | scheduleAllNotifications => exact h.rescheduleIf_iff (some s.manager)
  | updateTemplate template => exact h.rescheduleIf_iff (s.manager.updateTemplate template)
  | addCustomNotification notification =>
      exact h.rescheduleIf_iff (some (s.manager.addCustomNotification notification))
  | updateCustomNotification notification =>
      exact h.rescheduleIf_iff (s.manager.updateCustomNotification notification)
  | deleteCustomNotification notification =>
      exact h.rescheduleIf_iff (some (s.manager.deleteCustomNotification notification))

end Steps

/-! ### Runs -/

section Runs

variable {s : ReminderState} (hnone : s.salaryNotificationDismissed = [])

include hnone

/-- A run keeps what it has cancelled just when all its states are kept. -/
theorem staysCancelled_iff_forall_kept (events : List ReminderEvent) :
    StaysCancelled s events ↔ ∀ pre, pre <+: events → Kept (run ReminderEvent.step s pre) := by
  constructor
  · rintro hstays pre hpre
    have hcancel : ∀ key ∈ (run ReminderEvent.step s pre).salaryNotificationDismissed,
        ∃ first mid, pre = first ++ .cancelSalaryNotificationForCurrentMonth :: mid ∧
          key = ReminderState.yearMonth (run ReminderEvent.step s first).month := by
      intro key hkey
      obtain hkey | hcancel := mem_dismissed_iff.mp hkey
      · rw [hnone] at hkey
        exact absurd hkey List.not_mem_nil
      · exact hcancel
    constructor
    · intro hdismissed
      obtain ⟨first, mid, rfl, heq⟩ := hcancel _ hdismissed
      exact (hstays first mid hpre).1 (yearMonth_injective heq)
    · intro hsome hnot
      obtain ⟨key, hkey⟩ := List.exists_mem_of_ne_nil _ hsome
      obtain ⟨first, mid, rfl, rfl⟩ := hcancel key hkey
      refine (hstays first mid hpre).2 (lt_of_le_of_ne ?_ ?_) hnot
      · rw [run_append]
        exact month_le_run _
      · intro heq
        rw [heq] at hkey
        exact hnot hkey
  · intro hkept pre mid hpre
    have hafter := hkept _ hpre
    have hmem : ReminderState.yearMonth (run ReminderEvent.step s pre).month ∈
        (run ReminderEvent.step s
          (pre ++ .cancelSalaryNotificationForCurrentMonth :: mid)).salaryNotificationDismissed :=
      mem_dismissed_iff.mpr (.inr ⟨pre, mid, rfl, rfl⟩)
    refine ⟨fun hsame => hafter.cancelled ?_, fun _ hnot => ?_⟩
    · rw [ReminderState.Dismissed, hsame]
      exact hmem
    · exact hafter.back (List.ne_nil_of_mem hmem) hnot

end Runs

/-- **Salary reminders** stay cancelled for the month and come back the next one just when
all steps of the run are allowed. -/
theorem staysCancelled_iff (manager : NotificationManager) (pendingRequests : PendingRequests)
    (month : ℤ) (events : List ReminderEvent) :
    StaysCancelled ⟨manager, pendingRequests, [], month⟩ events ↔
      AllSteps ReminderEvent.step ReminderEvent.Allowed ⟨manager, pendingRequests, [], month⟩
        events := by
  have hnoted : NotedBefore ⟨manager, pendingRequests, [], month⟩ := by
    intro key hkey
    exact absurd hkey List.not_mem_nil
  have hkept : Kept ⟨manager, pendingRequests, [], month⟩ :=
    ⟨fun hdismissed => absurd hdismissed List.not_mem_nil, fun hsome => absurd rfl hsome⟩
  rw [staysCancelled_iff_forall_kept rfl]
  exact forall_prefix_iff_of_invariant (fun s event hnoted => hnoted.step event)
    (fun s event hnoted hkept => hkept.step_iff hnoted event) hnoted hkept events

/-- With the templates of a fresh installation, the salary requests are back as soon as the
app starts again, which schedules; and when nothing schedules, they are gone for the next
month. -/
theorem not_staysCancelled_january :
    ¬ StaysCancelled ⟨⟨NotificationTemplate.templates, []⟩, Table.empty _, [], 24288⟩
        [.scheduleAllNotifications, .cancelSalaryNotificationForCurrentMonth,
          .scheduleAllNotifications] ∧
      ¬ StaysCancelled ⟨⟨NotificationTemplate.templates, []⟩, Table.empty _, [], 24288⟩
        [.scheduleAllNotifications, .cancelSalaryNotificationForCurrentMonth, .nextMonth] := by
  constructor
  · intro h
    have hnone := (h [.scheduleAllNotifications] [.scheduleAllNotifications]
      (List.prefix_refl _)).1 rfl 1
    revert hnone
    decide
  · intro h
    have hback := (h [.scheduleAllNotifications] [.nextMonth] (List.prefix_refl _)).2 (by decide)
      (by decide) 1 (by decide)
    revert hback
    decide

end SpendCraft.Ios
