import SpendCraft.GeneralBreach

/-!
# The Notification Tray

The system keeps one notification for each id: `notify` puts another one in its place. The
budget alerts have the id 1001, the budget warnings the next one, which is also that of the
spending reminder, and the reminder of `ReminderWorker` has the id 1001 of its own.

Notifications are posted in any order. The user dismisses them one by one.

## Conventions

The tray is a function from ids to what is shown under them, and the budget notifications that
were posted and not dismissed are listed beside it. A notification is compared by all that the
tray shows of it. The texts of the reminders are resources of the app and arbitrary here.
Notifications of other apps do not occur, and the system removes nothing.

## Proof

A post keeps what waits if nothing with another text waits under its id (`Vacant`), and this is
also necessary; dismissing removes the notification from both sides. The runs follow by the rule
of `Machine`. For a single check the list of its posts is known, and the condition becomes one
about their ids: all alerts share one, and all warnings another.

## Main results

* `kept_iff`: in which runs every budget notification stays until it is dismissed.
* `allSteps_posts_iff`: the same for the notifications that one check posts.
* `not_kept_two_budgets`: two budgets that are exceeded at once.
-/

namespace SpendCraft

open Kotlin Machine

/-! ### Notifications -/

/-- What the tray shows under an id. -/
structure SystemNotification where
  id : ℤ
  title : Text
  text : Text
  deriving DecidableEq, Repr

namespace NotificationManager

/-- `NOTIFICATION_ID_BUDGET`. -/
def notificationIdBudget : ℤ := 1001

/-- `NOTIFICATION_ID_REMINDER`. -/
def notificationIdReminder : ℤ := 1002

/-- `showBudgetAlert`: every alert has the same id. -/
def showBudgetAlert (amount budgetName : Text) : SystemNotification :=
  { id := notificationIdBudget
    title := "⚠️ Bütçe Uyarısı".toList
    text := budgetName ++ " bütçenizi ".toList ++ amount ++ " aştınız!".toList }

/-- `showBudgetWarning`: every warning has the next one. -/
def showBudgetWarning (percentage : ℤ) (budgetName spentAmount limitAmount : Text) :
    SystemNotification :=
  { id := notificationIdBudget + 1
    title := "⚠️ Bütçe Uyarısı".toList
    text := budgetName ++ " bütçenizin %".toList ++ intText percentage ++
      "'ini kullandınız! (₺".toList ++ spentAmount ++ " / ₺".toList ++ limitAmount ++
      ")".toList }

/-- `showSpendingReminder`. -/
def showSpendingReminder : SystemNotification :=
  { id := notificationIdReminder
    title := "📝 Günlük Hatırlatma".toList
    text := "Bugünkü harcamalarınızı kaydetmeyi unutmayın!".toList }

end NotificationManager

open NotificationManager

/-- The texts are resources of the app. -/
def ReminderWorker.showReminderNotification (reminderTitle reminderText : Text) :
    SystemNotification :=
  { id := 1001
    title := reminderTitle
    text := reminderText }

/-- A budget notification is shown by the function of its kind. -/
def BudgetNotification.toSystem : BudgetNotification → SystemNotification
  | .budgetAlert percentage categoryName => showBudgetAlert percentage categoryName
  | .budgetWarning percentage categoryName spentAmount limitAmount =>
      showBudgetWarning percentage categoryName spentAmount limitAmount

/-- What `TransactionsViewModel.checkBudgetBreaches` posts for the breaches and the deficit
that the general check finds. -/
def TransactionsViewModel.posts (fmt : AmountFormat) (breaches : List Text)
    (deficit : Option ℤ) : List BudgetNotification :=
  (TransactionsViewModel.checkBudgetBreaches breaches).map Prod.fst ++
    (deficit.map fun deficit => (deficitAlert fmt deficit).1).toList

/-! ### The tray -/

/-- The tray, and the budget notifications that were posted and not dismissed. -/
structure NotificationTray where
  shown : ℤ → Option SystemNotification
  undismissed : List SystemNotification

/-- What happens to the tray: a notification is shown, or the user dismisses one. -/
inductive TrayEvent
  | budget (notification : BudgetNotification)
  | spendingReminder
  | reminderWorker (reminderTitle reminderText : Text)
  | dismiss (id : ℤ)

namespace NotificationTray

/-- The tray without notifications. -/
def empty : NotificationTray :=
  { shown := fun _ => none, undismissed := [] }

/-- `NotificationManager.notify(id, notification)` -/
def notify (notification : SystemNotification) (tray : NotificationTray) : NotificationTray :=
  { tray with shown := Function.update tray.shown notification.id (some notification) }

/-- One event. A notification replaces what is shown under its id. -/
def step (tray : NotificationTray) : TrayEvent → NotificationTray
  | .budget notification =>
      { tray.notify notification.toSystem with
        undismissed := notification.toSystem :: tray.undismissed }
  | .spendingReminder => tray.notify showSpendingReminder
  | .reminderWorker reminderTitle reminderText =>
      tray.notify (ReminderWorker.showReminderNotification reminderTitle reminderText)
  | .dismiss id =>
      { shown := Function.update tray.shown id none
        undismissed := tray.undismissed.filter fun notification => notification.id != id }

/-- Every budget notification that was not dismissed is there. -/
def Kept (tray : NotificationTray) : Prop :=
  ∀ notification ∈ tray.undismissed, tray.shown notification.id = some notification

/-- No budget notification with another text waits under the id. -/
def Vacant (tray : NotificationTray) (notification : SystemNotification) : Prop :=
  ∀ other ∈ tray.undismissed, other.id = notification.id → other = notification

/-- A notification is posted where no other budget notification waits under its id. -/
def Allowed (tray : NotificationTray) : TrayEvent → Prop
  | .budget notification => tray.Vacant notification.toSystem
  | .spendingReminder => tray.Vacant showSpendingReminder
  | .reminderWorker reminderTitle reminderText =>
      tray.Vacant (ReminderWorker.showReminderNotification reminderTitle reminderText)
  | .dismiss _ => True

variable {tray : NotificationTray}

/-- **A post** takes the place of what is under its id. -/
theorem kept_notify_iff (h : tray.Kept) (notification : SystemNotification) :
    (tray.notify notification).Kept ↔ tray.Vacant notification := by
  refine forall₂_congr fun other hother => ?_
  by_cases hid : other.id = notification.id
  · simp only [notify, hid, Function.update_self, Option.some_inj, true_imp_iff]
    exact eq_comm
  · simp only [notify, Function.update_of_ne hid, hid, false_imp_iff, iff_true]
    exact h other hother

/-- **The step.** Which events keep the budget notifications. -/
theorem kept_step_iff (h : tray.Kept) (event : TrayEvent) :
    (tray.step event).Kept ↔ tray.Allowed event := by
  cases event with
  | budget notification =>
      rw [Allowed, ← kept_notify_iff h]
      have hnew : (tray.notify notification.toSystem).shown notification.toSystem.id =
          some notification.toSystem := Function.update_self ..
      exact List.forall_mem_cons.trans (and_iff_right hnew)
  | spendingReminder => exact kept_notify_iff h _
  | reminderWorker reminderTitle reminderText => exact kept_notify_iff h _
  | dismiss id =>
      refine iff_of_true ?_ trivial
      intro notification hnotification
      obtain ⟨hmem, hid⟩ := List.mem_filter.mp hnotification
      have hne : notification.id ≠ id := by simpa using hid
      exact (Function.update_of_ne hne _ _).trans (h notification hmem)

/-- The notifications of one check are kept just when no two of them with one id differ, and
none of them differs from one that waits under its id. -/
theorem allSteps_posts_iff (posts : List BudgetNotification) :
    AllSteps step Allowed tray (posts.map TrayEvent.budget) ↔
      (∀ notification ∈ posts, tray.Vacant notification.toSystem) ∧
        ∀ notification ∈ posts, ∀ other ∈ posts,
          other.toSystem.id = notification.toSystem.id →
            other.toSystem = notification.toSystem := by
  induction posts generalizing tray with
  | nil => simp
  | cons first posts ih =>
      have hvacant : ∀ notification : SystemNotification,
          (tray.step (.budget first)).Vacant notification ↔
            (first.toSystem.id = notification.id → first.toSystem = notification) ∧
              tray.Vacant notification := fun _ => List.forall_mem_cons
      rw [List.map_cons, allSteps_cons, ih]
      simp only [hvacant]
      constructor
      · rintro ⟨hfirst, hposts, hpairs⟩
        refine ⟨List.forall_mem_cons.mpr ⟨hfirst, fun n hn => (hposts n hn).2⟩, ?_⟩
        intro n hn m hm hid
        rcases List.mem_cons.mp hn with hn' | hn'
        · rcases List.mem_cons.mp hm with hm' | hm'
          · rw [hn', hm']
          · rw [hn'] at hid ⊢
            exact ((hposts m hm').1 hid.symm).symm
        · rcases List.mem_cons.mp hm with hm' | hm'
          · rw [hm'] at hid ⊢
            exact (hposts n hn').1 hid
          · exact hpairs n hn' m hm' hid
      · rintro ⟨hposts, hpairs⟩
        obtain ⟨hfirst, hrest⟩ := List.forall_mem_cons.mp hposts
        refine ⟨hfirst, fun n hn => ⟨?_, hrest n hn⟩, fun n hn m hm => ?_⟩
        · exact hpairs n (List.mem_cons_of_mem _ hn) first List.mem_cons_self
        · exact hpairs n (List.mem_cons_of_mem _ hn) m (List.mem_cons_of_mem _ hm)

/-- **Every budget notification stays until it is dismissed**, in every state of a run, just
when each post finds no other budget notification under its id. -/
theorem kept_iff (events : List TrayEvent) (fmt : AmountFormat) (breaches : List Text)
    (deficit : Option ℤ) :
    ((∀ pre, pre <+: events → (run step empty pre).Kept) ↔
        AllSteps step Allowed empty events) ∧
      ((∀ pre, pre <+: (TransactionsViewModel.posts fmt breaches deficit).map TrayEvent.budget →
          (run step empty pre).Kept) ↔
        ∀ notification ∈ TransactionsViewModel.posts fmt breaches deficit,
          ∀ other ∈ TransactionsViewModel.posts fmt breaches deficit,
            other.toSystem.id = notification.toSystem.id →
              other.toSystem = notification.toSystem) := by
  have hruns : ∀ events, (∀ pre, pre <+: events → (run step empty pre).Kept) ↔
      AllSteps step Allowed empty events :=
    forall_prefix_iff_of_step (I := Kept) (fun _ event h => kept_step_iff h event)
      (by simp [Kept, empty])
  refine ⟨hruns events, ?_⟩
  rw [hruns, allSteps_posts_iff]
  exact and_iff_right (by simp [Vacant, empty])

/-- Two sentences of one check. -/
def twoExceeded : List Text :=
  [(BreachMessage.exceeded "Market".toList 12000 10000).text,
    (BreachMessage.exceeded "Kira".toList 90000 80000).text]

/-- The alert about the second budget takes the place of the first; and the reminder of the
worker takes the place of an alert. -/
theorem not_kept_two_budgets :
    ¬ (run step empty ((TransactionsViewModel.posts (.exact .point) twoExceeded none).map
        TrayEvent.budget)).Kept ∧
      ¬ (run step empty [.budget (.budgetAlert "100%".toList "Market".toList),
        .reminderWorker "Bugünün harcamalarını ekle".toList
          "Bugün harcamalarınızı takip etmeyi unutmayın!".toList]).Kept := by
  constructor
  · intro h
    have hfirst := h (showBudgetAlert "100%".toList "Market".toList) (by decide +kernel)
    revert hfirst
    decide +kernel
  · intro h
    have hfirst := h (showBudgetAlert "100%".toList "Market".toList) (by decide +kernel)
    revert hfirst
    decide +kernel

end NotificationTray

end SpendCraft
