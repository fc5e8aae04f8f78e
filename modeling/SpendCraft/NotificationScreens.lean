import SpendCraft.Lib.KotlinNumber
import SpendCraft.Lib.Machine
import Mathlib.Data.List.Perm.Basic
import Mathlib.Logic.Function.Basic

/-!
# Notifications on the Screens

Every tab and the notifications screen have a `NotificationsViewModel` of their own, with
its own list and its own count of unread items. A view model starts with an empty list. The
event bus passes an event on to the view models that are there, and keeps nothing. Items are
read and deleted on the notifications screen.

## Conventions

A view model is its list together with the count that is computed from it, so a count that differs
from its own list cannot be built. A screen may be created and cleared any number of times, and
its view model is created with an empty list each time. Every view model that is there receives an
event at a time of its own, which is the id of the item. The kept events are the inputs of the run
without those that were deleted on the notifications screen.

## Proof

A step is judged by what it does to the list of the notifications screen, up to the order, and to
the count of each badge. `noneLost_step_iff` goes through the actions: a screen that is created
late misses what was kept, a badge that is created late starts at zero, and reading or deleting an
item changes one list only. The runs are the rule for an exact condition, starting from no screen.

## Main results

* `noneLost_step_iff`: what an action must not do for the screens to be complete and in
  agreement.
* `noneLost_iff`: in which runs no notification is lost.
-/

namespace SpendCraft.Notifications

open Kotlin Machine

/-! ### Events and items -/

/-- The types of a notification. -/
inductive NotificationType
  | budgetAlert
  | spendingReminder
  | achievement
  | system
  deriving DecidableEq, Repr

/-- An event on the bus of notifications. -/
structure NotificationEvent where
  title : Text
  message : Text
  type : NotificationType
  timestamp : ℤ
  deriving DecidableEq, Repr

/-- A notification in the list of a view model. -/
structure NotificationItem where
  id : Text
  title : Text
  message : Text
  type : NotificationType
  timestamp : ℤ
  isRead : Bool
  deriving DecidableEq, Repr

/-- The event that an item shows. -/
def NotificationItem.event (item : NotificationItem) : NotificationEvent :=
  { title := item.title
    message := item.message
    type := item.type
    timestamp := item.timestamp }

/-- The unread items of a list. -/
def unread (notifications : List NotificationItem) : ℕ :=
  notifications.countP fun item => !item.isRead

/-! ### View models -/

/-- The count is updated with every change of the list. -/
structure NotificationsViewModel where
  notifications : List NotificationItem
  unreadCount : ℕ
  unreadCount_eq : unreadCount = unread notifications

namespace NotificationsViewModel

/-- A state of the view model is made from its list alone: the count is computed from it. -/
def updated (notifications : List NotificationItem) : NotificationsViewModel :=
  { notifications := notifications
    unreadCount := unread notifications
    unreadCount_eq := rfl }

/-- The list of such a state. -/
@[simp] theorem notifications_updated (notifications : List NotificationItem) :
    (updated notifications).notifications = notifications := rfl

/-- The count of such a state. -/
@[simp] theorem unreadCount_updated (notifications : List NotificationItem) :
    (updated notifications).unreadCount = unread notifications := rfl

/-- `loadNotifications` finds none. -/
def init : NotificationsViewModel :=
  updated []

/-- The item that is listed for an event: its id is the time at which the view model hears of it.
-/
def newNotification (currentTimeMillis : ℤ) (event : NotificationEvent) : NotificationItem :=
  { id := intText currentTimeMillis
    title := event.title
    message := event.message
    type := event.type
    timestamp := event.timestamp
    isRead := false }

/-- The collector of the bus: the item is listed first. -/
def onEvent (currentTimeMillis : ℤ) (event : NotificationEvent) (vm : NotificationsViewModel) :
    NotificationsViewModel :=
  updated (newNotification currentTimeMillis event :: vm.notifications)

/-- The first item with the id is marked. -/
def markFirst (notificationId : Text) : List NotificationItem → List NotificationItem
  | [] => []
  | item :: notifications =>
      if item.id = notificationId then { item with isRead := true } :: notifications
      else item :: markFirst notificationId notifications

/-- `markAsRead`: the first item of the id is marked. -/
def markAsRead (notificationId : Text) (vm : NotificationsViewModel) : NotificationsViewModel :=
  updated (markFirst notificationId vm.notifications)

/-- `deleteNotification`: every item of the id goes. -/
def deleteNotification (notificationId : Text) (vm : NotificationsViewModel) :
    NotificationsViewModel :=
  updated (vm.notifications.filter fun item => !(item.id == notificationId))

end NotificationsViewModel

open NotificationsViewModel

/-! ### Screens -/

/-- The screens with a badge, the tabs of the bottom bar. -/
inductive TabScreen
  | dashboard
  | transactions
  | reports
  | categories
  | settings
  deriving DecidableEq, Repr

/-- The screens that have a view model of their own for the notifications. -/
inductive NotifiedScreen
  | tab (tab : TabScreen)
  | notifications
  deriving DecidableEq, Repr

/-- The view models that are there, and the events that were sent and not deleted. -/
structure NotificationScreens where
  viewModels : NotifiedScreen → Option NotificationsViewModel
  kept : List NotificationEvent

/-- Items are named by their place on the notifications screen. The times are the ones at
which each view model receives the event. -/
inductive NotificationAction
  | create (screen : NotifiedScreen)
  | clear (screen : NotifiedScreen)
  | send (event : NotificationEvent) (currentTimeMillis : NotifiedScreen → ℤ)
  | markAsRead (place : ℕ)
  | delete (place : ℕ)

namespace NotificationScreens

/-- No screen was opened and nothing was sent. -/
def start : NotificationScreens :=
  { viewModels := fun _ => none
    kept := [] }

/-- What the notifications screen lists, if it is there. -/
def listed (screens : NotificationScreens) : List NotificationItem :=
  ((screens.viewModels .notifications).map NotificationsViewModel.notifications).getD []

/-- A call on the view model of the notifications screen. -/
def onList (f : NotificationsViewModel → NotificationsViewModel) (screens : NotificationScreens) :
    NotificationScreens :=
  { screens with
    viewModels := Function.update screens.viewModels .notifications
      ((screens.viewModels .notifications).map f) }

/-- One action. An event that is sent is heard by the view models that exist, and by no later one.
-/
def step (screens : NotificationScreens) : NotificationAction → NotificationScreens
  | .create screen =>
      { screens with
        viewModels := Function.update screens.viewModels screen
          (some ((screens.viewModels screen).getD init)) }
  | .clear screen =>
      { screens with viewModels := Function.update screens.viewModels screen none }
  | .send event currentTimeMillis =>
      { viewModels := fun screen =>
          (screens.viewModels screen).map (onEvent (currentTimeMillis screen) event)
        kept := event :: screens.kept }
  | .markAsRead place =>
      match screens.listed[place]? with
      | some item => screens.onList (NotificationsViewModel.markAsRead item.id)
      | none => screens
  | .delete place =>
      match screens.listed[place]? with
      | some item =>
          { screens.onList (deleteNotification item.id) with
            kept := screens.kept.erase item.event }
      | none => screens

/-- A screen that is opened gets its view model unless it has one. -/
theorem viewModels_create (screens : NotificationScreens) (screen : NotifiedScreen) :
    (screens.step (.create screen)).viewModels = Function.update screens.viewModels screen
      (some ((screens.viewModels screen).getD init)) := rfl

/-- A screen that is closed loses its view model. -/
theorem viewModels_clear (screens : NotificationScreens) (screen : NotifiedScreen) :
    (screens.step (.clear screen)).viewModels =
      Function.update screens.viewModels screen none := rfl

/-- What happens to the list happens to the view model of the notifications screen only. -/
theorem viewModels_onList (f : NotificationsViewModel → NotificationsViewModel)
    (screens : NotificationScreens) : (screens.onList f).viewModels =
      Function.update screens.viewModels .notifications
        ((screens.viewModels .notifications).map f) := rfl

/-- **Nothing is lost.** The notifications screen, if it is there, lists every event that is
kept once, and the badge of every tab is the number of its unread items. -/
def NoneLost (screens : NotificationScreens) : Prop :=
  ∀ vm, screens.viewModels .notifications = some vm →
    (vm.notifications.map NotificationItem.event).Perm screens.kept ∧
      ∀ tab badge, screens.viewModels (.tab tab) = some badge →
        badge.unreadCount = unread vm.notifications

/-- A tab has a view model, so its badge is shown. -/
def HasTab (screens : NotificationScreens) : Prop :=
  ∃ tab vm, screens.viewModels (.tab tab) = some vm

/-- The notifications screen is created when nothing is kept and no badge counts anything; a
tab when nothing is listed as unread; with a tab, no unread item is read or deleted; and no
item is deleted that has its id with another one. -/
def Keeps (screens : NotificationScreens) : NotificationAction → Prop
  | .create .notifications => screens.viewModels .notifications = none →
      screens.kept = [] ∧ ∀ tab badge, screens.viewModels (.tab tab) = some badge →
        badge.unreadCount = 0
  | .create (.tab tab) => screens.viewModels (.tab tab) = none → unread screens.listed = 0
  | .clear _ => True
  | .send _ _ => True
  | .markAsRead place => ∀ item, screens.listed[place]? = some item → screens.HasTab →
      ∀ first, (screens.listed.find? fun other => other.id == item.id) = some first →
        first.isRead = true
  | .delete place => ∀ item, screens.listed[place]? = some item →
      (screens.listed.countP fun other => other.id == item.id) = 1 ∧
        (screens.HasTab → item.isRead = true)

end NotificationScreens

/-! ### Lists -/

variable {id : Text} {notifications : List NotificationItem} {item : NotificationItem}

/-- Marking an item as read keeps the events that are listed. -/
theorem map_event_markFirst :
    (markFirst id notifications).map NotificationItem.event =
      notifications.map NotificationItem.event := by
  induction notifications with
  | nil => rfl
  | cons item notifications ih =>
      rw [markFirst]
      split_ifs
      · rfl
      · rw [List.map_cons, ih, List.map_cons]

/-- Marking changes the count by the first item with the id. -/
theorem unread_markFirst {first : NotificationItem}
    (h : (notifications.find? fun other => other.id == id) = some first) :
    unread (markFirst id notifications) + (!first.isRead).toNat = unread notifications := by
  induction notifications with
  | nil => cases h
  | cons item notifications ih =>
      rw [markFirst]
      split_ifs with hid
      · rw [List.find?_cons_of_pos (by simp [hid]), Option.some_inj] at h
        subst h
        rw [unread, unread, List.countP_cons_of_neg (by simp), List.countP_cons]
        cases item.isRead
        · rfl
        · rfl
      · rw [List.find?_cons_of_neg (by simp [hid])] at h
        have hrest := ih h
        rw [unread, unread] at hrest ⊢
        rw [List.countP_cons, List.countP_cons]
        omega

/-- Deleting the item with an id that no other item has. -/
theorem perm_cons_filter (hmem : item ∈ notifications)
    (hcount : (notifications.countP fun other => other.id == item.id) = 1) :
    notifications.Perm (item :: notifications.filter fun other => !(other.id == item.id)) := by
  have hperm := List.filter_append_perm (fun other : NotificationItem => other.id == item.id)
    notifications
  rw [List.countP_eq_length_filter, List.length_eq_one_iff] at hcount
  obtain ⟨only, honly⟩ := hcount
  have hitem : item ∈ notifications.filter fun other => other.id == item.id :=
    List.mem_filter.mpr ⟨hmem, beq_self_eq_true _⟩
  rw [honly, List.mem_singleton] at hitem
  subst hitem
  rw [honly] at hperm
  exact hperm.symm

/-- The items of an id and the others are all items. -/
theorem length_filter_id :
    (notifications.filter fun other => !(other.id == id)).length +
      (notifications.countP fun other => other.id == id) = notifications.length := by
  have hlength := List.length_eq_countP_add_countP
    (fun other : NotificationItem => other.id == id) (l := notifications)
  rw [← List.countP_eq_length_filter]
  simp only [Bool.not_eq_true, Bool.decide_eq_false] at hlength
  omega

namespace NotificationScreens

variable {screens : NotificationScreens} {vm : NotificationsViewModel}

/-- The list is that of the view model of the notifications screen. -/
theorem listed_of_some (h : screens.viewModels .notifications = some vm) :
    screens.listed = vm.notifications := by
  rw [listed, h]
  rfl

/-- Without a view model there is no list. -/
theorem listed_of_none (h : screens.viewModels .notifications = none) : screens.listed = [] := by
  rw [listed, h]
  rfl

/-- Without the notifications screen, nothing is asked for. -/
theorem noneLost_of_none (h : screens.viewModels .notifications = none) : screens.NoneLost := by
  intro vm hvm
  rw [h] at hvm
  cases hvm

/-- With it, the list and the badges have to be right. -/
theorem noneLost_iff_of_some (h : screens.viewModels .notifications = some vm) :
    screens.NoneLost ↔ (vm.notifications.map NotificationItem.event).Perm screens.kept ∧
      ∀ tab badge, screens.viewModels (.tab tab) = some badge →
        badge.unreadCount = unread vm.notifications := by
  rw [NoneLost, h]
  simp only [Option.some_inj, forall_eq']

/-- Badges that have counted `n` items count `m` just when there are none or `n` is `m`. -/
theorem forall_badge_iff {n m : ℕ} (h : ∀ tab badge, screens.viewModels (.tab tab) = some badge →
    badge.unreadCount = n) :
    (∀ tab badge, screens.viewModels (.tab tab) = some badge → badge.unreadCount = m) ↔
      (screens.HasTab → n = m) := by
  constructor
  · rintro hall ⟨tab, badge, htab⟩
    rw [← h tab badge htab, hall tab badge htab]
  · intro heq tab badge htab
    rw [h tab badge htab, heq ⟨tab, badge, htab⟩]

/-! ### One action -/

/-- A screen that is there is not created again. -/
theorem step_create_of_some {screen : NotifiedScreen} (h : screens.viewModels screen = some vm) :
    screens.step (.create screen) = screens := by
  rw [step, h, Option.getD_some, ← h, Function.update_eq_self]

/-- Opening the notifications screen keeps the property exactly if nothing came before it. -/
theorem noneLost_create_notifications_iff (h : screens.NoneLost) :
    (screens.step (.create .notifications)).NoneLost ↔
      screens.Keeps (.create .notifications) := by
  cases hvm : screens.viewModels .notifications with
  | some vm =>
      rw [step_create_of_some hvm, Keeps, hvm]
      exact iff_of_true h (by simp)
  | none =>
      have hcreated : (screens.step (.create .notifications)).viewModels .notifications =
          some init := by
        rw [viewModels_create, Function.update_self, hvm, Option.getD_none]
      have htabs : ∀ tab, (screens.step (.create .notifications)).viewModels (.tab tab) =
          screens.viewModels (.tab tab) := by
        intro tab
        rw [viewModels_create, Function.update_of_ne (by simp)]
      rw [noneLost_iff_of_some hcreated, Keeps, forall_prop_of_true hvm]
      simp only [htabs]
      exact and_congr_left' List.nil_perm

/-- Opening a tab keeps the property exactly if nothing is unread. -/
theorem noneLost_create_tab_iff (h : screens.NoneLost) (tab : TabScreen) :
    (screens.step (.create (.tab tab))).NoneLost ↔ screens.Keeps (.create (.tab tab)) := by
  cases htab : screens.viewModels (.tab tab) with
  | some badge =>
      rw [step_create_of_some htab, Keeps, htab]
      exact iff_of_true h (by simp)
  | none =>
      rw [Keeps, forall_prop_of_true htab]
      have hlist : (screens.step (.create (.tab tab))).viewModels .notifications =
          screens.viewModels .notifications := by
        rw [viewModels_create, Function.update_of_ne (by simp)]
      cases hvm : screens.viewModels .notifications with
      | none =>
          rw [hvm] at hlist
          rw [listed_of_none hvm]
          exact iff_of_true (noneLost_of_none hlist) rfl
      | some vm =>
          rw [hvm] at hlist
          obtain ⟨hperm, hbadges⟩ := (noneLost_iff_of_some hvm).mp h
          have hcreated : (screens.step (.create (.tab tab))).viewModels (.tab tab) =
              some init := by
            rw [viewModels_create, Function.update_self, htab, Option.getD_none]
          rw [noneLost_iff_of_some hlist, listed_of_some hvm]
          constructor
          · rintro ⟨-, hall⟩
            exact (hall tab init hcreated).symm
          · intro hread
            refine ⟨hperm, ?_⟩
            intro tab' badge hbadge
            by_cases heq : tab' = tab
            · subst heq
              rw [hcreated, Option.some_inj] at hbadge
              rw [← hbadge, hread]
              rfl
            · have hother : (screens.step (.create (.tab tab))).viewModels (.tab tab') =
                  screens.viewModels (.tab tab') := by
                rw [viewModels_create, Function.update_of_ne (by simp [heq])]
              rw [hother] at hbadge
              exact hbadges tab' badge hbadge

/-- Closing a screen loses nothing. -/
theorem NoneLost.clear (h : screens.NoneLost) (screen : NotifiedScreen) :
    (screens.step (.clear screen)).NoneLost := by
  have hcleared : ∀ screen' vm, (screens.step (.clear screen)).viewModels screen' = some vm →
      screens.viewModels screen' = some vm := by
    intro screen' vm hvm
    by_cases heq : screen' = screen
    · subst heq
      rw [viewModels_clear, Function.update_self] at hvm
      cases hvm
    · rwa [viewModels_clear, Function.update_of_ne heq] at hvm
  intro vm hvm
  obtain ⟨hperm, hbadges⟩ := h vm (hcleared _ vm hvm)
  exact ⟨hperm, fun tab badge hbadge => hbadges tab badge (hcleared _ badge hbadge)⟩

/-- An event reaches the list and every badge. -/
theorem NoneLost.send (h : screens.NoneLost) (event : NotificationEvent)
    (currentTimeMillis : NotifiedScreen → ℤ) :
    (screens.step (.send event currentTimeMillis)).NoneLost := by
  have hunread : ∀ now (notifications : List NotificationItem),
      unread (newNotification now event :: notifications) = unread notifications + 1 := by
    intro now notifications
    rw [unread, unread, List.countP_cons_of_pos (by rfl)]
  intro vm hvm
  obtain ⟨old, hold, rfl⟩ := Option.map_eq_some_iff.mp hvm
  obtain ⟨hperm, hbadges⟩ := h old hold
  refine ⟨hperm.cons event, ?_⟩
  intro tab badge hbadge
  obtain ⟨oldBadge, holdBadge, rfl⟩ := Option.map_eq_some_iff.mp hbadge
  have hcount := hbadges tab oldBadge holdBadge
  rw [oldBadge.unreadCount_eq] at hcount
  rw [onEvent, onEvent, unreadCount_updated, notifications_updated, hunread, hunread, hcount]

/-- A call on the list, when something is listed. -/
theorem noneLost_onList_iff (h : screens.NoneLost)
    (hvm : screens.viewModels .notifications = some vm)
    (f : NotificationsViewModel → NotificationsViewModel) (kept : List NotificationEvent) :
    NoneLost { screens.onList f with kept := kept } ↔
      ((f vm).notifications.map NotificationItem.event).Perm kept ∧
        (screens.HasTab → unread vm.notifications = unread (f vm).notifications) := by
  have hlist : (screens.onList f).viewModels .notifications = some (f vm) := by
    rw [viewModels_onList, Function.update_self, hvm, Option.map_some]
  have htabs : ∀ tab, (screens.onList f).viewModels (.tab tab) =
      screens.viewModels (.tab tab) := by
    intro tab
    rw [viewModels_onList, Function.update_of_ne (by simp)]
  have hbadges := ((noneLost_iff_of_some hvm).mp h).2
  have hiff := @noneLost_iff_of_some { screens.onList f with kept := kept } (f vm) hlist
  dsimp only at hiff
  rw [hiff, ← forall_badge_iff hbadges]
  simp only [htabs]

/-- What is found at a place, is listed. -/
theorem exists_of_listed {place : ℕ} (h : screens.listed[place]? = some item) :
    ∃ vm, screens.viewModels .notifications = some vm ∧ item ∈ vm.notifications := by
  have hmem := List.mem_of_getElem? h
  cases hvm : screens.viewModels .notifications with
  | none =>
      rw [listed_of_none hvm] at hmem
      cases hmem
  | some vm =>
      rw [listed_of_some hvm] at hmem
      exact ⟨vm, rfl, hmem⟩

/-- Reading an item keeps the property exactly if no badge still counts it. -/
theorem noneLost_markAsRead_iff (h : screens.NoneLost) (place : ℕ) :
    (screens.step (.markAsRead place)).NoneLost ↔ screens.Keeps (.markAsRead place) := by
  rw [step, Keeps]
  cases hitem : screens.listed[place]? with
  | none => exact iff_of_true h (by simp)
  | some item =>
      obtain ⟨vm, hvm, hmem⟩ := exists_of_listed hitem
      obtain ⟨hperm, -⟩ := (noneLost_iff_of_some hvm).mp h
      obtain ⟨first, hfirst⟩ : ∃ first,
          (vm.notifications.find? fun other => other.id == item.id) = some first := by
        rw [← Option.isSome_iff_exists, List.find?_isSome]
        exact ⟨item, hmem, beq_self_eq_true _⟩
      have hunread := unread_markFirst hfirst
      have honList := noneLost_onList_iff h hvm (NotificationsViewModel.markAsRead item.id)
        screens.kept
      rw [NotificationsViewModel.markAsRead, notifications_updated, map_event_markFirst,
        and_iff_right hperm] at honList
      rw [listed_of_some hvm]
      simp only [Option.some_inj, forall_eq', hfirst]
      refine honList.trans (forall_congr' fun _ => ?_)
      cases hread : first.isRead with
      | true => simp [hread] at hunread ⊢; omega
      | false => simp [hread] at hunread ⊢; omega

/-- Deleting an item keeps the property exactly if it takes one item only and no badge still
counts it. -/
theorem noneLost_delete_iff (h : screens.NoneLost) (place : ℕ) :
    (screens.step (.delete place)).NoneLost ↔ screens.Keeps (.delete place) := by
  rw [step, Keeps]
  cases hitem : screens.listed[place]? with
  | none => exact iff_of_true h (by simp)
  | some item =>
      obtain ⟨vm, hvm, hmem⟩ := exists_of_listed hitem
      obtain ⟨hperm, -⟩ := (noneLost_iff_of_some hvm).mp h
      have honList := noneLost_onList_iff h hvm (deleteNotification item.id)
        (screens.kept.erase item.event)
      rw [deleteNotification, notifications_updated] at honList
      rw [listed_of_some hvm]
      simp only [Option.some_inj, forall_eq']
      refine honList.trans ?_
      have hevent : item.event ∈ screens.kept :=
        hperm.subset (List.mem_map_of_mem hmem)
      have hcount : ((vm.notifications.filter fun other => !(other.id == item.id)).map
          NotificationItem.event).Perm (screens.kept.erase item.event) ↔
            (vm.notifications.countP fun other => other.id == item.id) = 1 := by
        constructor
        · intro hrest
          have hlength := hrest.length_eq
          have hfilter := @length_filter_id item.id vm.notifications
          have hkept := hperm.length_eq
          have hpos := List.length_pos_of_mem hevent
          rw [List.length_map, List.length_erase_of_mem hevent] at hlength
          rw [List.length_map] at hkept
          omega
        · intro hone
          have hcons := ((perm_cons_filter hmem hone).map NotificationItem.event).symm.trans hperm
          rw [List.map_cons, List.cons_perm_iff_perm_erase] at hcons
          exact hcons.2
      rw [hcount]
      refine and_congr_right fun hone => forall_congr' fun _ => ?_
      have hunread : unread vm.notifications =
          unread (vm.notifications.filter fun other => !(other.id == item.id)) +
            (!item.isRead).toNat := by
        rw [unread, (perm_cons_filter hmem hone).countP_eq, List.countP_cons, unread]
        cases item.isRead
        · rfl
        · rfl
      rw [hunread]
      cases item.isRead
      · simp
      · simp

/-- **One action** keeps the screens complete and in agreement just when it is one of those
that do. -/
theorem noneLost_step_iff (h : screens.NoneLost) (action : NotificationAction) :
    (screens.step action).NoneLost ↔ screens.Keeps action := by
  cases action with
  | create screen =>
      cases screen with
      | tab tab => exact noneLost_create_tab_iff h tab
      | notifications => exact noneLost_create_notifications_iff h
  | clear screen => exact iff_of_true (h.clear screen) trivial
  | send event currentTimeMillis => exact iff_of_true (h.send event currentTimeMillis) trivial
  | markAsRead place => exact noneLost_markAsRead_iff h place
  | delete place => exact noneLost_delete_iff h place

/-! ### Runs -/

/-- **No notification is lost** in any state of a run, just when every action of it keeps
the screens complete and in agreement. -/
theorem noneLost_iff (actions : List NotificationAction) :
    (∀ pre, pre <+: actions → (run step start pre).NoneLost) ↔
      AllSteps step Keeps start actions :=
  forall_prefix_iff_of_step (I := NoneLost) (fun _ action h => noneLost_step_iff h action)
    (noneLost_of_none rfl) actions

/-- An event about a deficit, sent at time 0. -/
def deficitEvent : NotificationEvent :=
  { title := "⚠️ Genel Bütçe Uyarısı".toList
    message := "Toplam açığınız: 5.00 TL".toList
    type := .budgetAlert
    timestamp := 0 }

/-- An event that is sent while only the dashboard is there is not listed when the
notifications screen is opened. -/
theorem not_noneLost_opened_later :
    ¬∀ pre, pre <+: [NotificationAction.create (.tab .dashboard), .send deficitEvent fun _ => 0,
        .create .notifications] → (run step start pre).NoneLost := by
  intro hall
  obtain ⟨hperm, -⟩ := hall _ (List.prefix_refl _) init rfl
  have hkept : deficitEvent ∈ ([] : List NotificationEvent) :=
    hperm.symm.subset List.mem_cons_self
  cases hkept

end NotificationScreens

end SpendCraft.Notifications
