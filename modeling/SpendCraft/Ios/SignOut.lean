import SpendCraft.Ios.Links
import SpendCraft.Ios.Notifications
import SpendCraft.Ios.Streaks
import Mathlib.Data.Finset.Dedup
import Mathlib.Tactic.Linarith

/-!
# Signing Out of the iOS App

`AuthViewModel.signOut` deletes the objects of the Core Data store and seeds it again for the
next user. What the user leaves elsewhere stays: the keys of `UserDefaults`, and the requests
of pending notifications. The context has no pending changes, and no call fails.

Two states are compared by what the next user is shown. The identities of objects are not
shown.

## Conventions

The state of the app is what a signed-in user writes to: the objects, the keys of `UserDefaults`
that the screens read, and the pending requests. A sign-out is `clearAllUserData` and the seeding
behind it, with the numbers that are drawn. What the next user is shown is a record of lists and
numbers (`Observed`), and two states are the same to him if the records agree for all draws and at
all times.

## Proof

The objects after a sign-out are those of the seeding alone, since every table was emptied. So the
objects show nothing, and what is left is compared field by field: the notifications, the streak,
the time of the last suggestion, and the reminders that come (`SameLeftovers`). Each of these is
shown by itself, so the equivalence needs no run.

## Main results

* `observe_signOut`: the store after a sign-out does not depend on what was in it.
* `indistinguishable_iff`: from which states the next user is shown the same.
-/

namespace SpendCraft.Ios

open Kotlin Relational

/-! ### Achievements -/

/-- An achievement of the store. -/
structure AchievementObject where
  objectID : ℤ
  id : ℤ
  name : Text
  achievementDescription : Text
  icon : Text
  points : ℤ
  category : Text
  isUnlocked : Bool
  unlockedAt : ℤ
  progress : ℤ
  maxProgress : ℤ
  deriving DecidableEq, Repr

/-- An achievement is stored under its object id. -/
instance : RowId AchievementObject where
  id := AchievementObject.objectID
  withId n r := { r with objectID := n }
  id_withId _ _ := rfl

namespace AchievementsViewModel

/-- Name, description, icon, points, category and maximal progress of the achievements. -/
def achievementsData : List (Text × Text × Text × ℤ × Text × ℤ) :=
  [("İlk Adım".toList, "İlk işleminizi kaydedin".toList, "checkmark.circle.fill".toList, 10,
      "TRANSACTIONS".toList, 1),
    ("Başlangıç".toList, "5 işlem kaydedin".toList, "flame.fill".toList, 25,
      "TRANSACTIONS".toList, 5),
    ("Düzenli".toList, "10 işlem kaydedin".toList, "star.fill".toList, 50,
      "TRANSACTIONS".toList, 10),
    ("Uzman".toList, "50 işlem kaydedin".toList, "crown.fill".toList, 100,
      "TRANSACTIONS".toList, 50),
    ("Kategori Ustası".toList, "5 farklı kategori kullanın".toList, "folder.badge.plus".toList, 30,
      "CATEGORIES".toList, 5),
    ("Bütçe Bilinci".toList, "İlk bütçenizi oluşturun".toList, "chart.bar.fill".toList, 20,
      "BUDGET".toList, 1),
    ("Tutumlu".toList, "Aylık bütçenize uyun".toList, "shield.fill".toList, 75,
      "BUDGET".toList, 1),
    ("Yatırımcı".toList, "İlk gelirinizi kaydedin".toList, "banknote.fill".toList, 15,
      "INCOME".toList, 1)]

/-- An achievement as the app creates it, with the id that is drawn for it. -/
def seedAchievement : (Text × Text × Text × ℤ × Text × ℤ) × ℤ → AchievementObject
  | ((name, description, icon, points, category, maxProgress), randomId) =>
      { objectID := 0
        id := randomId
        name := name
        achievementDescription := description
        icon := icon
        points := points
        category := category
        isUnlocked := false
        unlockedAt := 0
        progress := 0
        maxProgress := maxProgress }

/-- `randomIds` are the numbers drawn from `1...1000000`. -/
def seedAchievements (randomIds : ℕ → ℤ) (achievements : AutoTable AchievementObject) :
    AutoTable AchievementObject :=
  (achievementsData.zipIdx.map fun (achievement, k) => (achievement, randomIds k)).foldl
    (fun achievements achievement => achievements.insertOrReplace (seedAchievement achievement))
    achievements

/-- The achievements as they are fetched, those with the most points first. -/
def fetchAchievements (achievements : AutoTable AchievementObject) : List AchievementObject :=
  achievements.rows.insertionSort fun a b => b.points ≤ a.points

/-- The list that is loaded. -/
def loadAchievements (randomIds : ℕ → ℤ) (achievements : AutoTable AchievementObject) :
    List AchievementObject :=
  if (fetchAchievements achievements).isEmpty then
    fetchAchievements (seedAchievements randomIds achievements)
  else fetchAchievements achievements

end AchievementsViewModel

/-! ### Reminders -/

/-- A calendar trigger repeats on the days that its components match. -/
inductive NotificationTrigger
  | calendar (day weekday : Option ℤ) (hour minute : ℤ)
  | timeInterval (seconds : ℤ)
  deriving DecidableEq, Repr

/-- A request that is pending at the notification center. -/
structure NotificationRequest where
  identifier : Text
  title : Text
  body : Text
  trigger : NotificationTrigger
  deriving DecidableEq, Repr

/-- The requests that wait in the notification center. One that is added takes the place of
the one with its identifier. -/
abbrev PendingRequests := Table NotificationRequest.identifier

/-- A template of a reminder, with its days of the week or of the month, if any. -/
structure NotificationTemplate where
  id : Text
  title : Text
  body : Text
  hour : ℤ
  minute : ℤ
  isEnabled : Bool
  daysOfWeek : Option (List ℤ)
  daysOfMonth : Option (List ℤ)
  deriving DecidableEq, Repr

/-- A reminder that the user has written. -/
structure CustomNotification where
  id : Text
  title : Text
  body : Text
  hour : ℤ
  minute : ℤ
  isEnabled : Bool
  daysOfWeek : Option (List ℤ)
  deriving DecidableEq, Repr

/-- What the manager has in memory is what it saved under its two keys. -/
structure NotificationManager where
  templates : List NotificationTemplate
  customNotifications : List CustomNotification
  deriving DecidableEq, Repr

namespace NotificationManager

/-- `scheduleNotification`: a request for each day of the month, else for each day of the week,
else one for every day. -/
def scheduleNotification (id title body : Text) (hour minute : ℤ)
    (daysOfWeek daysOfMonth : Option (List ℤ)) : List NotificationRequest :=
  match daysOfMonth, daysOfWeek with
  | some monthDays, _ => monthDays.map fun day =>
      { identifier := id ++ "_monthDay_".toList ++ intText day
        title := title
        body := body
        trigger := .calendar (some day) none hour minute }
  | none, some weekDays => weekDays.map fun day =>
      { identifier := id ++ "_weekDay_".toList ++ intText day
        title := title
        body := body
        trigger := .calendar none (some day) hour minute }
  | none, none =>
      [{ identifier := id
         title := title
         body := body
         trigger := .calendar none none hour minute }]

/-- The requests that are added, in their order. -/
def requests (manager : NotificationManager) : List NotificationRequest :=
  ((manager.templates.filter NotificationTemplate.isEnabled).flatMap fun template =>
      scheduleNotification template.id template.title template.body template.hour template.minute
        template.daysOfWeek template.daysOfMonth) ++
    (manager.customNotifications.filter CustomNotification.isEnabled).flatMap fun notification =>
      scheduleNotification notification.id notification.title notification.body notification.hour
        notification.minute notification.daysOfWeek none

/-- All pending requests are removed first. -/
def scheduleAllNotifications (manager : NotificationManager) : PendingRequests :=
  manager.requests.foldl (fun pending request => pending.insertOrReplace request) (Table.empty _)

end NotificationManager

/-! ### The state of the app -/

/-- What the signed-in user writes to. `savedNotifications`, `streak`, `lastAISuggestionTime`
and `salaryNotificationDismissed` are keys of `UserDefaults`. -/
structure AppState where
  objects : ObjectStore
  recurringTransactions : AutoTable RecurringTransactionEntity
  achievements : AutoTable AchievementObject
  savedNotifications : Option (List NotificationItem)
  streak : StreakDefaults
  lastAISuggestionTime : Option ℚ
  salaryNotificationDismissed : List (ℤ × ℤ)
  notificationManager : NotificationManager
  pendingRequests : PendingRequests

namespace AppState

/-- The batch deletes and the save of the `CoreDataStack`. -/
def clearAllUserData (app : AppState) : AppState :=
  let cleared := app.objects.deleteTransactions.deleteCategories.deleteAccounts
  { app with
    objects := { cleared with budgets := cleared.budgets.deleteWhere fun _ => true }
    achievements := app.achievements.deleteWhere fun _ => true
    recurringTransactions := app.recurringTransactions.deleteWhere fun _ => true }

/-- `seedInitialData` on the objects of the app. -/
def seedInitialData (typeOf : Text → Text) (randomIds : ℕ → ℤ) (randomAccountId : ℤ)
    (app : AppState) : AppState :=
  { app with
    objects := CoreDataStack.seedObjects typeOf randomIds randomAccountId app.objects }

end AppState

/-- `signOut`: everything is cleared and the initial data is seeded again. -/
def AuthViewModel.signOut (typeOf : Text → Text) (randomIds : ℕ → ℤ) (randomAccountId : ℤ)
    (app : AppState) : AppState :=
  app.clearAllUserData.seedInitialData typeOf randomIds randomAccountId

/-! ### What the next user is shown -/

/-- Data that cannot be decoded counts as missing. -/
def NotificationsViewModel.loadNotifications (saved : Option (List NotificationItem)) :
    List NotificationItem :=
  (saved.getD []).insertionSort fun a b => b.timestamp ≤ a.timestamp

/-- `Date().timeIntervalSince1970 - lastSuggestionTime >= 86400` -/
def AISuggestionsView.canUseAI (lastSuggestionTime : ℚ) (now : ℚ) : Bool :=
  decide (86400 ≤ now - lastSuggestionTime)

/-- The objects, without their identities. -/
def shown {ρ : Type*} [RowId ρ] (objects : List ρ) : List ρ :=
  objects.map (RowId.withId 0)

/-- What a user can see of the app: the lists and numbers of the screens, and the reminders that
come. -/
structure Observed where
  transactions : List TransactionObject
  categories : List CategoryObject
  accounts : List AccountEntity
  achievements : List AchievementObject
  streak : Streak
  notifications : List NotificationItem
  canUseAI : ℚ → Bool
  pendingRequests : Finset NotificationRequest
  scheduledRequests : Finset NotificationRequest

namespace AppState

open NotificationsViewModel AISuggestionsView

/-- The state as a user sees it. Object ids are not shown. -/
def observe (randomIds : ℕ → ℤ) (app : AppState) : Observed :=
  { transactions := shown (app.objects.transactions.rows.insertionSort fun a b =>
      b.timestampUtcMillis ≤ a.timestampUtcMillis)
    categories := shown (app.objects.categories.rows.insertionSort fun a b => a.name ≤ b.name)
    accounts := shown (AccountsViewModel.loadAccounts app.objects.accounts)
    achievements := shown (AchievementsViewModel.loadAchievements randomIds app.achievements)
    streak := (AchievementsViewModel.init app.streak).loadStreak.streak
    notifications := loadNotifications app.savedNotifications
    canUseAI := canUseAI (app.lastAISuggestionTime.getD 0)
    pendingRequests := app.pendingRequests.rows.toFinset
    scheduledRequests := app.notificationManager.scheduleAllNotifications.rows.toFinset }

/-- What a sign-out leaves is the same, as far as it is shown. -/
structure SameLeftovers (app app' : AppState) : Prop where
  savedNotifications :
    loadNotifications app.savedNotifications = loadNotifications app'.savedNotifications
  currentStreak : app.streak.currentStreak = app'.streak.currentStreak
  longestStreak : app.streak.longestStreak = app'.streak.longestStreak
  lastAISuggestionTime : app.lastAISuggestionTime.getD 0 = app'.lastAISuggestionTime.getD 0
  pendingRequests : ∀ request,
    request ∈ app.pendingRequests.rows ↔ request ∈ app'.pendingRequests.rows
  scheduledRequests : ∀ request,
    request ∈ app.notificationManager.scheduleAllNotifications.rows ↔
      request ∈ app'.notificationManager.scheduleAllNotifications.rows

end AppState

/-! ### The store after a sign-out -/

section Shown

variable {ρ : Type*} [RowId ρ]

/-- Sorting by what is shown commutes with showing. -/
theorem shown_insertionSort {r : ρ → ρ → Prop} [DecidableRel r]
    (hr : ∀ a b, r a b ↔ r (RowId.withId 0 a) (RowId.withId 0 b)) (objects : List ρ) :
    shown (objects.insertionSort r) = (shown objects).insertionSort r :=
  List.map_insertionSort r r (RowId.withId 0) objects fun a _ b _ => hr a b

/-- What is added to an empty table, whatever identities it gave out before. -/
theorem shown_foldl_insertOrReplace {α : Type*} {f : α → ρ} (hf : ∀ a, RowId.id (f a) = 0)
    (hwithId : ∀ n (r : ρ), RowId.withId 0 (RowId.withId n r) = RowId.withId 0 r) (l : List α)
    {table : AutoTable ρ} (hempty : table.rows = []) :
    shown (l.foldl (fun table a => table.insertOrReplace (f a)) table).rows =
      shown (l.map f) := by
  rw [shown, AutoTable.map_rows_foldl_insertOrReplace hwithId hf, hempty, shown, List.map_map]
  rfl

end Shown

/-- No transaction is left after clearing. -/
theorem AppState.transactions_clearAllUserData (app : AppState) :
    app.clearAllUserData.objects.transactions.rows = [] := by
  have hdeleted := AutoTable.rows_deleteWhere_true app.objects.transactions
  have hrows : app.clearAllUserData.objects.transactions.rows =
      ((app.objects.transactions.deleteWhere fun _ => true).rows.map _).map _ := rfl
  rw [hrows, hdeleted]
  rfl

open CoreDataStack in
/-- Seeding a store without categories and accounts. -/
theorem CoreDataStack.seedObjects_of_empty (typeOf : Text → Text) (randomIds : ℕ → ℤ)
    (randomAccountId : ℤ) {store : ObjectStore} (hcategories : store.categories.rows = [])
    (haccounts : store.accounts.rows = []) :
    (seedObjects typeOf randomIds randomAccountId store).transactions = store.transactions ∧
      shown (seedObjects typeOf randomIds randomAccountId store).categories.rows =
        shown ((seedCategories.zipIdx.map fun (category, k) => (category, randomIds k)).map
          seedCategory) ∧
      shown (seedObjects typeOf randomIds randomAccountId store).accounts.rows =
        shown [seedAccount randomAccountId] := by
  have hcategories_count : store.categories.rows.length = 0 := by
    rw [hcategories, List.length_nil]
  have haccounts_count : store.accounts.rows.length = 0 := by
    rw [haccounts, List.length_nil]
  rw [seedObjects, if_pos hcategories_count]
  refine ⟨rfl, ?_, ?_⟩
  · exact shown_foldl_insertOrReplace (fun _ => rfl) (fun _ _ => rfl) _ hcategories
  · rw [if_pos haccounts_count, store.accounts.rows_insertOrReplace_generated rfl, haccounts]
    rfl

/-- The seeded achievements, from a table that is empty. -/
theorem AchievementsViewModel.shown_loadAchievements_of_empty (randomIds : ℕ → ℤ)
    {achievements : AutoTable AchievementObject} (hempty : achievements.rows = []) :
    shown (loadAchievements randomIds achievements) =
      (shown ((achievementsData.zipIdx.map fun (achievement, k) =>
        (achievement, randomIds k)).map seedAchievement)).insertionSort
          fun a b => b.points ≤ a.points := by
  have hfetched : (fetchAchievements achievements).isEmpty = true := by
    rw [fetchAchievements, hempty]
    rfl
  rw [loadAchievements, if_pos hfetched, fetchAchievements,
    shown_insertionSort (fun _ _ => Iff.rfl), seedAchievements,
    shown_foldl_insertOrReplace (fun _ => rfl) (fun _ _ => rfl) _ hempty]

/-! ### The next user -/

namespace AppState

open NotificationsViewModel AISuggestionsView

/-- What the next user is shown of the store: the seeded categories, account and
achievements, and no transaction. -/
def freshlySeeded (randomIds achievementIds : ℕ → ℤ) (randomAccountId : ℤ) (app : AppState) :
    Observed :=
  { app.observe achievementIds with
    transactions := []
    categories := (shown ((CoreDataStack.seedCategories.zipIdx.map fun (category, k) =>
      (category, randomIds k)).map CoreDataStack.seedCategory)).insertionSort
        fun a b => a.name ≤ b.name
    accounts := (shown [CoreDataStack.seedAccount randomAccountId]).insertionSort
      fun a b => a.name ≤ b.name
    achievements := (shown ((AchievementsViewModel.achievementsData.zipIdx.map
      fun (achievement, k) => (achievement, achievementIds k)).map
        AchievementsViewModel.seedAchievement)).insertionSort fun a b => b.points ≤ a.points }

/-- **The store after a sign-out** does not depend on what was in it, and the rest is what it
was before. -/
theorem observe_signOut (typeOf : Text → Text) (randomIds achievementIds : ℕ → ℤ)
    (randomAccountId : ℤ) (app : AppState) :
    (AuthViewModel.signOut typeOf randomIds randomAccountId app).observe achievementIds =
      app.freshlySeeded randomIds achievementIds randomAccountId := by
  obtain ⟨htransactions, hcategories, haccounts⟩ :=
    @CoreDataStack.seedObjects_of_empty typeOf randomIds randomAccountId
      app.clearAllUserData.objects (AutoTable.rows_deleteWhere_true _)
      (AutoTable.rows_deleteWhere_true _)
  have hobjects : (AuthViewModel.signOut typeOf randomIds randomAccountId app).objects =
      CoreDataStack.seedObjects typeOf randomIds randomAccountId
        app.clearAllUserData.objects := rfl
  have hachievements : (AuthViewModel.signOut typeOf randomIds randomAccountId
      app).achievements.rows = [] := AutoTable.rows_deleteWhere_true _
  rw [observe, hobjects, htransactions, transactions_clearAllUserData,
    AccountsViewModel.loadAccounts, shown_insertionSort (fun _ _ => Iff.rfl),
    shown_insertionSort (fun _ _ => Iff.rfl), shown_insertionSort (fun _ _ => Iff.rfl), hcategories,
    haccounts, AchievementsViewModel.shown_loadAchievements_of_empty achievementIds hachievements]
  rfl

/-- The waiting time ends at different moments for different times of the last suggestion. -/
theorem canUseAI_inj {lastSuggestionTime lastSuggestionTime' : ℚ} :
    canUseAI lastSuggestionTime = canUseAI lastSuggestionTime' ↔
      lastSuggestionTime = lastSuggestionTime' := by
  refine ⟨fun h => ?_, congrArg canUseAI⟩
  have hends : ∀ {t t' : ℚ}, canUseAI t = canUseAI t' → t' ≤ t := by
    intro t t' heq
    have hnow := congrFun heq (t + 86400)
    simp only [canUseAI, decide_eq_decide] at hnow
    linarith [hnow.mp (by linarith)]
  exact le_antisymm (hends h.symm) (hends h)

/-- **The next user** is shown the same, just when the sign-outs leave the same of the saved
notifications, the streak, the time of the last suggestion and the reminders. -/
theorem indistinguishable_iff (typeOf : Text → Text) (randomIds : ℕ → ℤ) (randomAccountId : ℤ)
    (app app' : AppState) :
    (∀ achievementIds,
        (AuthViewModel.signOut typeOf randomIds randomAccountId app).observe achievementIds =
          (AuthViewModel.signOut typeOf randomIds randomAccountId app').observe achievementIds) ↔
      app.SameLeftovers app' := by
  simp only [observe_signOut]
  simp only [freshlySeeded, observe, Observed.mk.injEq, canUseAI_inj,
    AchievementsViewModel.streak, Finset.ext_iff, List.mem_toFinset, true_and, forall_const]
  constructor
  · rintro ⟨hstreak, hnotifications, hsuggestion, hpending, hscheduled⟩
    obtain ⟨hcurrent, hlongest⟩ := Streak.mk.inj hstreak
    exact ⟨hnotifications, hcurrent, hlongest, hsuggestion, hpending, hscheduled⟩
  · intro h
    refine ⟨?_, h.savedNotifications, h.lastAISuggestionTime, h.pendingRequests,
      h.scheduledRequests⟩
    exact congrArg₂ Streak.mk h.currentStreak h.longestStreak

/-- Before the first sign-in. -/
def untouched : AppState :=
  { objects := .empty
    recurringTransactions := AutoTable.empty _
    achievements := AutoTable.empty _
    savedNotifications := none
    streak := { currentStreak := 0, longestStreak := 0, lastStreakDate := none }
    lastAISuggestionTime := none
    salaryNotificationDismissed := []
    notificationManager := { templates := [], customNotifications := [] }
    pendingRequests := Table.empty _ }

/-- The next user reads the budget alert of the one who signed out. -/
theorem not_indistinguishable_alert :
    ¬ ∀ achievementIds,
      (AuthViewModel.signOut (fun _ => []) (fun k => k + 1) 1
          { untouched with savedNotifications := some [marketplaceAlert] }).observe achievementIds =
        (AuthViewModel.signOut (fun _ => []) (fun k => k + 1) 1 untouched).observe
          achievementIds := by
  intro hall
  have hnotifications : [marketplaceAlert] = [] :=
    congrArg Observed.notifications (hall fun k => k + 1)
  cases hnotifications

end AppState

end SpendCraft.Ios
