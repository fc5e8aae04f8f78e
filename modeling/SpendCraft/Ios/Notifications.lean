import SpendCraft.Ios.Budgets

/-!
# Budget Alerts of the iOS App

`NotificationsViewModel.checkAllBudgets` raises an alert for a budget that has passed 80 or
100 percent, unless it has done so before. What it has raised before it looks up in the
texts of the notifications: a budget alert that contains the name of the category and a
mark of the level counts as the alert of the category.

## Conventions

The list is a list of notifications, the newest first, and the percentages are inputs of a round,
as `Double`s that are rational numbers. `text.contains(other)` of an empty text depends on which
of the two methods of the name is called, so a Boolean parameter decides it. A round raises one
alert at most: the higher level is asked first. The draws of a new notification are inputs.

## Proof

Whether a round raises an alert is read off the list before it: an alert is due, and no entry
matches it (`raises_iff`). The entries of other categories decide nothing exactly if an alert that
is due and that the list seems to have is there under its own name (`Undisturbed`), since the name
is looked for anywhere in a text. A call is its rounds, and an earlier round changes the list for
a later one.

## Main results

* `raises_iff`: when an alert is raised.
* `independent_iff`: in which calls the notifications of other categories decide nothing.
-/

namespace SpendCraft.Ios

open Kotlin Machine

/-! ### Notifications -/

/-- The types of a notification. -/
inductive NotificationType
  | budgetAlert
  | achievement
  | spendingReminder
  | system
  deriving DecidableEq, Repr

/-- A notification in the list of the app. -/
structure NotificationItem where
  id : ℤ
  title : Text
  message : Text
  type : NotificationType
  timestamp : ℤ
  isRead : Bool
  deriving DecidableEq, Repr

/-- The number drawn from `1000...999999` and the time of a new notification. -/
structure NotificationDraw where
  randomId : ℤ
  timestamp : ℤ
  deriving DecidableEq, Repr

/-- `text.contains(other)`. Whether the empty string is found depends on which of the two
methods of this name is called. -/
def textContains (emptyFound : Bool) (text other : Text) : Bool :=
  if other.isEmpty then emptyFound else Kotlin.contains text other

namespace NotificationsViewModel

/-- `deleteNotification`: every notification with the id goes. -/
def deleteNotification (id : ℤ) (notifications : List NotificationItem) : List NotificationItem :=
  notifications.filter fun notification => !(notification.id == id)

/-- `addNotification`: the new one comes first. -/
def addNotification (draw : NotificationDraw) (title message : Text) (type : NotificationType)
    (notifications : List NotificationItem) : List NotificationItem :=
  { id := draw.randomId
    title := title
    message := message
    type := type
    timestamp := draw.timestamp
    isRead := false } :: notifications

/-! ### Budget alerts -/

/-- The two levels of a budget alert. -/
inductive AlertLevel
  | eighty
  | hundred
  deriving DecidableEq, Repr

namespace AlertLevel

/-- The title of an alert. -/
def title : AlertLevel → Text
  | eighty => "⚠️ Bütçe Uyarısı".toList
  | hundred => "🚨 Bütçe Aşıldı!".toList

/-- The message of an alert: the category is named in its text only. -/
def message (category : Text) : AlertLevel → Text
  | eighty => category ++ " kategorisinde bütçenizin %80'ini kullandınız.".toList
  | hundred => category ++ " kategorisinde bütçenizin tamamını kullandınız!".toList

/-- What is looked for in the texts of past alerts. -/
def mark : AlertLevel → Text
  | eighty => "80".toList
  | hundred => "tamamını".toList

/-- The percentages at which the alert is due. -/
def Due (percentage : ℚ) : AlertLevel → Prop
  | eighty => 80 ≤ percentage ∧ percentage < 100
  | hundred => 100 ≤ percentage

end AlertLevel

/-- `checkBudgetAlert`: one alert at most, that of the higher level. -/
def checkBudgetAlert (draw : NotificationDraw) (category : Text) (percentage : ℚ)
    (notifications : List NotificationItem) : List NotificationItem :=
  if percentage ≥ 100 then
    addNotification draw (AlertLevel.title .hundred) (AlertLevel.message category .hundred)
      .budgetAlert notifications
  else if percentage ≥ 80 then
    addNotification draw (AlertLevel.title .eighty) (AlertLevel.message category .eighty)
      .budgetAlert notifications
  else notifications

/-- The share of the limit that is spent, where there is one. -/
def percentage (spentAmounts : Text → Option ℚ) (budget : BudgetEntity) : Option ℚ :=
  match spentAmounts budget.categoryId with
  | none => none
  | some spent =>
      let limit := majorUnits budget.monthlyLimitMinor
      if limit > 0 then
        some (Binary64.signedRounded (Binary64.signedRounded (spent / limit) * 100))
      else none

/-- The notification is taken for an alert of the level for the budget. -/
def matchesAlert (emptyFound : Bool) (level : AlertLevel) (budget : BudgetEntity)
    (notification : NotificationItem) : Bool :=
  notification.type == .budgetAlert &&
    textContains emptyFound notification.message
      ((budget.category.map CategoryEntity.name).getD "".toList) &&
    textContains emptyFound notification.message level.mark

/-- One round of the loop. -/
def checkBudget (emptyFound : Bool) (spentAmounts : Text → Option ℚ) (budget : BudgetEntity)
    (draw : NotificationDraw) (notifications : List NotificationItem) : List NotificationItem :=
  match percentage spentAmounts budget with
  | none => notifications
  | some percentage =>
      let hasNotified80 := notifications.any (matchesAlert emptyFound .eighty budget)
      let hasNotified100 := notifications.any (matchesAlert emptyFound .hundred budget)
      let category := (budget.category.map CategoryEntity.name).getD "Kategori".toList
      if percentage ≥ 100 ∧ hasNotified100 = false then
        checkBudgetAlert draw category percentage notifications
      else if percentage ≥ 80 ∧ percentage < 100 ∧ hasNotified80 = false then
        checkBudgetAlert draw category percentage notifications
      else notifications

/-- A budget of the list, with what is drawn if an alert is raised for it. -/
abbrev Round := BudgetEntity × NotificationDraw

/-- A round of the loop over the budgets, on the list of notifications. -/
def step (emptyFound : Bool) (spentAmounts : Text → Option ℚ)
    (notifications : List NotificationItem) (round : Round) : List NotificationItem :=
  checkBudget emptyFound spentAmounts round.1 round.2 notifications

/-- `checkAllBudgets`: the rounds one after the other. -/
def checkAllBudgets (emptyFound : Bool) (spentAmounts : Text → Option ℚ) (rounds : List Round)
    (notifications : List NotificationItem) : List NotificationItem :=
  run (step emptyFound spentAmounts) notifications rounds

/-! ### The alerts of a category -/

/-- The text that stands for the category of the budget. -/
def categoryText (budget : BudgetEntity) : Text :=
  (budget.category.map CategoryEntity.name).getD "Kategori".toList

/-- The alert that a round adds. -/
def alert (level : AlertLevel) (round : Round) : NotificationItem :=
  { id := round.2.randomId
    title := level.title
    message := level.message (categoryText round.1)
    type := .budgetAlert
    timestamp := round.2.timestamp
    isRead := false }

/-- The round raises the alert. -/
def Raises (emptyFound : Bool) (spentAmounts : Text → Option ℚ) (level : AlertLevel)
    (round : Round) (notifications : List NotificationItem) : Prop :=
  step emptyFound spentAmounts notifications round = alert level round :: notifications

/-- The alerts of the level for the category of the budget. -/
def ownAlerts (level : AlertLevel) (budget : BudgetEntity)
    (notifications : List NotificationItem) : List NotificationItem :=
  notifications.filter fun notification =>
    notification.type == .budgetAlert && notification.message == level.message (categoryText budget)

/-- The round raises what it would raise without the other notifications. -/
def Independent (emptyFound : Bool) (spentAmounts : Text → Option ℚ)
    (notifications : List NotificationItem) (round : Round) : Prop :=
  ∀ level, Raises emptyFound spentAmounts level round notifications ↔
    Raises emptyFound spentAmounts level round (ownAlerts level round.1 notifications)

/-- An alert that is due and that the list seems to have is in the list. -/
def Undisturbed (emptyFound : Bool) (spentAmounts : Text → Option ℚ)
    (notifications : List NotificationItem) (round : Round) : Prop :=
  ∀ level p, percentage spentAmounts round.1 = some p → level.Due p →
    (∃ notification ∈ notifications, matchesAlert emptyFound level round.1 notification = true) →
      ownAlerts level round.1 notifications ≠ []

/-! ### One round -/

section Round

variable {emptyFound : Bool} {spentAmounts : Text → Option ℚ} {level level' : AlertLevel}
  {round : Round} {notifications : List NotificationItem} {p : ℚ}

/-- A percentage is due at one level at most. -/
theorem Due.unique (h : level.Due p) (h' : level'.Due p) : level = level' := by
  rcases level <;> rcases level' <;> simp only [AlertLevel.Due] at h h'
  · rfl
  · exact absurd h.2 (not_lt.mpr h')
  · exact absurd h'.2 (not_lt.mpr h)
  · rfl

/-- The alerts of the two levels are different. -/
theorem alert_inj (h : alert level round = alert level' round) : level = level' := by
  have hmessage := congrArg NotificationItem.message h
  rcases level <;> rcases level' <;> simp [alert, AlertLevel.message] at hmessage ⊢

/-- **A round** raises the alert that is due, unless the list seems to have it. -/
theorem step_eq_of_due (hp : percentage spentAmounts round.1 = some p) (hdue : level.Due p) :
    step emptyFound spentAmounts notifications round =
      if notifications.any (matchesAlert emptyFound level round.1) = false then
        alert level round :: notifications
      else notifications := by
  rw [step, checkBudget, hp]
  dsimp only
  rcases level with _ | _
  · obtain ⟨heighty, hhundred⟩ := hdue
    have hnot : ¬p ≥ 100 := not_le.mpr hhundred
    simp only [hnot, false_and, if_false, ge_iff_le, heighty, hhundred, true_and]
    rw [checkBudgetAlert, if_neg hnot, if_pos heighty]
    rfl
  · have hge : p ≥ 100 := hdue
    simp only [hge, not_lt.mpr hge, true_and, false_and, and_false, if_false]
    rw [checkBudgetAlert, if_pos hge]
    rfl

/-- A round for a budget that is not due does nothing. -/
theorem step_eq_of_not_due (h : ∀ level p, percentage spentAmounts round.1 = some p →
    ¬AlertLevel.Due p level) :
    step emptyFound spentAmounts notifications round = notifications := by
  rw [step, checkBudget]
  rcases hp : percentage spentAmounts round.1 with _ | p
  · rfl
  · have hhundred : ¬p ≥ 100 := h .hundred p hp
    have heighty : ¬(p ≥ 80 ∧ p < 100) := h .eighty p hp
    dsimp only
    rw [if_neg fun hand => hhundred hand.1, if_neg fun hand => heighty ⟨hand.1, hand.2.1⟩]

/-- A round raises an alert exactly if the budget is due and the list has no alert taken for it.
-/
theorem raises_iff : Raises emptyFound spentAmounts level round notifications ↔
    (∃ p, percentage spentAmounts round.1 = some p ∧ level.Due p) ∧
      notifications.any (matchesAlert emptyFound level round.1) = false := by
  rw [Raises]
  by_cases h : ∃ level' p, percentage spentAmounts round.1 = some p ∧ AlertLevel.Due p level'
  · obtain ⟨level', p, hp, hdue⟩ := h
    rw [step_eq_of_due hp hdue]
    constructor
    · intro heq
      split_ifs at heq with hany
      · obtain rfl := alert_inj (List.cons.inj heq).1
        exact ⟨⟨p, hp, hdue⟩, hany⟩
      · exact absurd (congrArg List.length heq) (by simp)
    · rintro ⟨⟨q, hq, hdueq⟩, hany⟩
      obtain rfl : p = q := Option.some_inj.mp (hp.symm.trans hq)
      obtain rfl := Due.unique hdue hdueq
      rw [if_pos hany]
  · rw [step_eq_of_not_due fun level' p hp hdue => h ⟨level', p, hp, hdue⟩]
    refine iff_of_false ?_ ?_
    · intro heq
      exact absurd (congrArg List.length heq) (by simp)
    · rintro ⟨⟨p, hp, hdue⟩, -⟩
      exact h ⟨level, p, hp, hdue⟩

/-- The alerts of a budget at a level. -/
theorem mem_ownAlerts {notification : NotificationItem} :
    notification ∈ ownAlerts level round.1 notifications ↔
      notification ∈ notifications ∧ notification.type = .budgetAlert ∧
        notification.message = level.message (categoryText round.1) := by
  simp [ownAlerts]

/-- The text of an alert is the name of the category, then a text with the mark. -/
theorem message_eq (level : AlertLevel) (category : Text) :
    ∃ before after, level.message category = category ++ (before ++ level.mark ++ after) := by
  rcases level with _ | _
  · have heighty : " kategorisinde bütçenizin %80'ini kullandınız.".toList =
        " kategorisinde bütçenizin %".toList ++ "80".toList ++ "'ini kullandınız.".toList := by
      rw [← String.toList_append, ← String.toList_append]
      rfl
    exact ⟨_, _, congrArg (category ++ ·) heighty⟩
  · have hhundred : " kategorisinde bütçenizin tamamını kullandınız!".toList =
        " kategorisinde bütçenizin ".toList ++ "tamamını".toList ++ " kullandınız!".toList := by
      rw [← String.toList_append, ← String.toList_append]
      rfl
    exact ⟨_, _, congrArg (category ++ ·) hhundred⟩

/-- The message of a level contains the mark by which it is found. -/
theorem contains_mark (level : AlertLevel) (category : Text) :
    textContains emptyFound (level.message category) level.mark = true := by
  obtain ⟨before, after, heq⟩ := message_eq level category
  have hne : ¬level.mark.isEmpty = true := by
    rcases level <;> exact Bool.false_ne_true
  rw [textContains, if_neg hne, Kotlin.contains_iff, heq]
  exact ⟨category ++ before, after, by simp only [List.append_assoc]⟩

/-- An alert contains the name of its category, if what is looked for as the name is found
in any text. -/
theorem contains_name {budget : BudgetEntity} {text : Text}
    (h : textContains emptyFound text
      ((budget.category.map CategoryEntity.name).getD "".toList) = true) :
    textContains emptyFound (level.message (categoryText budget))
      ((budget.category.map CategoryEntity.name).getD "".toList) = true := by
  obtain ⟨before, after, heq⟩ := message_eq level (categoryText budget)
  rw [textContains] at h ⊢
  by_cases hempty : List.isEmpty ((budget.category.map CategoryEntity.name).getD "".toList) = true
  · rw [if_pos hempty] at h ⊢
    exact h
  · rw [if_neg hempty, Kotlin.contains_iff, heq, categoryText]
    rcases hcategory : budget.category with _ | category
    · rw [hcategory] at hempty
      exact absurd rfl hempty
    · exact (List.prefix_append _ _).isInfix

/-- The alerts of the category seem to be the alert, if there are any and the name that is
looked for is found in them. -/
theorem any_ownAlerts : (ownAlerts level round.1 notifications).any
      (matchesAlert emptyFound level round.1) = true ↔
    ownAlerts level round.1 notifications ≠ [] ∧
      textContains emptyFound (level.message (categoryText round.1))
        ((round.1.category.map CategoryEntity.name).getD "".toList) = true := by
  have hmatch : ∀ own ∈ ownAlerts level round.1 notifications,
      matchesAlert emptyFound level round.1 own =
        textContains emptyFound (level.message (categoryText round.1))
          ((round.1.category.map CategoryEntity.name).getD "".toList) := by
    intro own hown
    obtain ⟨-, htype, hmessage⟩ := mem_ownAlerts.mp hown
    rw [matchesAlert, htype, hmessage, contains_mark, Bool.and_true]
    rfl
  rw [List.any_eq_true]
  constructor
  · rintro ⟨own, hown, htrue⟩
    exact ⟨List.ne_nil_of_mem hown, by rw [← hmatch own hown, htrue]⟩
  · rintro ⟨hne, hname⟩
    obtain ⟨own, hown⟩ := List.exists_mem_of_ne_nil _ hne
    exact ⟨own, hown, by rw [hmatch own hown, hname]⟩

/-- **The step.** -/
theorem independent_iff_undisturbed (notifications : List NotificationItem) (round : Round) :
    Independent emptyFound spentAmounts notifications round ↔
      Undisturbed emptyFound spentAmounts notifications round := by
  constructor
  · rintro h level p hp hdue ⟨notification, hmem, hmatch⟩ hnil
    have hnone : (ownAlerts level round.1 notifications).any
        (matchesAlert emptyFound level round.1) = false := by
      rw [hnil, List.any_nil]
    have hraise := (h level).mpr (raises_iff.mpr ⟨⟨p, hp, hdue⟩, hnone⟩)
    have hany := List.any_eq_true.mpr ⟨notification, hmem, hmatch⟩
    rw [(raises_iff.mp hraise).2] at hany
    cases hany
  · intro h level
    rw [raises_iff, raises_iff]
    refine and_congr_right ?_
    rintro ⟨p, hp, hdue⟩
    rw [← Bool.not_eq_true, ← Bool.not_eq_true, not_iff_not]
    constructor
    · intro hany
      obtain ⟨notification, hmem, hmatch⟩ := List.any_eq_true.mp hany
      refine any_ownAlerts.mpr ⟨h level p hp hdue ⟨notification, hmem, hmatch⟩, ?_⟩
      rw [matchesAlert, Bool.and_eq_true, Bool.and_eq_true] at hmatch
      exact contains_name hmatch.1.2
    · intro hown
      obtain ⟨notification, hmem, hmatch⟩ := List.any_eq_true.mp hown
      exact List.any_eq_true.mpr ⟨notification, List.mem_of_mem_filter hmem, hmatch⟩

end Round

/-! ### A call -/

/-- **The alerts of different categories** do not interfere in a call, just when in none of
its rounds a notification is taken for an alert that is due and not in the list. -/
theorem independent_iff (emptyFound : Bool) (spentAmounts : Text → Option ℚ)
    (rounds : List Round) (notifications : List NotificationItem) :
    (∀ pre round post, rounds = pre ++ round :: post →
        Independent emptyFound spentAmounts
          (checkAllBudgets emptyFound spentAmounts pre notifications) round) ↔
      AllSteps (step emptyFound spentAmounts) (Undisturbed emptyFound spentAmounts)
        notifications rounds := by
  rw [allSteps_iff]
  constructor
  · intro h pre round post heq
    exact (independent_iff_undisturbed _ round).mp (h pre round post heq)
  · intro h pre round post heq
    exact (independent_iff_undisturbed _ round).mpr (h pre round post heq)

/-- A budget of 100 for the market. -/
def marketBudget : BudgetEntity :=
  { categoryId := "7".toList
    monthlyLimitMinor := ((100 * 100 : ℕ) : ℤ)
    category := some { id := 7, name := "Market".toList } }

/-- All of it is spent. -/
theorem percentage_marketBudget {spentAmounts : Text → Option ℚ}
    (h : spentAmounts marketBudget.categoryId = some ((100 : ℕ) : ℚ)) :
    percentage spentAmounts marketBudget = some ((100 : ℕ) : ℚ) := by
  have hlimit : majorUnits marketBudget.monthlyLimitMinor = ((100 : ℕ) : ℚ) :=
    majorUnits_natCast (by decide)
  have hone : ((100 : ℕ) : ℚ) / ((100 : ℕ) : ℚ) = ((1 : ℕ) : ℚ) := by norm_num
  have hhundred : ((1 : ℕ) : ℚ) * 100 = ((100 : ℕ) : ℚ) := by norm_num
  rw [percentage, h]
  dsimp only
  rw [hlimit, if_pos (by norm_num), hone, Binary64.signedRounded_natCast (by decide), hhundred,
    Binary64.signedRounded_natCast (by decide)]

/-- The alert of another category, whose name contains the name. -/
def marketplaceAlert : NotificationItem :=
  { id := 1000
    title := AlertLevel.title .hundred
    message := AlertLevel.message "Market Alışverişi".toList .hundred
    type := .budgetAlert
    timestamp := 1700000000000
    isRead := true }

/-- All of the budget is spent, but the alert of the other category is taken for its own. -/
theorem not_independent_market :
    ¬∀ pre round post,
      [(marketBudget, ({ randomId := 1001, timestamp := 1700000060000 } : NotificationDraw))] =
          pre ++ round :: post →
        Independent false (fun _ => some ((100 : ℕ) : ℚ))
          (checkAllBudgets false (fun _ => some ((100 : ℕ) : ℚ)) pre [marketplaceAlert]) round := by
  intro h
  have hpercentage : percentage (fun _ => some ((100 : ℕ) : ℚ)) marketBudget =
      some ((100 : ℕ) : ℚ) := percentage_marketBudget rfl
  have hundisturbed := (independent_iff_undisturbed _ _).mp (h [] _ [] rfl)
  refine hundisturbed .hundred _ hpercentage ?_
    ⟨marketplaceAlert, List.mem_singleton_self _, ?_⟩ rfl
  · simp [AlertLevel.Due]
  · decide

end NotificationsViewModel

end SpendCraft.Ios
