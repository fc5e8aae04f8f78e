import SpendCraft.BudgetBreaches
import SpendCraft.Ios.Notifications

/-!
# Budget Alerts from Month to Month on iOS

`DashboardView` calls `checkAllBudgets` whenever it appears. What it hands over as spent is
summed over all transactions of a category, whatever their month, and that an alert was
raised is known from the list of notifications alone: it names no month, and its entries can
be deleted. The Android app keeps a record of the alerts of each month.

## Conventions

What stays the same in a run is a parameter, `AlertApp`: the categories, the budgets, the calendar
of the months. The inputs are changes of the transactions, calls of `checkAllBudgets` from the
dashboard with the numbers that are drawn for new notifications, and what the user does to the
list. A call is its rounds, one for each budget, and each round is recorded with what it raised
and what it saw standing. An alert counts under a key of the category, the level and the month.

## Proof

The general part is `OnceEach`: a list of things that are done, each under a key, and of the keys
that are due; a further entry keeps it just under a condition on what was done before. A round of
a check is such an entry (`oncePerMonth_roundStep_iff`), so the condition `Timely` is one about
the round, given the list of notifications and what was raised in the month. Calls and runs follow
by the same equivalence.

## Main results

* `onceEach_append_iff`: when each key is still noted once, and each key that is due.
* `oncePerMonth_roundStep_iff`: what one budget needs for its alerts of the month.
* `oncePerMonth_iff`: in which runs each alert is raised once a month.
-/

namespace SpendCraft.Ios

open Kotlin Machine NotificationsViewModel

/-! ### Once each -/

section OnceEach

variable {κ : Type*} {done due done' due' : List κ}

/-- Each key is done at most once, and at least once if it was due. -/
structure OnceEach (done due : List κ) : Prop where
  atMostOnce : done.Nodup
  atLeastOnce : ∀ key ∈ due, key ∈ done

/-- What is done later must not be done yet, and must be whatever is due and was not. -/
theorem onceEach_append_iff (h : OnceEach done due) (hnodup : done'.Nodup) :
    OnceEach (done ++ done') (due ++ due') ↔
      (∀ key ∈ done', key ∉ done) ∧ ∀ key ∈ due', key ∉ done → key ∈ done' := by
  constructor
  · intro h'
    refine ⟨?_, ?_⟩
    · intro key hnew hold
      exact (List.disjoint_of_nodup_append h'.atMostOnce) hold hnew
    · intro key hdue hnot
      have hkey : key ∈ done ++ done' := h'.atLeastOnce key (List.mem_append_right _ hdue)
      exact (List.mem_append.mp hkey).resolve_left hnot
  · rintro ⟨hfresh, hdue⟩
    refine ⟨h.atMostOnce.append hnodup fun key hold hnew => hfresh key hnew hold, ?_⟩
    intro key hkey
    rw [List.mem_append]
    obtain hold | hnew := List.mem_append.mp hkey
    · exact Or.inl (h.atLeastOnce key hold)
    · by_cases hdone : key ∈ done
      · exact Or.inl hdone
      · exact Or.inr (hdue key hnew hdone)

end OnceEach

/-! ### The app -/

/-- An alert of a month. -/
structure AlertKey (μ : Type*) where
  categoryId : Text
  level : AlertLevel
  month : μ
  deriving DecidableEq, Repr

/-- `raised` are the alerts so far, and `seen` what the calls found spent in their month. -/
structure AlertState (μ : Type*) where
  transactions : List TransactionEntity
  notifications : List NotificationItem
  raised : List (AlertKey μ)
  seen : List (AlertKey μ)

namespace AlertState

variable {μ : Type*}

/-- No alert was given and none was seen. -/
def start (transactions : List TransactionEntity) : AlertState μ :=
  { transactions := transactions
    notifications := []
    raised := []
    seen := [] }

/-- **Once a month.** -/
def OncePerMonth (s : AlertState μ) : Prop :=
  OnceEach s.raised s.seen

end AlertState

/-- What stays the same in a run. A category has one budget: `upsertBudget` looks for it. -/
structure AlertApp (μ : Type*) where
  emptyFound : Bool
  categories : List CategoryEntity
  budgets : List BudgetEntity
  monthOf : ℤ → μ
  nodup_budgets : (budgets.map BudgetEntity.categoryId).Nodup

/-- The dictionary that `DashboardView.onAppear` hands over. -/
def DashboardView.spentAmounts (categories : List CategoryEntity)
    (transactions : List TransactionEntity) : Text → Option ℚ :=
  categories.foldl
    (fun result category => Function.update result (intText category.id)
      (some (TransactionsViewModel.totalSpentForCategory category transactions)))
    fun _ => none

namespace NotificationsViewModel

/-- `markAsRead`: the first notification with the id, if there is one. -/
def markAsRead (id : ℤ) (notifications : List NotificationItem) : List NotificationItem :=
  notifications.modify (notifications.findIdx fun notification => notification.id == id)
    fun notification => { notification with isRead := true }

/-- What is spent on the budget stands at the level. -/
def Stands (spentAmounts : Text → Option ℚ) (budget : BudgetEntity) (level : AlertLevel) : Prop :=
  ∃ p, percentage spentAmounts budget = some p ∧ level.Due p

/-- Whether a level is due is a comparison of two rationals. -/
instance (level : AlertLevel) (p : ℚ) : Decidable (level.Due p) :=
  match level with
  | .eighty => inferInstanceAs (Decidable (80 ≤ p ∧ p < 100))
  | .hundred => inferInstanceAs (Decidable (100 ≤ p))

/-- Whether a level stands is decided by the spent amount. -/
instance (spentAmounts : Text → Option ℚ) (budget : BudgetEntity) (level : AlertLevel) :
    Decidable (Stands spentAmounts budget level) :=
  decidable_of_iff ((percentage spentAmounts budget).any (fun p => decide (level.Due p)) = true)
    (by rw [Option.any_eq_true]; simp only [decide_eq_true_eq]; rfl)

/-- Whether a round raises an alert is decided by the list of notifications it finds. -/
instance (emptyFound : Bool) (spentAmounts : Text → Option ℚ) (level : AlertLevel)
    (round : Round) (notifications : List NotificationItem) :
    Decidable (Raises emptyFound spentAmounts level round notifications) :=
  inferInstanceAs (Decidable (_ = _))

end NotificationsViewModel

namespace AlertApp

variable {μ : Type*} [DecidableEq μ] (app : AlertApp μ)

/-- The spent amounts of the categories, as the dashboard passes them on. -/
def spentAmounts (transactions : List TransactionEntity) : Text → Option ℚ :=
  DashboardView.spentAmounts app.categories transactions

/-- What is spent in a month. -/
def monthSpentAmounts (month : μ) (transactions : List TransactionEntity) : Text → Option ℚ :=
  DashboardView.spentAmounts app.categories
    (transactions.filter fun transaction => app.monthOf transaction.timestampUtcMillis == month)

/-- The two levels of a budget. -/
def levels : List AlertLevel :=
  [.eighty, .hundred]

/-- The key under which an alert counts: one for each category, level and month. -/
def key (month : μ) (budget : BudgetEntity) (level : AlertLevel) : AlertKey μ :=
  { categoryId := budget.categoryId
    level := level
    month := month }

/-- The alerts that a round of a call in the month raises. -/
def raisedBy (month : μ) (s : AlertState μ) (round : Round) : List (AlertKey μ) :=
  (levels.filter fun level =>
    decide (Raises app.emptyFound (app.spentAmounts s.transactions) level round
      s.notifications)).map (key month round.1)

/-- The level at which the month stands. -/
def seenBy (month : μ) (s : AlertState μ) (round : Round) : List (AlertKey μ) :=
  (levels.filter fun level =>
    decide (Stands (app.monthSpentAmounts month s.transactions) round.1 level)).map
      (key month round.1)

/-- A round of the check, with the record of what it raised and of what it saw standing. -/
def roundStep (month : μ) (s : AlertState μ) (round : Round) : AlertState μ :=
  { s with
    notifications := NotificationsViewModel.step app.emptyFound (app.spentAmounts s.transactions)
      s.notifications round
    raised := s.raised ++ app.raisedBy month s round
    seen := s.seen ++ app.seenBy month s round }

/-- The budgets, with what is drawn if an alert is raised. -/
def rounds (now : ℤ) (randomIds : ℕ → ℤ) : List Round :=
  app.budgets.zipIdx.map fun (budget, k) => (budget, { randomId := randomIds k, timestamp := now })

end AlertApp

/-- What happens to the alerts: the transactions change, the budgets are checked, and
notifications are deleted or read. -/
inductive AlertCall
  | changeTransactions (transactions : List TransactionEntity)
  | checkAllBudgets (now : ℤ) (randomIds : ℕ → ℤ)
  | deleteNotification (id : ℤ)
  | markAsRead (id : ℤ)

namespace AlertApp

variable {μ : Type*} [DecidableEq μ] (app : AlertApp μ)

/-- A call of the app. The list of `checkAllBudgets` is the one that the function makes of it; what
it raises and what there is to see on the way is noted round by round. -/
def step (s : AlertState μ) : AlertCall → AlertState μ
  | .changeTransactions transactions => { s with transactions := transactions }
  | .checkAllBudgets now randomIds =>
      { run (app.roundStep (app.monthOf now)) s (app.rounds now randomIds) with
        notifications := checkAllBudgets app.emptyFound (app.spentAmounts s.transactions)
          (app.rounds now randomIds) s.notifications }
  | .deleteNotification id =>
      { s with notifications := NotificationsViewModel.deleteNotification id s.notifications }
  | .markAsRead id =>
      { s with notifications := NotificationsViewModel.markAsRead id s.notifications }

/-- Forgetting what is noted, the rounds are those of `checkAllBudgets`. -/
theorem notifications_run_roundStep (month : μ) (rounds : List Round) (s : AlertState μ) :
    (run (app.roundStep month) s rounds).notifications =
      checkAllBudgets app.emptyFound (app.spentAmounts s.transactions) rounds s.notifications := by
  induction rounds generalizing s with
  | nil => rfl
  | cons round rounds ih => exact ih (app.roundStep month s round)

/-- A call of `checkAllBudgets` is a run of its rounds. -/
theorem step_checkAllBudgets (s : AlertState μ) (now : ℤ) (randomIds : ℕ → ℤ) :
    app.step s (.checkAllBudgets now randomIds) =
      run (app.roundStep (app.monthOf now)) s (app.rounds now randomIds) := by
  rw [step, ← notifications_run_roundStep app (app.monthOf now)]

/-! ### One budget -/

/-- An alert that is due and that was raised in the month is still in the list. A level that
is reached in the month without its alert is the level of all that is spent, and nothing in
the list is taken for the alert. -/
structure Timely (month : μ) (s : AlertState μ) (round : Round) : Prop where
  kept : ∀ level, Stands (app.spentAmounts s.transactions) round.1 level →
    key month round.1 level ∈ s.raised →
      s.notifications.any (matchesAlert app.emptyFound level round.1) = true
  reached : ∀ level, Stands (app.monthSpentAmounts month s.transactions) round.1 level →
    key month round.1 level ∉ s.raised →
      Stands (app.spentAmounts s.transactions) round.1 level ∧
        s.notifications.any (matchesAlert app.emptyFound level round.1) = false

/-- Each round of a call of `checkAllBudgets` is timely. -/
def TimelyCall (s : AlertState μ) : AlertCall → Prop
  | .checkAllBudgets now randomIds =>
      AllSteps (app.roundStep (app.monthOf now)) (app.Timely (app.monthOf now)) s
        (app.rounds now randomIds)
  | _ => True

end AlertApp

namespace AlertApp

section Keys

variable {μ : Type*} {app : AlertApp μ} {month : μ} {s : AlertState μ} {round : Round}
  {alertKey : AlertKey μ}

/-- There are no levels but these two. -/
theorem mem_levels (level : AlertLevel) : level ∈ levels := by
  cases level with
  | eighty => exact List.mem_cons_self
  | hundred => exact List.mem_cons_of_mem _ List.mem_cons_self

/-- Different levels have different keys. -/
theorem key_injective (month : μ) (budget : BudgetEntity) :
    Function.Injective (key month budget) := by
  intro level level' heq
  exact congrArg AlertKey.level heq

/-- The keys of the levels with a property. -/
theorem mem_map_filter_levels {P : AlertLevel → Prop} [DecidablePred P] {budget : BudgetEntity} :
    alertKey ∈ (levels.filter fun level => decide (P level)).map (key month budget) ↔
      ∃ level, P level ∧ key month budget level = alertKey := by
  simp only [List.mem_map, List.mem_filter, decide_eq_true_eq, mem_levels, true_and]

/-- A statement about the keys that a round raises, level by level. -/
theorem forall_mem_raisedBy_iff {Q : AlertKey μ → Prop} :
    (∀ alertKey ∈ app.raisedBy month s round, Q alertKey) ↔
      ∀ level, Raises app.emptyFound (app.spentAmounts s.transactions) level round s.notifications →
        Q (key month round.1 level) := by
  constructor
  · intro hall level hraises
    exact hall _ (mem_map_filter_levels.mpr ⟨level, hraises, rfl⟩)
  · intro hall alertKey hmem
    obtain ⟨level, hraises, rfl⟩ := mem_map_filter_levels.mp hmem
    exact hall level hraises

/-- A round raises no key twice. -/
theorem nodup_raisedBy : (app.raisedBy month s round).Nodup :=
  (List.Nodup.filter _ (by decide)).map (key_injective month round.1)

/-- A level is raised if it stands and no notification in the list is taken for it. -/
theorem raises_iff_stands {level : AlertLevel} :
    Raises app.emptyFound (app.spentAmounts s.transactions) level round s.notifications ↔
      Stands (app.spentAmounts s.transactions) round.1 level ∧
        s.notifications.any (matchesAlert app.emptyFound level round.1) = false :=
  raises_iff

/-- A check goes through the budgets in their order. -/
theorem map_categoryId_rounds (app : AlertApp μ) (now : ℤ) (randomIds : ℕ → ℤ) :
    ((app.rounds now randomIds).map fun round => round.1.categoryId) =
      app.budgets.map BudgetEntity.categoryId := by
  have hbudgets : app.budgets.map BudgetEntity.categoryId =
      app.budgets.zipIdx.map fun entry => entry.1.categoryId := by
    conv_lhs => rw [← List.zipIdx_map_fst 0 app.budgets, List.map_map]
    rfl
  rw [hbudgets, rounds, List.map_map]
  rfl

end Keys

variable {μ : Type*} [DecidableEq μ] (app : AlertApp μ)

section Rounds

variable {app} {month : μ} {s : AlertState μ} {round : Round} {rounds : List Round}

/-- **The step of a round.** -/
theorem oncePerMonth_roundStep_iff (h : s.OncePerMonth) :
    (app.roundStep month s round).OncePerMonth ↔ app.Timely month s round := by
  have hiff : OnceEach (s.raised ++ app.raisedBy month s round)
      (s.seen ++ app.seenBy month s round) ↔ _ := onceEach_append_iff h nodup_raisedBy
  rw [AlertState.OncePerMonth, roundStep, hiff]
  constructor
  · rintro ⟨hfresh, hdue⟩
    rw [forall_mem_raisedBy_iff] at hfresh
    refine ⟨?_, ?_⟩
    · intro level hstands hraised
      by_contra hany
      rw [Bool.not_eq_true] at hany
      exact hfresh level (raises_iff_stands.mpr ⟨hstands, hany⟩) hraised
    · intro level hmonth hnot
      have hseen : key month round.1 level ∈ app.seenBy month s round :=
        mem_map_filter_levels.mpr ⟨level, hmonth, rfl⟩
      obtain ⟨level', hraises, heq⟩ := mem_map_filter_levels.mp (hdue _ hseen hnot)
      obtain rfl := key_injective month round.1 heq
      exact raises_iff_stands.mp hraises
  · rintro ⟨hkept, hreached⟩
    refine ⟨?_, ?_⟩
    · rw [forall_mem_raisedBy_iff]
      intro level hraises hraised
      obtain ⟨hstands, hany⟩ := raises_iff_stands.mp hraises
      rw [hkept level hstands hraised] at hany
      cases hany
    · intro alertKey hseen hnot
      obtain ⟨level, hmonth, rfl⟩ := mem_map_filter_levels.mp hseen
      exact mem_map_filter_levels.mpr
        ⟨level, raises_iff_stands.mpr (hreached level hmonth hnot), rfl⟩

/-! ### One call -/

/-- What the rounds raise and see is about their budgets. -/
theorem exists_run_roundStep (month : μ) (rounds : List Round) (s : AlertState μ) :
    ∃ raised seen, (run (app.roundStep month) s rounds).raised = s.raised ++ raised ∧
      (run (app.roundStep month) s rounds).seen = s.seen ++ seen ∧
      (∀ alertKey ∈ raised, alertKey.categoryId ∈ rounds.map fun round => round.1.categoryId) ∧
      ∀ alertKey ∈ seen, alertKey.categoryId ∈ rounds.map fun round => round.1.categoryId := by
  induction rounds generalizing s with
  | nil => exact ⟨[], [], by simp, by simp, by simp, by simp⟩
  | cons round rounds ih =>
      obtain ⟨raised, seen, hraised, hseen, hraised_mem, hseen_mem⟩ :=
        ih (app.roundStep month s round)
      have hhead : ∀ {P : AlertLevel → Prop} [DecidablePred P], ∀ alertKey ∈
          (levels.filter fun level => decide (P level)).map (key month round.1),
            alertKey.categoryId = round.1.categoryId := by
        intro P _ alertKey hmem
        obtain ⟨level, -, rfl⟩ := mem_map_filter_levels.mp hmem
        rfl
      refine ⟨app.raisedBy month s round ++ raised, app.seenBy month s round ++ seen,
        ?_, ?_, ?_, ?_⟩
      · rw [run_cons, hraised, roundStep, List.append_assoc]
      · rw [run_cons, hseen, roundStep, List.append_assoc]
      · intro alertKey hmem
        rw [List.map_cons, List.mem_cons]
        exact (List.mem_append.mp hmem).imp (hhead alertKey) (hraised_mem alertKey)
      · intro alertKey hmem
        rw [List.map_cons, List.mem_cons]
        exact (List.mem_append.mp hmem).imp (hhead alertKey) (hseen_mem alertKey)

/-- A call whose budgets are of different categories keeps the alerts of the month after each
round, if it does so at its end: no later round makes up for an earlier one. -/
theorem oncePerMonth_of_prefix (h : s.OncePerMonth)
    (hnodup : (rounds.map fun round => round.1.categoryId).Nodup)
    (hend : (run (app.roundStep month) s rounds).OncePerMonth) {pre : List Round}
    (hpre : pre <+: rounds) : (run (app.roundStep month) s pre).OncePerMonth := by
  obtain ⟨post, rfl⟩ := hpre
  rw [run_append] at hend
  rw [List.map_append] at hnodup
  obtain ⟨raised, seen, hraised, hseen, -, hseen_mem⟩ := exists_run_roundStep month pre s
  obtain ⟨raised', seen', hraised', hseen', hraised_mem', -⟩ :=
    exists_run_roundStep month post (run (app.roundStep month) s pre)
  rw [AlertState.OncePerMonth, hraised', hseen'] at hend
  refine ⟨hend.atMostOnce.of_append_left, ?_⟩
  intro alertKey hkey
  obtain hbefore | hlater :=
    List.mem_append.mp (hend.atLeastOnce alertKey (List.mem_append_left _ hkey))
  · exact hbefore
  · rw [hseen] at hkey
    rw [hraised]
    obtain hold | hnew := List.mem_append.mp hkey
    · exact List.mem_append_left _ (h.atLeastOnce alertKey hold)
    · exact absurd (hraised_mem' alertKey hlater)
        (List.disjoint_of_nodup_append hnodup (hseen_mem alertKey hnew))

end Rounds

/-- **The step of a call.** -/
theorem oncePerMonth_step_iff {s : AlertState μ} (h : s.OncePerMonth) (call : AlertCall) :
    (app.step s call).OncePerMonth ↔ app.TimelyCall s call := by
  cases call with
  | checkAllBudgets now randomIds =>
      have hnodup : ((app.rounds now randomIds).map fun round => round.1.categoryId).Nodup := by
        rw [map_categoryId_rounds]
        exact app.nodup_budgets
      rw [step_checkAllBudgets, TimelyCall,
        ← forall_prefix_iff_of_step (fun _ round hs => oncePerMonth_roundStep_iff hs) h]
      constructor
      · intro hend pre hpre
        exact oncePerMonth_of_prefix h hnodup hend hpre
      · intro hall
        exact hall _ (List.prefix_refl _)
  | _ => exact iff_of_true h True.intro

/-- **Once a month** in every state of a run, just when every round of every call of
`checkAllBudgets` is timely. -/
theorem oncePerMonth_iff (transactions : List TransactionEntity) (calls : List AlertCall) :
    (∀ pre, pre <+: calls → (run app.step (.start transactions) pre).OncePerMonth) ↔
      AllSteps app.step app.TimelyCall (.start transactions) calls :=
  forall_prefix_iff_of_step (I := AlertState.OncePerMonth)
    (fun _ call h => app.oncePerMonth_step_iff h call)
    ⟨List.nodup_nil, fun _ hkey => absurd hkey List.not_mem_nil⟩ calls

end AlertApp

/-- The budget for the market, in the months of the Android app. -/
def marketApp : AlertApp Text :=
  { emptyFound := false
    categories := [{ id := 7, name := "Market".toList }]
    budgets := [marketBudget]
    monthOf := BudgetRepositoryImpl.getCurrentMonthKey
    nodup_budgets := List.nodup_singleton _ }

/-- It takes all of the budget. -/
def marketExpense : TransactionEntity :=
  { id := 1
    amountMinor := ((100 * 100 : ℕ) : ℤ)
    timestampUtcMillis := 1700000000000
    note := none
    categoryId := 7
    accountId := 1
    isIncome := false }

/-- With this expense, the budget is at a hundred per cent. -/
theorem stands_marketExpense :
    Stands (marketApp.spentAmounts [marketExpense]) marketBudget .hundred := by
  have htotal : TransactionsViewModel.totalSpentForCategory { id := 7, name := "Market".toList }
      [marketExpense] = ((100 : ℕ) : ℚ) := by
    change Binary64.signedRounded (0 + majorUnits ((100 * 100 : ℕ) : ℤ)) = _
    rw [majorUnits_natCast (by decide), zero_add, Binary64.signedRounded_natCast (by decide)]
  have hspent : marketApp.spentAmounts [marketExpense] marketBudget.categoryId =
      some ((100 : ℕ) : ℚ) := by
    have hid : marketBudget.categoryId = intText 7 := by decide
    rw [← htotal, hid, AlertApp.spentAmounts, DashboardView.spentAmounts, marketApp,
      List.foldl_cons, List.foldl_nil, Function.update_self]
  exact ⟨_, percentage_marketBudget hspent, by simp [AlertLevel.Due]⟩

/-- The alert is deleted, and raised again in the same month. -/
theorem AlertApp.not_oncePerMonth_deleted :
    ¬ ∀ pre, pre <+: [.changeTransactions [marketExpense],
        .checkAllBudgets 1700000000000 fun _ => 1001, .deleteNotification 1001,
        .checkAllBudgets 1700000060000 fun _ => 1002] →
      (run marketApp.step (.start []) pre).OncePerMonth := by
  intro hall
  have hfirst := hall [.changeTransactions [marketExpense],
    .checkAllBudgets 1700000000000 fun _ => 1001] (List.prefix_append _ _)
  have hdeleted := hall [.changeTransactions [marketExpense],
    .checkAllBudgets 1700000000000 fun _ => 1001, .deleteNotification 1001]
    (List.prefix_append _ _)
  have hsecond := (marketApp.oncePerMonth_step_iff hdeleted
    (.checkAllBudgets 1700000060000 fun _ => 1002)).mp (hall _ (List.prefix_refl _))
  have hmonth : marketApp.monthOf 1700000060000 = marketApp.monthOf 1700000000000 := by decide
  have hseen : key (marketApp.monthOf 1700000060000) marketBudget .hundred ∈
      (run marketApp.step (.start []) [.changeTransactions [marketExpense],
        .checkAllBudgets 1700000000000 fun _ => 1001]).seen := by
    rw [hmonth]
    refine List.mem_append_right _ (mem_map_filter_levels.mpr ⟨.hundred, ?_, rfl⟩)
    exact stands_marketExpense
  have hany := hsecond.1.kept .hundred stands_marketExpense (hfirst.atLeastOnce _ hseen)
  obtain ⟨p, hp, hdue⟩ := stands_marketExpense
  have hnil : (run marketApp.step (.start []) [.changeTransactions [marketExpense],
      .checkAllBudgets 1700000000000 fun _ => 1001, .deleteNotification 1001]).notifications =
        [] := by
    have hraised : NotificationsViewModel.step false (marketApp.spentAmounts [marketExpense]) []
        (marketBudget, { randomId := 1001, timestamp := 1700000000000 }) = _ :=
      step_eq_of_due hp hdue
    change deleteNotification 1001 (NotificationsViewModel.step false
      (marketApp.spentAmounts [marketExpense]) []
        (marketBudget, { randomId := 1001, timestamp := 1700000000000 })) = []
    rw [hraised, List.any_nil, if_pos rfl]
    rfl
  rw [hnil, List.any_nil] at hany
  cases hany

end SpendCraft.Ios
