import SpendCraft.AchievementUnlocks
import SpendCraft.Ios.Achievements
import SpendCraft.Ios.Links

/-!
# The Achievement for Five Categories

Android counts the categories that occur among the transactions. `checkAchievements` of
the iOS app is given a number of categories, and each of its callers gives it the number
of all categories there are.

## Conventions

Both apps are modelled: the table of the Android app and the objects of the iOS app, each with the
function that counts. A category is used if some transaction has it. The callers of the iOS
function are a type (`CheckCaller`), because each of them loads and hands on its own counts: all
of them hand on the number of categories that are loaded.

## Proof

A check of the iOS app is a map over the objects (`rows_checkAchievements`), and the objects of
the category achievements depend on the number of categories alone. On Android the check is a
sequence of calls, of which the module `AchievementUnlocks` knows what they unlock. The
achievement stands for used categories exactly where no unlocked one is owed to categories that
nothing uses.

## Main results

* `rows_checkAchievements`: what a check of the iOS app makes of the objects.
* `unlocksCategories_iff`: which of its checks unlock a category achievement.
* `fiveCategoriesUsed_iff`: when the achievement stands for categories that are used.
-/

namespace SpendCraft.Ios

open Kotlin Relational AchievementObject AchievementsModel AchievementsViewModel

/-! ### A check, object by object -/

/-- What a turn of the loop makes of an object. -/
def AchievementObject.checked (currentTimeMillis : ℤ → ℤ) (transactionCount categories : ℤ)
    (achievement : AchievementObject) : AchievementObject :=
  if achievement.isUnlocked then achievement
  else
    match checkedProgress transactionCount categories achievement with
    | none => achievement
    | some progress =>
        if achievement.maxProgress ≤ progress then
          setUnlocked (currentTimeMillis achievement.objectID) (setProgress progress achievement)
        else setProgress progress achievement

section Checks

variable {randomIds : ℕ → ℤ} {currentTimeMillis : ℤ → ℤ} {transactionCount categories : ℤ}
  {notifies : Bool}

/-- A check changes neither the identity nor the category of an achievement. -/
theorem checked_columns (achievement : AchievementObject) :
    (checked currentTimeMillis transactionCount categories achievement).objectID =
        achievement.objectID ∧
      (checked currentTimeMillis transactionCount categories achievement).category =
        achievement.category := by
  rw [checked]
  split_ifs
  · exact ⟨rfl, rfl⟩
  · split
    · exact ⟨rfl, rfl⟩
    · split_ifs
      · exact ⟨rfl, rfl⟩
      · exact ⟨rfl, rfl⟩

/-- A second turn for an object finds nothing to do. -/
theorem checked_checked (achievement : AchievementObject) :
    checked currentTimeMillis transactionCount categories
        (checked currentTimeMillis transactionCount categories achievement) =
      checked currentTimeMillis transactionCount categories achievement := by
  rcases hlock : achievement.isUnlocked with _ | _
  · rcases hprogress : checkedProgress transactionCount categories achievement with _ | progress
    · simp [checked, hlock, hprogress]
    · by_cases hle : achievement.maxProgress ≤ progress
      · simp [checked, hlock, hprogress, hle, setUnlocked]
      · have hagain : checkedProgress transactionCount categories
            (setProgress progress achievement) = some progress := hprogress
        simp only [checked, hlock, hprogress, hle, if_false, Bool.false_eq_true, setProgress]
          at hagain ⊢
        simp [hagain, hle]
  · simp [checked, hlock]

/-- Loading leaves objects that are there alone. -/
theorem context_loadAchievements {model : AchievementsModel} (h : model.context.rows ≠ []) :
    (model.loadAchievements randomIds).context = model.context := by
  have hfetched : (fetchAchievements model.context).isEmpty = false := by
    rw [fetchAchievements, List.isEmpty_eq_false_iff]
    intro hnil
    exact h (List.eq_nil_of_length_eq_zero
      ((List.length_insertionSort _ _).symm.trans (congrArg List.length hnil)))
  simp [AchievementsModel.loadAchievements, hfetched]

/-- What is assigned to one object matters only at that object. -/
theorem map_ite_congr {context : AutoTable AchievementObject} {achievement : AchievementObject}
    (hmem : achievement ∈ context.rows) {f g : AchievementObject → AchievementObject}
    (heq : f achievement = g achievement) :
    (context.rows.map fun other =>
        if other.objectID = achievement.objectID then f other else other) =
      context.rows.map fun other =>
        if other.objectID = achievement.objectID then g other else other := by
  refine List.map_congr_left fun other hother => ?_
  split_ifs with hid
  · rw [AutoTable.eq_of_id_eq hother hmem hid, heq]
  · rfl

/-- What is written to an object that is unlocked. -/
theorem rows_assignUnlocked_assignProgress (objectID currentTime progress : ℤ)
    (context : AutoTable AchievementObject) :
    (assignUnlocked objectID currentTime (assignProgress objectID progress context)).rows =
      context.rows.map fun other =>
        if other.objectID = objectID then setUnlocked currentTime (setProgress progress other)
        else other := by
  rw [assignUnlocked, assign, AutoTable.rows_updateSet, assignProgress, assign,
    AutoTable.rows_updateSet, List.map_map]
  refine List.map_congr_left fun other _ => ?_
  rw [Function.comp_apply]
  by_cases hid : other.objectID = objectID
  · simp [hid, setProgress]
  · simp [hid]

/-- **A turn of the loop** checks its object and no other. -/
theorem rows_checkAchievement (loop : AchievementsModel.Loop) (objectID : ℤ) :
    (checkAchievement randomIds currentTimeMillis transactionCount categories notifies loop
        objectID).model.context.rows =
      loop.model.context.rows.map fun achievement =>
        if achievement.objectID = objectID then
          checked currentTimeMillis transactionCount categories achievement
        else achievement := by
  rw [checkAchievement]
  rcases hfind : find objectID loop.model.context with _ | achievement
  · -- no object of the array is gone from the context, but the model allows it
    refine (List.map_id' _).symm.trans (List.map_congr_left fun other hother => ?_)
    rw [find, List.find?_eq_none] at hfind
    have hne := hfind other hother
    rw [beq_iff_eq] at hne
    rw [if_neg hne]
  obtain ⟨hmem, rfl⟩ := find_eq_some hfind
  have hkept : checked currentTimeMillis transactionCount categories achievement = achievement →
      loop.model.context.rows = loop.model.context.rows.map fun other =>
        if other.objectID = achievement.objectID then
          checked currentTimeMillis transactionCount categories other
        else other := by
    intro hsame
    refine (List.map_id' _).symm.trans ?_
    rw [← map_ite_congr hmem (f := fun other => other) hsame.symm]
    exact List.map_congr_left fun other _ => (ite_self other).symm
  dsimp only
  rcases hlock : achievement.isUnlocked with _ | _
  · rcases hprogress : checkedProgress transactionCount categories achievement with _ | progress
    · exact hkept (by simp [checked, hlock, hprogress])
    · simp only [Bool.false_eq_true, if_false]
      split_ifs with hle
      · have hunlocked := rows_assignUnlocked_assignProgress achievement.objectID
          (currentTimeMillis achievement.objectID) progress loop.model.context
        have hne : (assignUnlocked achievement.objectID
            (currentTimeMillis achievement.objectID)
            (assignProgress achievement.objectID progress loop.model.context)).rows ≠ [] := by
          rw [hunlocked, ne_eq, List.map_eq_nil_iff]
          exact List.ne_nil_of_mem hmem
        rw [unlockAchievement, context_loadAchievements hne, hunlocked]
        exact map_ite_congr hmem (by simp [checked, hlock, hprogress, hle])
      · exact map_ite_congr hmem (by simp [checked, hlock, hprogress, hle])
  · exact hkept (by simp [checked, hlock])

/-- **The loop** checks the objects of its array. -/
theorem rows_foldl_checkAchievement (objectIDs : List ℤ) (loop : AchievementsModel.Loop) :
    (objectIDs.foldl
        (checkAchievement randomIds currentTimeMillis transactionCount categories notifies)
        loop).model.context.rows =
      loop.model.context.rows.map fun achievement =>
        if achievement.objectID ∈ objectIDs then
          checked currentTimeMillis transactionCount categories achievement
        else achievement := by
  induction objectIDs generalizing loop with
  | nil =>
      refine (List.map_id' _).symm.trans (List.map_congr_left fun achievement _ => ?_)
      rw [if_neg List.not_mem_nil]
  | cons objectID objectIDs ih =>
      rw [List.foldl_cons, ih, rows_checkAchievement, List.map_map]
      refine List.map_congr_left fun achievement _ => ?_
      rw [Function.comp_apply]
      by_cases hid : achievement.objectID = objectID
      · have hmem : achievement.objectID ∈ objectID :: objectIDs :=
          List.mem_cons.mpr (Or.inl hid)
        rw [if_pos hid, if_pos hmem, checked_checked, ite_self]
      · simp only [hid, if_false, List.mem_cons, false_or]

/-- **A check** of objects that are in the array. -/
theorem rows_checkAchievements {model : AchievementsModel} (hrows : model.context.rows ≠ [])
    (hloaded : ∀ achievement ∈ model.context.rows,
      achievement.objectID ∈ model.achievements) :
    (model.checkAchievements randomIds currentTimeMillis transactionCount categories
        notifies).context.rows =
      model.context.rows.map (checked currentTimeMillis transactionCount categories) := by
  have hloop : (checkLoop randomIds currentTimeMillis transactionCount categories notifies
      model).model.context.rows =
        model.context.rows.map (checked currentTimeMillis transactionCount categories) := by
    rw [checkLoop, rows_foldl_checkAchievement]
    exact List.map_congr_left fun achievement hmem => if_pos (hloaded achievement hmem)
  rw [AchievementsModel.checkAchievements]
  split_ifs
  · rw [context_loadAchievements, hloop]
    rw [hloop]
    exact fun hnil => hrows (List.map_eq_nil_iff.mp hnil)
  · exact hloop

/-- Every achievement of the store is in the array after loading. -/
theorem mem_achievements_loadAchievements (model : AchievementsModel) :
    ∀ achievement ∈ (model.loadAchievements randomIds).context.rows,
      achievement.objectID ∈ (model.loadAchievements randomIds).achievements := by
  intro achievement hmem
  refine List.mem_map_of_mem ?_
  rw [fetchAchievements, List.mem_insertionSort]
  exact hmem

end Checks

/-! ### The callers -/

/-- The arrays of `TransactionsViewModel` that the callers count. -/
structure TransactionsModel where
  transactions : List TransactionObject
  categories : List CategoryObject

/-- `loadData`: the transactions and the categories of the store. -/
def TransactionsModel.loadData (store : LinkedStore) : TransactionsModel :=
  { transactions := store.loadTransactions
    categories := store.loadCategories }

/-- The callers of `checkAchievements`: the start of the app, a change of the number of
transactions, saving a transaction, and closing the sheet of the dashboard. -/
inductive CheckCaller
  | onAppear
  | onChange (count : ℕ)
  | saveTransaction
  | onDismiss
  deriving DecidableEq, Repr

namespace CheckCaller

/-- The change hands over the number of transactions that it was told of. -/
def transactionCount (loaded : TransactionsModel) : CheckCaller → ℤ
  | onChange count => count
  | _ => loaded.transactions.length

/-- Whether the caller has handed over the view model of the notifications. -/
def notifies : CheckCaller → Bool
  | onAppear => false
  | _ => true

/-- Each caller loads the achievements before it checks them. -/
def check (randomIds : ℕ → ℤ) (currentTimeMillis : ℤ → ℤ) (loaded : TransactionsModel)
    (model : AchievementsModel) (caller : CheckCaller) : AchievementsModel :=
  (model.loadAchievements randomIds).checkAchievements randomIds currentTimeMillis
    (caller.transactionCount loaded) loaded.categories.length caller.notifies

end CheckCaller

/-- A category achievement that was locked is unlocked. -/
def UnlocksCategories (before after : AutoTable AchievementObject) : Prop :=
  ∃ achievement ∈ before.rows, achievement.category = "CATEGORIES".toList ∧
    achievement.isUnlocked = false ∧ ∃ achievement' ∈ after.rows,
      achievement'.objectID = achievement.objectID ∧ achievement'.isUnlocked = true

/-- A category achievement is locked, and there are as many categories as it asks for. -/
def EnoughCategories (context : AutoTable AchievementObject) (categories : ℕ) : Prop :=
  ∃ achievement ∈ context.rows, achievement.category = "CATEGORIES".toList ∧
    achievement.isUnlocked = false ∧ achievement.maxProgress ≤ categories

/-- A check unlocks an achievement for categories exactly if enough are in use. -/
theorem isUnlocked_checked_iff {currentTimeMillis : ℤ → ℤ} {transactionCount categories : ℤ}
    {achievement : AchievementObject} (hcategory : achievement.category = "CATEGORIES".toList)
    (hlocked : achievement.isUnlocked = false) :
    (checked currentTimeMillis transactionCount categories achievement).isUnlocked = true ↔
      achievement.maxProgress ≤ categories := by
  have hne : "CATEGORIES".toList ≠ "TRANSACTIONS".toList := by decide
  have hprogress : checkedProgress transactionCount categories achievement = some categories := by
    rw [checkedProgress, hcategory, if_neg hne, if_pos rfl]
  rw [checked, hlocked, hprogress]
  simp only [Bool.false_eq_true, if_false]
  split_ifs with hle
  · exact iff_of_true rfl hle
  · exact iff_of_false (by simp [setProgress, hlocked]) hle

section Callers

variable (randomIds : ℕ → ℤ) (currentTimeMillis : ℤ → ℤ) (loaded : TransactionsModel)
  (model : AchievementsModel) (caller : CheckCaller)

/-- **What the callers unlock.** A category achievement goes by the categories there are. -/
theorem unlocksCategories_iff :
    UnlocksCategories (model.loadAchievements randomIds).context
        (caller.check randomIds currentTimeMillis loaded model).context ↔
      EnoughCategories (model.loadAchievements randomIds).context loaded.categories.length := by
  refine exists_congr fun achievement => and_congr_right fun hmem => and_congr_right fun
    hcategory => and_congr_right fun hlocked => ?_
  rw [CheckCaller.check, rows_checkAchievements (List.ne_nil_of_mem hmem)
    (mem_achievements_loadAchievements model),
    ← @isUnlocked_checked_iff currentTimeMillis (caller.transactionCount loaded) _ _ hcategory
      hlocked]
  constructor
  · rintro ⟨achievement', hmem', hid, hunlocked⟩
    obtain ⟨other, hother, rfl⟩ := List.mem_map.mp hmem'
    rw [(checked_columns other).1] at hid
    rwa [AutoTable.eq_of_id_eq hother hmem hid] at hunlocked
  · intro hunlocked
    exact ⟨_, List.mem_map_of_mem hmem, (checked_columns achievement).1, hunlocked⟩

end Callers

end SpendCraft.Ios

namespace SpendCraft

open Kotlin AchievementManagerImpl

/-! ### Both apps -/

/-- The categories that occur among some transactions. -/
def categoriesUsed {τ : Type*} (category : τ → Option ℤ) (transactions : List τ) : Finset ℤ :=
  (transactions.filterMap category).toFinset

/-- Android counts them. -/
theorem uniqueCategories_eq (db : Database) :
    uniqueCategories ((TxDao.getAllAscending db).map TransactionMapper.fromEntity) =
      (categoriesUsed TransactionEntity.categoryId (TxDao.getAllAscending db)).card := by
  rw [uniqueCategories, categoriesUsed, List.card_toFinset, List.filterMap_map]
  rfl

/-- On Android, five categories in use unlock the achievement. -/
theorem unlocks_categories_iff (now : ℤ) (currentTimeMillis : ProgressUpdate → ℤ)
    (db : Database) (achievements : Achievements) :
    Unlocks "Kategori Uzmanı".toList achievements
        (checkAchievements now currentTimeMillis db achievements) ↔
      achievements.IsLocked "Kategori Uzmanı".toList ∧
        5 ≤ (categoriesUsed TransactionEntity.categoryId (TxDao.getAllAscending db)).card := by
  rw [unlocks_checkAchievements_iff, exists_checkCategory_iff, uniqueCategories_eq]

/-- **Five categories used.** On Android the achievement is unlocked only then. On iOS that
holds of a call just when five categories are used or the categories there are do not
suffice for an achievement that is still locked. -/
theorem fiveCategoriesUsed_iff (now : ℤ) (currentTimeMillis : ProgressUpdate → ℤ)
    (db : Database) (achievements : Achievements) (randomIds : ℕ → ℤ) (unlockedAt : ℤ → ℤ)
    (loaded : Ios.TransactionsModel) (model : Ios.AchievementsModel)
    (caller : Ios.CheckCaller) :
    ((Unlocks "Kategori Uzmanı".toList achievements
          (checkAchievements now currentTimeMillis db achievements) →
        5 ≤ (categoriesUsed TransactionEntity.categoryId (TxDao.getAllAscending db)).card) ∧
      (Ios.UnlocksCategories (model.loadAchievements randomIds).context
          (caller.check randomIds unlockedAt loaded model).context →
        5 ≤ (categoriesUsed Ios.TransactionObject.category loaded.transactions).card)) ↔
      (Ios.EnoughCategories (model.loadAchievements randomIds).context loaded.categories.length →
        5 ≤ (categoriesUsed Ios.TransactionObject.category loaded.transactions).card) := by
  rw [unlocks_categories_iff, Ios.unlocksCategories_iff]
  exact and_iff_right And.right

/-- The first start of the app unlocks the achievement: the categories that it has just
created are more than five, and there is no transaction. -/
theorem not_fiveCategoriesUsed_first_start :
    ¬ (Ios.UnlocksCategories
          ((Ios.AchievementsModel.seeded fun _ => 1).loadAchievements fun _ => 1).context
          (Ios.CheckCaller.onAppear.check (fun _ => 1) (fun _ => 0)
            (Ios.TransactionsModel.loadData Ios.firstDraws.seeded) (.seeded fun _ => 1)).context →
        5 ≤ (categoriesUsed Ios.TransactionObject.category
          (Ios.TransactionsModel.loadData Ios.firstDraws.seeded).transactions).card) := by
  rw [Ios.unlocksCategories_iff]
  intro hused
  have hlength : (Ios.TransactionsModel.loadData Ios.firstDraws.seeded).categories.length =
      17 := by
    rw [Ios.TransactionsModel.loadData, Ios.LinkedStore.loadCategories,
      List.length_insertionSort]
    have hmap := congrArg List.length (Ios.firstDraws.map_categories_seeded
      (g := fun category => category.color) fun _ _ => rfl)
    rw [List.length_map] at hmap
    rw [hmap]
    rfl
  have henough : Ios.EnoughCategories
      ((Ios.AchievementsModel.seeded fun _ => 1).loadAchievements fun _ => 1).context
      (Ios.TransactionsModel.loadData Ios.firstDraws.seeded).categories.length := by
    rw [hlength, Ios.context_loadAchievements (by decide)]
    refine ⟨{ Ios.AchievementsViewModel.seedAchievement (("Kategori Ustası".toList,
      "5 farklı kategori kullanın".toList, "folder.badge.plus".toList, 30,
      "CATEGORIES".toList, 5), 1) with objectID := 5 }, by decide, rfl, rfl, by decide⟩
  exact absurd (hused henough) (by decide)

end SpendCraft
