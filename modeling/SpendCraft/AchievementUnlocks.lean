import SpendCraft.Achievements
import SpendCraft.BudgetBreaches

/-!
# What Unlocks an Achievement

An update finds the row of its name and writes to that row alone, so the row that is found
under a name after a check is the one found before, written by the calls for that name.

## Conventions

A check is given the stored data and a time, and is the list of its calls of
`updateAchievementProgress`. Something is unlocked by it if the row that is found under the name
was locked before and is unlocked after (`Unlocks`). The savings achievement has a loop over the
budgets that compares nothing, and the loop is modelled as it is; what the achievement stands for
is `savingsEarned_iff`, a comparison of that loop with the budgets.

## Proof

For an achievement the calls for other names are left out, since they leave the row that is found
under this one: `getAchievementByName` after a check is a fold over the calls for the name alone.
Each of the equivalences then reads such a call.

## Relation to `Achievements`

The module `Achievements` asks what a check takes away, over runs; this one asks what a single
check gives, for any table at all, also one that was never initialized. It does not use the
invariants of that module.

## Main results

* `unlocks_checkAchievements_iff`: what a check unlocks, for any table.
* `exists_checkCategory_iff`, `unlocks_savings_iff`: the achievements that stand for something
  else than a count of rows.
* `savingsEarned_iff`: when the savings achievement was earned.
-/

namespace SpendCraft

open Kotlin AchievementManagerImpl BudgetRepositoryImpl

/-! ### The row under a name -/

/-- Whether the row that is found under the name is unlocked. -/
def Achievements.isUnlocked (name : Text) (achievements : Achievements) : Bool :=
  (AchievementDao.getAchievementByName name achievements).any AchievementEntity.isUnlocked

/-- The row of the name is there and locked. -/
def Achievements.IsLocked (name : Text) (achievements : Achievements) : Prop :=
  ∃ row, AchievementDao.getAchievementByName name achievements = some row ∧
    row.isUnlocked = false

/-- A check unlocks the achievement of the name. -/
def Unlocks (name : Text) (before after : Achievements) : Prop :=
  before.isUnlocked name = false ∧ after.isUnlocked name = true

section Rows

variable {achievements : Achievements} {name : Text}

/-- The row of a name is one of the table and has the name. -/
theorem getAchievementByName_eq_some {row : AchievementEntity}
    (h : AchievementDao.getAchievementByName name achievements = some row) :
    row ∈ achievements.rows ∧ row.name = name := by
  rw [AchievementDao.getAchievementByName] at h
  have hfound := List.find?_some h
  exact ⟨List.mem_of_find?_eq_some h, beq_iff_eq.mp hfound⟩

/-- Writing to a row keeps the names, so that the same row is found as before. -/
theorem getAchievementByName_writeProgress {achievement : AchievementEntity}
    (progress maxProgress : Int32) (currentTimeMillis : ℤ) :
    AchievementDao.getAchievementByName name
        (writeProgress achievement progress maxProgress currentTimeMillis achievements) =
      (AchievementDao.getAchievementByName name achievements).map fun row =>
        if row.id = achievement.id then
          { row with
            progress := (written progress maxProgress currentTimeMillis achievement).progress
            isUnlocked := (written progress maxProgress currentTimeMillis achievement).isUnlocked
            unlockedAt := (written progress maxProgress currentTimeMillis achievement).unlockedAt }
        else row := by
  rw [AchievementDao.getAchievementByName, writeProgress, AchievementDao.updateAchievement,
    Relational.Table.rows_updateSet, List.find?_map, AchievementDao.getAchievementByName]
  congr 2
  funext row
  rw [Function.comp_apply]
  split_ifs <;> rfl

/-- **One update.** The row under a name is written if the call is for that name, and is
the same row otherwise. -/
theorem getAchievementByName_updateAchievementProgress (call : ProgressUpdate)
    (currentTimeMillis : ℤ) :
    AchievementDao.getAchievementByName name
        (updateAchievementProgress call currentTimeMillis achievements) =
      (AchievementDao.getAchievementByName name achievements).map fun row =>
        if row.name = call.achievementName then
          written call.progress call.maxProgress currentTimeMillis row
        else row := by
  rw [updateAchievementProgress]
  rcases hcall : AchievementDao.getAchievementByName call.achievementName achievements with
    _ | achievement
  · rcases hrow : AchievementDao.getAchievementByName name achievements with _ | row
    · rfl
    · have hne : row.name ≠ call.achievementName := by
        intro heq
        rw [← heq, (getAchievementByName_eq_some hrow).2, hrow] at hcall
        cases hcall
      rw [Option.map_some, if_neg hne]
  · obtain ⟨hmem, hname⟩ := getAchievementByName_eq_some hcall
    dsimp only
    rw [getAchievementByName_writeProgress]
    rcases hrow : AchievementDao.getAchievementByName name achievements with _ | row
    · rfl
    · obtain ⟨hrow_mem, hrow_name⟩ := getAchievementByName_eq_some hrow
      by_cases heq : row.name = call.achievementName
      · obtain rfl : row = achievement := by
          rw [hrow_name] at heq
          rw [← heq, hrow] at hcall
          exact Option.some.inj hcall
        rw [Option.map_some, Option.map_some, if_pos rfl, if_pos heq]
        rfl
      · have hid : row.id ≠ achievement.id := by
          intro hid
          rw [List.inj_on_of_nodup_map achievements.nodup_keys hrow_mem hmem hid] at heq
          exact heq hname
        rw [Option.map_some, Option.map_some, if_neg hid, if_neg heq]

/-- A sequence of updates writes to the row under a name what its calls say. -/
theorem getAchievementByName_foldl (currentTimeMillis : ProgressUpdate → ℤ)
    (calls : List ProgressUpdate) :
    AchievementDao.getAchievementByName name
        (calls.foldl (fun achievements call =>
          updateAchievementProgress call (currentTimeMillis call) achievements) achievements) =
      (AchievementDao.getAchievementByName name achievements).map
        (writtenAll currentTimeMillis calls) := by
  induction calls generalizing achievements with
  | nil => exact Option.map_id'.symm
  | cons call calls ih =>
      rw [List.foldl_cons, ih, getAchievementByName_updateAchievementProgress, Option.map_map]
      rfl

/-- A sequence of calls for different achievements unlocks a row just when the call for it
reaches the maximum. -/
theorem writtenAll_unlocks_iff {currentTimeMillis : ProgressUpdate → ℤ}
    {calls : List ProgressUpdate} (hnodup : (calls.map ProgressUpdate.achievementName).Nodup)
    {row : AchievementEntity} (hlocked : row.isUnlocked = false) :
    (writtenAll currentTimeMillis calls row).isUnlocked = true ↔
      ∃ call ∈ calls, call.achievementName = row.name ∧ call.maxProgress ≤ call.progress := by
  induction calls with
  | nil => simp [writtenAll, hlocked]
  | cons call calls ih =>
      obtain ⟨hcall, hcalls⟩ := List.nodup_cons.mp hnodup
      rw [List.exists_mem_cons_iff]
      by_cases hname : call.achievementName = row.name
      · obtain ⟨hothers, hwritten⟩ := writtenAll_cons_of_eq hcall hname
        rw [hwritten, written, decide_eq_true_iff]
        constructor
        · exact fun hle => Or.inl ⟨hname, hle⟩
        · rintro (⟨-, hle⟩ | ⟨c, hc, heq, -⟩)
          · exact hle
          · exact absurd heq (hothers c hc)
      · rw [writtenAll_cons_of_ne hname, ih hcalls]
        constructor
        · exact Or.inr
        · rintro (⟨heq, -⟩ | h)
          · exact absurd heq hname
          · exact h

/-- **What a check unlocks**: a locked row for which it makes a call that reaches the
maximum. -/
theorem unlocks_checkAchievements_iff (name : Text) (now : ℤ)
    (currentTimeMillis : ProgressUpdate → ℤ) (db : Database) (achievements : Achievements) :
    Unlocks name achievements (checkAchievements now currentTimeMillis db achievements) ↔
      achievements.IsLocked name ∧
        ∃ call ∈ checkUpdates now db, call.achievementName = name ∧
          call.maxProgress ≤ call.progress := by
  rw [Unlocks, Achievements.isUnlocked, Achievements.isUnlocked, checkAchievements,
    getAchievementByName_foldl, Achievements.IsLocked]
  rcases hrow : AchievementDao.getAchievementByName name achievements with _ | row
  · simp
  · have hname := (getAchievementByName_eq_some hrow).2
    simp only [Option.map_some, Option.any_some, Option.some.injEq, exists_eq_left']
    refine and_congr_right fun hlocked => ?_
    rw [writtenAll_unlocks_iff (nodup_checkUpdates now db) hlocked, hname]

end Rows

/-! ### The calls for one achievement -/

section Calls

variable {name : Text} (now : ℤ) (db : Database)

/-- The calls under a name that is none of the counts, the streaks and the first budget. -/
theorem exists_checkUpdates_iff
    (hcounts : name ∉ ["İlk Adım".toList, "İşlem Ustası".toList, "Süper İzleyici".toList])
    (hstreaks : name ∉ ["Hafta Savaşçısı".toList, "Aylık Şampiyon".toList])
    (hbudget : name ≠ "Bütçe Planlayıcısı".toList) {P : ProgressUpdate → Prop} :
    (∃ call ∈ checkUpdates now db, call.achievementName = name ∧ P call) ↔
      (∃ call ∈ checkCategoryAchievements
          ((TxDao.getAllAscending db).map TransactionMapper.fromEntity),
        call.achievementName = name ∧ P call) ∨
      ∃ call ∈ checkSavingsAchievements (BudgetDao.getAllAscending db),
        call.achievementName = name ∧ P call := by
  rw [checkUpdates]
  generalize (TxDao.getAllAscending db).map TransactionMapper.fromEntity = transactions
  constructor
  · rintro ⟨call, hmem, rfl, hcall⟩
    rw [List.mem_append, List.mem_append, List.mem_append, List.mem_append] at hmem
    rcases hmem with (((hcount | hstreak) | hfirst) | hcategory) | hsavings
    · have hcolumn := (columns_checkTransactionCountAchievements transactions.length).subset
        (List.mem_map_of_mem hcount)
      exact absurd (List.mem_map_of_mem (f := Prod.fst) hcolumn) hcounts
    · have hcolumn := List.mem_map_of_mem (f := ProgressUpdate.column) hstreak
      rw [columns_checkStreakAchievements] at hcolumn
      exact absurd (List.mem_map_of_mem (f := Prod.fst) hcolumn) hstreaks
    · rw [checkBudgetAchievements] at hfirst
      split_ifs at hfirst
      · obtain rfl := List.mem_singleton.mp hfirst
        exact absurd rfl hbudget
      · exact absurd hfirst List.not_mem_nil
    · exact Or.inl ⟨call, hcategory, rfl, hcall⟩
    · exact Or.inr ⟨call, hsavings, rfl, hcall⟩
  · rintro (⟨call, hmem, hcall⟩ | ⟨call, hmem, hcall⟩)
    · exact ⟨call, by simp [hmem], hcall⟩
    · exact ⟨call, by simp [hmem], hcall⟩

/-- The call for the categories is made at every check. -/
theorem exists_checkCategory_iff :
    (∃ call ∈ checkUpdates now db, call.achievementName = "Kategori Uzmanı".toList ∧
        call.maxProgress ≤ call.progress) ↔
      5 ≤ uniqueCategories ((TxDao.getAllAscending db).map TransactionMapper.fromEntity) := by
  rw [exists_checkUpdates_iff now db (by decide) (by decide) (by decide)]
  generalize (TxDao.getAllAscending db).map TransactionMapper.fromEntity = transactions
  have hle : (5 : Int32) ≤ Int32.ofNat (min (uniqueCategories transactions) 5) ↔
      5 ≤ min (uniqueCategories transactions) 5 :=
    Int32.ofNat_le_iff_le (by decide) (by omega)
  constructor
  · rintro (⟨call, hmem, -, hreached⟩ | ⟨call, hmem, hname, -⟩)
    · rw [checkCategoryAchievements, List.mem_singleton] at hmem
      subst hmem
      have hfive := hle.mp hreached
      omega
    · rw [checkSavingsAchievements] at hmem
      split_ifs at hmem
      · obtain rfl := List.mem_singleton.mp hmem
        exact absurd hname (by decide)
      · exact absurd hmem List.not_mem_nil
  · intro hfive
    exact Or.inl ⟨_, List.mem_singleton_self _, rfl, hle.mpr (by omega)⟩

/-- The call for the savings is made whenever there is a budget. -/
theorem exists_checkSavings_iff :
    (∃ call ∈ checkUpdates now db, call.achievementName = "Tasarruf Ustası".toList ∧
        call.maxProgress ≤ call.progress) ↔ BudgetDao.getAllAscending db ≠ [] := by
  rw [exists_checkUpdates_iff now db (by decide) (by decide) (by decide),
    checkSavingsAchievements]
  constructor
  · rintro (⟨call, hmem, hname, -⟩ | ⟨call, hmem, -, -⟩)
    · obtain rfl := List.mem_singleton.mp hmem
      have hne : "Kategori Uzmanı".toList ≠ "Tasarruf Ustası".toList := by decide
      exact absurd hname hne
    · split_ifs at hmem with hbudgets
      · simpa using hbudgets
      · exact absurd hmem List.not_mem_nil
  · intro hbudgets
    refine Or.inr ⟨⟨"Tasarruf Ustası".toList, 1, 1⟩, ?_, rfl, Int32.le_refl _⟩
    rw [if_pos (by simpa using hbudgets)]
    exact List.mem_singleton_self _

end Calls

/-! ### The savings achievement -/

/-- What `checkBudgetBreaches` finds to be spent of a budget is no more than its limit. -/
def BudgetEntity.Respected (now : ℤ) (db : Database) (budget : BudgetEntity) : Prop :=
  spentAmount (Call.snapshotOf now db) budget.categoryId ≤ budget.monthlyLimitMinor

/-- There is a budget, and all budgets are respected. -/
def SavingsEarned (now : ℤ) (db : Database) : Prop :=
  BudgetDao.getAllAscending db ≠ [] ∧
    ∀ budget ∈ BudgetDao.getAllAscending db, budget.Respected now db

section Savings

variable (now : ℤ) (currentTimeMillis : ProgressUpdate → ℤ) (db : Database)
  (achievements : Achievements)

/-- The achievement for savings is unlocked as soon as there is any budget: the loop over the
budgets is empty. -/
theorem unlocks_savings_iff :
    Unlocks "Tasarruf Ustası".toList achievements
        (checkAchievements now currentTimeMillis db achievements) ↔
      achievements.IsLocked "Tasarruf Ustası".toList ∧ BudgetDao.getAllAscending db ≠ [] := by
  rw [unlocks_checkAchievements_iff, exists_checkSavings_iff]

/-- **The savings achievement** is unlocked by having a budget, so that it was earned just
when it was not locked any more or every budget is respected. -/
theorem savingsEarned_iff :
    (Unlocks "Tasarruf Ustası".toList achievements
        (checkAchievements now currentTimeMillis db achievements) → SavingsEarned now db) ↔
      (achievements.IsLocked "Tasarruf Ustası".toList →
        ∀ budget ∈ BudgetDao.getAllAscending db, budget.Respected now db) := by
  rw [unlocks_savings_iff, SavingsEarned]
  constructor
  · intro hearned hlocked budget hbudget
    exact (hearned ⟨hlocked, List.ne_nil_of_mem hbudget⟩).2 budget hbudget
  · rintro hrespected ⟨hlocked, hbudgets⟩
    exact ⟨hbudgets, hrespected hlocked⟩

end Savings

/-- A check in a month in which the rent exceeds its budget. -/
theorem not_savingsEarned_exceeded :
    ¬ (Unlocks "Tasarruf Ustası".toList (initializeAchievements (Relational.Table.empty _))
          (checkAchievements 0 (fun _ => 0) Call.twoExceeded
            (initializeAchievements (Relational.Table.empty _))) →
        SavingsEarned 0 Call.twoExceeded) := by
  intro hearned
  have hunlocks := (unlocks_savings_iff 0 (fun _ => 0) Call.twoExceeded
    (initializeAchievements (Relational.Table.empty _))).mpr
      ⟨⟨_, rfl, rfl⟩, List.cons_ne_nil _ _⟩
  have hrent := (hearned hunlocks).2 { categoryId := "Rent".toList, monthlyLimitMinor := 600 }
    (by decide)
  rw [BudgetEntity.Respected] at hrent
  exact absurd hrent (by decide)

end SpendCraft
