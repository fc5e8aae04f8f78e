import SpendCraft.Repositories
import SpendCraft.Streaks

/-!
# Achievements

`AchievementManagerImpl` recomputes every achievement from the stored data:
`checkAchievements` writes progress and lock state of a row afresh, whatever they were.
The counts and the budget achievements are written only when they are reached; the
streaks and the categories are written at every check.

A check is the sequence of its calls of `updateAchievementProgress`.

## Conventions

The table is keyed by its id, and an update finds its row by the name, the first one if there are
several. Progress is an `Int32`, whose sums wrap. The clock of a check is a function from its
calls to times, since each of them reads it again. The store that a check reads changes between
the events by the operations of `Repositories`.

The initial rows are inserted at every start of the app, and rows that are there already are left.

## Proof

A sequence of updates is followed row by row (`writtenAll`): a row is written by the calls for its
name and by no others, so that a check is judged by the calls it makes. The invariant
`Initialized` says that the rows are the initial ones and that what is unlocked was reached. With
that, an unlocked row is lost exactly by a check at which its count is no longer reached, or by an
increment whose sum overflows: `StillReached`.

## Main results

* `keepsUnlocked_progressUpdates_iff`: what a sequence of updates takes away.
* `keepsUnlocked_step_iff`: which events keep every unlocked achievement.
* `unlockedForever_iff`: the same for the runs.
-/

namespace SpendCraft

open Kotlin Relational Machine

/-! ### The table -/

/-- The categories an achievement is listed under. -/
inductive AchievementCategory
  | spending
  | saving
  | budget
  | streak
  | category
  | special
  deriving DecidableEq, Repr

/-- A row of the table `achievements`. -/
structure AchievementEntity where
  id : ℤ
  name : Text
  description : Text
  icon : Text
  points : Int32
  category : AchievementCategory
  isUnlocked : Bool
  unlockedAt : Option ℤ
  progress : Int32
  maxProgress : Int32
  deriving DecidableEq, Repr

/-- The table of achievements, keyed by its id. -/
abbrev Achievements := Table AchievementEntity.id

namespace AchievementDao

/-- `getAchievementById`: the row of an id. -/
def getAchievementById (id : ℤ) (achievements : Achievements) : Option AchievementEntity :=
  achievements.rows.find? fun row => row.id == id

/-- `getAchievementByName`: the first row of a name. -/
def getAchievementByName (name : Text) (achievements : Achievements) :
    Option AchievementEntity :=
  achievements.rows.find? fun row => row.name == name

/-- `@Insert(onConflict = REPLACE)`. -/
def insertAchievement (achievement : AchievementEntity) (achievements : Achievements) :
    Achievements :=
  achievements.insertOrReplace achievement

/-- `UPDATE achievements SET progress = …, isUnlocked = …, unlockedAt = … WHERE id = :id`. -/
def updateAchievement (id : ℤ) (progress : Int32) (isUnlocked : Bool) (unlockedAt : Option ℤ)
    (achievements : Achievements) : Achievements :=
  achievements.updateSet
    (fun row =>
      if row.id = id then
        { row with progress := progress, isUnlocked := isUnlocked, unlockedAt := unlockedAt }
      else row)
    (by
      intro row
      split_ifs
      · rfl
      · rfl)

end AchievementDao

namespace AchievementManagerImpl

/-- The eight rows that the app inserts at its start. -/
def initialAchievements : List AchievementEntity :=
  [ { id := 1, name := "İlk Adım".toList, description := "İlk işleminizi kaydedin".toList,
      icon := "🎯".toList, points := 10, category := .spending, isUnlocked := false,
      unlockedAt := none, progress := 0, maxProgress := 1 },
    { id := 2, name := "İşlem Ustası".toList, description := "10 işlem kaydedin".toList,
      icon := "📊".toList, points := 25, category := .spending, isUnlocked := false,
      unlockedAt := none, progress := 0, maxProgress := 10 },
    { id := 3, name := "Süper İzleyici".toList, description := "50 işlem kaydedin".toList,
      icon := "📈".toList, points := 50, category := .spending, isUnlocked := false,
      unlockedAt := none, progress := 0, maxProgress := 50 },
    { id := 4, name := "Hafta Savaşçısı".toList,
      description := "7 gün üst üste işlem kaydedin".toList,
      icon := "⚔️".toList, points := 75, category := .streak, isUnlocked := false,
      unlockedAt := none, progress := 0, maxProgress := 7 },
    { id := 5, name := "Aylık Şampiyon".toList,
      description := "30 gün üst üste işlem kaydedin".toList,
      icon := "🏆".toList, points := 150, category := .streak, isUnlocked := false,
      unlockedAt := none, progress := 0, maxProgress := 30 },
    { id := 6, name := "Bütçe Planlayıcısı".toList,
      description := "İlk bütçenizi oluşturun".toList,
      icon := "📊".toList, points := 30, category := .budget, isUnlocked := false,
      unlockedAt := none, progress := 0, maxProgress := 1 },
    { id := 7, name := "Kategori Uzmanı".toList,
      description := "5 farklı kategoride işlem yapın".toList,
      icon := "🏷️".toList, points := 40, category := .category, isUnlocked := false,
      unlockedAt := none, progress := 0, maxProgress := 5 },
    { id := 8, name := "Tasarruf Ustası".toList,
      description := "Bir ay boyunca bütçenizi aşmayın".toList,
      icon := "💰".toList, points := 100, category := .saving, isUnlocked := false,
      unlockedAt := none, progress := 0, maxProgress := 1 } ]

/-- `initializeAchievements`: a row is inserted unless its id is taken. -/
def initializeAchievements (achievements : Achievements) : Achievements :=
  initialAchievements.foldl
    (fun achievements achievement =>
      if (AchievementDao.getAchievementById achievement.id achievements).isNone then
        AchievementDao.insertAchievement achievement achievements
      else achievements) achievements

/-! ### Updates -/

/-- The write that both update functions end with. -/
def writeProgress (achievement : AchievementEntity) (progress maxProgress : Int32)
    (currentTimeMillis : ℤ) (achievements : Achievements) : Achievements :=
  let isUnlocked := decide (maxProgress ≤ progress)
  let unlockedAt :=
    if isUnlocked && !achievement.isUnlocked then some currentTimeMillis
    else achievement.unlockedAt
  AchievementDao.updateAchievement achievement.id progress isUnlocked unlockedAt achievements

/-- A call of `updateAchievementProgress`. -/
structure ProgressUpdate where
  achievementName : Text
  progress : Int32
  maxProgress : Int32
  deriving DecidableEq, Repr

/-- `currentTimeMillis` is the time at which the call reads the clock. -/
def updateAchievementProgress (call : ProgressUpdate) (currentTimeMillis : ℤ)
    (achievements : Achievements) : Achievements :=
  match AchievementDao.getAchievementByName call.achievementName achievements with
  | some achievement =>
      writeProgress achievement call.progress call.maxProgress currentTimeMillis achievements
  | none => achievements

/-- `incrementAchievement`: the progress grows by an `Int` sum and is cut at the maximum. -/
def incrementAchievement (achievementName : Text) (progress : Int32) (currentTimeMillis : ℤ)
    (achievements : Achievements) : Achievements :=
  match AchievementDao.getAchievementByName achievementName achievements with
  | some achievement =>
      writeProgress achievement (min (achievement.progress + progress) achievement.maxProgress)
        achievement.maxProgress currentTimeMillis achievements
  | none => achievements

/-! ### Checks -/

/-- `checkTransactionCountAchievements`: an update is made only once its count is reached. -/
def checkTransactionCountAchievements (transactionCount : ℕ) : List ProgressUpdate :=
  (if 1 ≤ transactionCount then [⟨"İlk Adım".toList, 1, 1⟩] else []) ++
    (if 10 ≤ transactionCount then [⟨"İşlem Ustası".toList, 10, 10⟩] else []) ++
    (if 50 ≤ transactionCount then [⟨"Süper İzleyici".toList, 50, 50⟩] else [])

/-- `checkStreakAchievements`: an update for both streaks in any case, with the current streak
where the maximum is not reached. -/
def checkStreakAchievements (now : ℤ) (transactions : List Transaction) : List ProgressUpdate :=
  let currentStreak := calculateCurrentStreak now transactions
  [if 7 ≤ currentStreak then ⟨"Hafta Savaşçısı".toList, 7, 7⟩
    else ⟨"Hafta Savaşçısı".toList, Int32.ofNat currentStreak, 7⟩,
   if 30 ≤ currentStreak then ⟨"Aylık Şampiyon".toList, 30, 30⟩
    else ⟨"Aylık Şampiyon".toList, Int32.ofNat currentStreak, 30⟩]

/-- `checkBudgetAchievements`: one budget is enough. -/
def checkBudgetAchievements (hasBudget : Bool) : List ProgressUpdate :=
  if hasBudget then [⟨"Bütçe Planlayıcısı".toList, 1, 1⟩] else []

/-- `transactions.mapNotNull { it.categoryId }.distinct().size`. -/
def uniqueCategories (transactions : List Transaction) : ℕ :=
  (transactions.filterMap Transaction.categoryId).dedup.length

/-- `checkCategoryAchievements`: the number of categories in use, up to five. -/
def checkCategoryAchievements (transactions : List Transaction) : List ProgressUpdate :=
  let progress := min (uniqueCategories transactions) 5
  [⟨"Kategori Uzmanı".toList, Int32.ofNat progress, 5⟩]

/-- The loop over the budgets compares nothing, so a budget is always respected. -/
def checkSavingsAchievements (budgets : List BudgetEntity) : List ProgressUpdate :=
  let budgetRespected := true
  if budgetRespected && !budgets.isEmpty then [⟨"Tasarruf Ustası".toList, 1, 1⟩] else []

/-- The calls of a check, in order. -/
def checkUpdates (now : ℤ) (db : Database) : List ProgressUpdate :=
  let transactions := (TxDao.getAllAscending db).map TransactionMapper.fromEntity
  let budgets := BudgetDao.getAllAscending db
  checkTransactionCountAchievements transactions.length ++
    checkStreakAchievements now transactions ++
    checkBudgetAchievements (!budgets.isEmpty) ++
    checkCategoryAchievements transactions ++
    checkSavingsAchievements budgets

/-- A check at the time `now`; `currentTimeMillis` gives the time of each update. -/
def checkAchievements (now : ℤ) (currentTimeMillis : ProgressUpdate → ℤ) (db : Database)
    (achievements : Achievements) : Achievements :=
  (checkUpdates now db).foldl
    (fun achievements call => updateAchievementProgress call (currentTimeMillis call) achievements)
    achievements

end AchievementManagerImpl

open AchievementManagerImpl

/-! ### One update, row by row -/

/-- The row that an update makes of a row. -/
def written (progress maxProgress : Int32) (currentTimeMillis : ℤ) (row : AchievementEntity) :
    AchievementEntity :=
  let isUnlocked := decide (maxProgress ≤ progress)
  { row with
    progress := progress
    isUnlocked := isUnlocked
    unlockedAt :=
      if isUnlocked && !row.isUnlocked then some currentTimeMillis else row.unlockedAt }

/-- The columns of the initial rows that no update changes. -/
def nameAndMax (row : AchievementEntity) : Text × Int32 :=
  (row.name, row.maxProgress)

/-- No two achievements share a name. -/
theorem nodup_initialNames : (initialAchievements.map AchievementEntity.name).Nodup := by decide

/-- The rows are those of the initial achievements, and what is unlocked was reached. -/
structure Initialized (achievements : Achievements) : Prop where
  columns_eq : achievements.rows.map nameAndMax = initialAchievements.map nameAndMax
  reached : ∀ row ∈ achievements.rows, row.isUnlocked = true → row.maxProgress ≤ row.progress

section Rows

variable {achievements : Achievements}

/-- The names stay distinct, as no operation changes them. -/
theorem Initialized.nodup_names (h : Initialized achievements) :
    (achievements.rows.map AchievementEntity.name).Nodup := by
  have heq : achievements.rows.map AchievementEntity.name =
      initialAchievements.map AchievementEntity.name := by
    have hfst := congrArg (List.map Prod.fst) h.columns_eq
    rw [List.map_map, List.map_map] at hfst
    exact hfst
  rw [heq]
  exact nodup_initialNames

/-- A row of an initialised table has the name and the maximum of an initial row. -/
theorem Initialized.mem_columns (h : Initialized achievements) {row : AchievementEntity}
    (hrow : row ∈ achievements.rows) : nameAndMax row ∈ initialAchievements.map nameAndMax := by
  rw [← h.columns_eq]
  exact List.mem_map_of_mem hrow

/-- The columns of the initial rows are determined by the name. -/
theorem maxProgress_unique {name : Text} {m n : Int32}
    (hm : (name, m) ∈ initialAchievements.map nameAndMax)
    (hn : (name, n) ∈ initialAchievements.map nameAndMax) : m = n := by
  have hnodup : ((initialAchievements.map nameAndMax).map Prod.fst).Nodup := by
    rw [List.map_map]
    exact nodup_initialNames
  have heq := List.inj_on_of_nodup_map hnodup hm hn rfl
  exact congrArg Prod.snd heq

/-- **One write.** An update looks up a row by its name and writes to that row only. -/
theorem rows_writeProgress_byName (hnames : (achievements.rows.map AchievementEntity.name).Nodup)
    (name : Text) (progress maxProgress : AchievementEntity → Int32) (currentTimeMillis : ℤ) :
    (match AchievementDao.getAchievementByName name achievements with
      | some achievement =>
          writeProgress achievement (progress achievement) (maxProgress achievement)
            currentTimeMillis achievements
      | none => achievements).rows =
      achievements.rows.map fun row =>
        if row.name = name then written (progress row) (maxProgress row) currentTimeMillis row
        else row := by
  cases hfind : AchievementDao.getAchievementByName name achievements with
  | none =>
      rw [AchievementDao.getAchievementByName, List.find?_eq_none] at hfind
      refine (List.map_id achievements.rows).symm.trans (List.map_congr_left fun row hrow => ?_)
      have hne := hfind row hrow
      rw [beq_iff_eq] at hne
      rw [if_neg hne, id]
  | some achievement =>
      rw [AchievementDao.getAchievementByName] at hfind
      have hmem := List.mem_of_find?_eq_some hfind
      have hfound := List.find?_some hfind
      have hname : achievement.name = name := beq_iff_eq.mp hfound
      refine List.map_congr_left fun row hrow => ?_
      by_cases heq : row.name = name
      · obtain rfl : row = achievement :=
          List.inj_on_of_nodup_map hnames hrow hmem (heq.trans hname.symm)
        rw [if_pos rfl, if_pos heq]
        rfl
      · have hne : row.id ≠ achievement.id := by
          intro hid
          rw [List.inj_on_of_nodup_map achievements.nodup_keys hrow hmem hid] at heq
          exact heq hname
        rw [if_neg hne, if_neg heq]

/-- An update writes the row of its name and leaves the others alone. -/
theorem rows_updateAchievementProgress
    (hnames : (achievements.rows.map AchievementEntity.name).Nodup) (call : ProgressUpdate)
    (currentTimeMillis : ℤ) :
    (updateAchievementProgress call currentTimeMillis achievements).rows =
      achievements.rows.map fun row =>
        if row.name = call.achievementName then
          written call.progress call.maxProgress currentTimeMillis row
        else row :=
  rows_writeProgress_byName hnames call.achievementName (fun _ => call.progress)
    (fun _ => call.maxProgress) currentTimeMillis

/-- An increment does the same with the cut sum. -/
theorem rows_incrementAchievement
    (hnames : (achievements.rows.map AchievementEntity.name).Nodup) (name : Text)
    (progress : Int32) (currentTimeMillis : ℤ) :
    (incrementAchievement name progress currentTimeMillis achievements).rows =
      achievements.rows.map fun row =>
        if row.name = name then
          written (min (row.progress + progress) row.maxProgress) row.maxProgress
            currentTimeMillis row
        else row :=
  rows_writeProgress_byName hnames name (fun row => min (row.progress + progress) row.maxProgress)
    AchievementEntity.maxProgress currentTimeMillis

/-- A write under a matching name keeps the table initialized. -/
theorem Initialized.of_written (h : Initialized achievements) {after : Achievements} {name : Text}
    {progress maxProgress : AchievementEntity → Int32} {currentTimeMillis : ℤ}
    (hrows : after.rows = achievements.rows.map fun row =>
      if row.name = name then written (progress row) (maxProgress row) currentTimeMillis row
      else row)
    (hmax : ∀ row ∈ achievements.rows, row.name = name → maxProgress row = row.maxProgress) :
    Initialized after := by
  refine ⟨?_, ?_⟩
  · rw [hrows, List.map_map, ← h.columns_eq]
    refine List.map_congr_left fun row _ => ?_
    rw [Function.comp_apply]
    split_ifs
    · rfl
    · rfl
  · intro row' hrow' hunlocked
    rw [hrows] at hrow'
    obtain ⟨row, hrow, rfl⟩ := List.mem_map.mp hrow'
    by_cases heq : row.name = name
    · rw [if_pos heq] at hunlocked ⊢
      have hreached : maxProgress row ≤ progress row := of_decide_eq_true hunlocked
      rwa [hmax row hrow heq] at hreached
    · rw [if_neg heq] at hunlocked ⊢
      exact h.reached row hrow hunlocked

end Rows

/-! ### What is kept -/

/-- Every unlocked achievement is still unlocked afterwards, since the same time. -/
def KeepsUnlocked (before after : Achievements) : Prop :=
  ∀ row ∈ before.rows, row.isUnlocked = true → ∃ row' ∈ after.rows,
    row'.id = row.id ∧ row'.isUnlocked = true ∧ row'.unlockedAt = row.unlockedAt

/-- Nothing done keeps what is unlocked. -/
theorem KeepsUnlocked.refl (achievements : Achievements) :
    KeepsUnlocked achievements achievements :=
  fun row hrow hunlocked => ⟨row, hrow, rfl, hunlocked, rfl⟩

/-- Keeping what is unlocked composes. -/
theorem KeepsUnlocked.trans {a b c : Achievements} (hab : KeepsUnlocked a b)
    (hbc : KeepsUnlocked b c) : KeepsUnlocked a c := by
  intro row hrow hunlocked
  obtain ⟨row', hrow', hid, hunlocked', hat⟩ := hab row hrow hunlocked
  obtain ⟨row'', hrow'', hid', hunlocked'', hat'⟩ := hbc row' hrow' hunlocked'
  exact ⟨row'', hrow'', hid'.trans hid, hunlocked'', hat'.trans hat⟩

/-- Where the rows are rewritten one by one, each row has to keep its own lock. -/
theorem keepsUnlocked_map_iff {before after : Achievements}
    {g : AchievementEntity → AchievementEntity} (hrows : after.rows = before.rows.map g)
    (hid : ∀ row, (g row).id = row.id) :
    KeepsUnlocked before after ↔ ∀ row ∈ before.rows, row.isUnlocked = true →
      (g row).isUnlocked = true ∧ (g row).unlockedAt = row.unlockedAt := by
  rw [KeepsUnlocked, hrows]
  constructor
  · intro h row hrow hunlocked
    obtain ⟨row', hrow', hidr, hkept⟩ := h row hrow hunlocked
    obtain ⟨row₀, hrow₀, rfl⟩ := List.mem_map.mp hrow'
    rw [hid] at hidr
    rwa [List.inj_on_of_nodup_map before.nodup_keys hrow₀ hrow hidr] at hkept
  · intro h row hrow hunlocked
    exact ⟨g row, List.mem_map_of_mem hrow, hid row, h row hrow hunlocked⟩

/-- A write to an unlocked row keeps the lock just when the progress is still enough. -/
theorem written_kept_iff {row : AchievementEntity} (hunlocked : row.isUnlocked = true)
    (progress maxProgress : Int32) (currentTimeMillis : ℤ) :
    ((written progress maxProgress currentTimeMillis row).isUnlocked = true ∧
        (written progress maxProgress currentTimeMillis row).unlockedAt = row.unlockedAt) ↔
      maxProgress ≤ progress := by
  rw [written]
  simp only [decide_eq_true_eq, hunlocked, Bool.not_true, Bool.and_false, Bool.false_eq_true,
    if_false, and_true]

/-- The updates of a row by a sequence of calls. -/
def writtenAll (currentTimeMillis : ProgressUpdate → ℤ) (calls : List ProgressUpdate)
    (row : AchievementEntity) : AchievementEntity :=
  calls.foldl
    (fun row call =>
      if row.name = call.achievementName then
        written call.progress call.maxProgress (currentTimeMillis call) row
      else row) row

section Calls

variable {currentTimeMillis : ProgressUpdate → ℤ} {calls : List ProgressUpdate}

/-- A round of updates leaves ids and names alone. -/
theorem writtenAll_columns (row : AchievementEntity) :
    (writtenAll currentTimeMillis calls row).id = row.id ∧
      (writtenAll currentTimeMillis calls row).name = row.name := by
  rw [writtenAll]
  induction calls generalizing row with
  | nil => exact ⟨rfl, rfl⟩
  | cons call calls ih =>
      rw [List.foldl_cons]
      obtain ⟨hid, hname⟩ := ih (if row.name = call.achievementName then
        written call.progress call.maxProgress (currentTimeMillis call) row else row)
      rw [hid, hname]
      split_ifs
      · exact ⟨rfl, rfl⟩
      · exact ⟨rfl, rfl⟩

/-- Calls for other achievements leave a row alone. -/
theorem writtenAll_of_ne {row : AchievementEntity}
    (h : ∀ call ∈ calls, call.achievementName ≠ row.name) :
    writtenAll currentTimeMillis calls row = row := by
  rw [writtenAll]
  induction calls with
  | nil => rfl
  | cons call calls ih =>
      rw [List.foldl_cons, if_neg (Ne.symm (h call List.mem_cons_self))]
      exact ih fun c hc => h c (List.mem_cons_of_mem call hc)

/-- A call for another achievement leaves a row alone. -/
theorem writtenAll_cons_of_ne {call : ProgressUpdate} {row : AchievementEntity}
    (h : call.achievementName ≠ row.name) :
    writtenAll currentTimeMillis (call :: calls) row = writtenAll currentTimeMillis calls row := by
  rw [writtenAll, List.foldl_cons, if_neg (Ne.symm h)]
  rfl

/-- The call for an achievement is the only one that writes its row, where the calls are for
different ones. -/
theorem writtenAll_cons_of_eq {call : ProgressUpdate} {row : AchievementEntity}
    (hcall : call.achievementName ∉ calls.map ProgressUpdate.achievementName)
    (hname : call.achievementName = row.name) :
    (∀ c ∈ calls, c.achievementName ≠ row.name) ∧
      writtenAll currentTimeMillis (call :: calls) row =
        written call.progress call.maxProgress (currentTimeMillis call) row := by
  have hothers : ∀ c ∈ calls, c.achievementName ≠ row.name := by
    intro c hc heq
    exact hcall (List.mem_map.mpr ⟨c, hc, heq.trans hname.symm⟩)
  refine ⟨hothers, ?_⟩
  rw [writtenAll, List.foldl_cons, if_pos hname.symm]
  exact writtenAll_of_ne hothers

/-- A sequence of calls for different achievements keeps the lock of a row just when the
call for that row does. -/
theorem writtenAll_kept_iff (hnodup : (calls.map ProgressUpdate.achievementName).Nodup)
    {row : AchievementEntity} (hunlocked : row.isUnlocked = true) :
    ((writtenAll currentTimeMillis calls row).isUnlocked = true ∧
        (writtenAll currentTimeMillis calls row).unlockedAt = row.unlockedAt) ↔
      ∀ call ∈ calls, call.achievementName = row.name → call.maxProgress ≤ call.progress := by
  induction calls with
  | nil => exact iff_of_true ⟨hunlocked, rfl⟩ fun call hcall => absurd hcall List.not_mem_nil
  | cons call calls ih =>
      obtain ⟨hcall, hcalls⟩ := List.nodup_cons.mp hnodup
      rw [List.forall_mem_cons]
      by_cases hname : call.achievementName = row.name
      · obtain ⟨hothers, hwritten⟩ := writtenAll_cons_of_eq hcall hname
        rw [hwritten, written_kept_iff hunlocked]
        constructor
        · exact fun hle => ⟨fun _ => hle, fun c hc heq => absurd heq (hothers c hc)⟩
        · exact fun h => h.1 hname
      · rw [writtenAll_cons_of_ne hname, ih hcalls]
        exact ⟨fun h => ⟨fun heq => absurd heq hname, h⟩, And.right⟩

/-- A sequence of calls rewrites the rows one by one, and keeps the table initialized if
the calls go by the columns of the initial rows. -/
theorem foldl_updateAchievementProgress {achievements : Achievements}
    (h : Initialized achievements)
    (hcalls : ∀ call ∈ calls,
      (call.achievementName, call.maxProgress) ∈ initialAchievements.map nameAndMax) :
    Initialized (calls.foldl (fun achievements call =>
        updateAchievementProgress call (currentTimeMillis call) achievements) achievements) ∧
      (calls.foldl (fun achievements call =>
        updateAchievementProgress call (currentTimeMillis call) achievements) achievements).rows =
        achievements.rows.map (writtenAll currentTimeMillis calls) := by
  induction calls generalizing achievements with
  | nil => exact ⟨h, (List.map_id _).symm⟩
  | cons call calls ih =>
      have hrows := rows_updateAchievementProgress h.nodup_names call (currentTimeMillis call)
      have hinit : Initialized
          (updateAchievementProgress call (currentTimeMillis call) achievements) := by
        refine h.of_written hrows fun row hrow hname => ?_
        have hcolumns := h.mem_columns hrow
        rw [nameAndMax, hname] at hcolumns
        exact maxProgress_unique (hcalls call List.mem_cons_self) hcolumns
      obtain ⟨hafter, heq⟩ := ih hinit fun c hc => hcalls c (List.mem_cons_of_mem call hc)
      rw [List.foldl_cons]
      refine ⟨hafter, ?_⟩
      rw [heq, hrows, List.map_map]
      rfl

/-- **A sequence of updates** for different achievements keeps what is unlocked just when
each update of an unlocked achievement reaches its maximum. -/
theorem keepsUnlocked_progressUpdates_iff {achievements : Achievements}
    (h : Initialized achievements)
    (hcalls : ∀ call ∈ calls,
      (call.achievementName, call.maxProgress) ∈ initialAchievements.map nameAndMax)
    (hnodup : (calls.map ProgressUpdate.achievementName).Nodup) :
    KeepsUnlocked achievements (calls.foldl (fun achievements call =>
        updateAchievementProgress call (currentTimeMillis call) achievements) achievements) ↔
      ∀ row ∈ achievements.rows, row.isUnlocked = true → ∀ call ∈ calls,
        call.achievementName = row.name → call.maxProgress ≤ call.progress := by
  rw [keepsUnlocked_map_iff (foldl_updateAchievementProgress h hcalls).2
    fun row => (writtenAll_columns row).1]
  constructor
  · intro hkept row hrow hunlocked
    exact (writtenAll_kept_iff hnodup hunlocked).mp (hkept row hrow hunlocked)
  · intro hreached row hrow hunlocked
    exact (writtenAll_kept_iff hnodup hunlocked).mpr (hreached row hrow hunlocked)

end Calls

/-! ### The calls of a check -/

/-- The columns that a call goes by. -/
def AchievementManagerImpl.ProgressUpdate.column (call : ProgressUpdate) : Text × Int32 :=
  (call.achievementName, call.maxProgress)

/-- An update under a condition is one of at most one. -/
theorem columns_ite_sublist (c : Prop) [Decidable c] (call : ProgressUpdate) :
    ((if c then [call] else []).map ProgressUpdate.column).Sublist [call.column] := by
  split_ifs
  · exact List.Sublist.refl _
  · exact List.nil_sublist _

/-- The names and maxima of the updates on the number of transactions. -/
theorem columns_checkTransactionCountAchievements (transactionCount : ℕ) :
    ((checkTransactionCountAchievements transactionCount).map ProgressUpdate.column).Sublist
      ([("İlk Adım".toList, 1)] ++ [("İşlem Ustası".toList, 10)] ++
        [("Süper İzleyici".toList, 50)]) := by
  rw [checkTransactionCountAchievements, List.map_append, List.map_append]
  refine List.Sublist.append (List.Sublist.append ?_ ?_) ?_
  · exact columns_ite_sublist _ _
  · exact columns_ite_sublist _ _
  · exact columns_ite_sublist _ _

/-- The names and maxima of the updates on the streaks. -/
theorem columns_checkStreakAchievements (now : ℤ) (transactions : List Transaction) :
    (checkStreakAchievements now transactions).map ProgressUpdate.column =
      [("Hafta Savaşçısı".toList, 7), ("Aylık Şampiyon".toList, 30)] := by
  rw [checkStreakAchievements, List.map_cons, List.map_cons, List.map_nil]
  refine List.cons_eq_cons.mpr ⟨?_, List.cons_eq_cons.mpr ⟨?_, rfl⟩⟩
  · split_ifs
    · rfl
    · rfl
  · split_ifs
    · rfl
    · rfl

/-- The calls of a check go by the columns of the initial achievements, in their order. -/
theorem columns_checkUpdates_sublist (now : ℤ) (db : Database) :
    ((checkUpdates now db).map ProgressUpdate.column).Sublist
      (initialAchievements.map nameAndMax) := by
  rw [checkUpdates]
  generalize (TxDao.getAllAscending db).map TransactionMapper.fromEntity = transactions
  have hcount := columns_checkTransactionCountAchievements transactions.length
  have hbudget : ((checkBudgetAchievements !(BudgetDao.getAllAscending db).isEmpty).map
      ProgressUpdate.column).Sublist [("Bütçe Planlayıcısı".toList, 1)] :=
    columns_ite_sublist _ _
  have hsavings : ((checkSavingsAchievements (BudgetDao.getAllAscending db)).map
      ProgressUpdate.column).Sublist [("Tasarruf Ustası".toList, 1)] :=
    columns_ite_sublist _ _
  rw [List.map_append, List.map_append, List.map_append, List.map_append,
    columns_checkStreakAchievements]
  exact (((hcount.append (List.Sublist.refl _)).append hbudget).append
    (List.Sublist.refl _)).append hsavings

/-- Every update of a check has the name and the maximum of an initial row. -/
theorem mem_columns_checkUpdates {now : ℤ} {db : Database} {call : ProgressUpdate}
    (hcall : call ∈ checkUpdates now db) :
    (call.achievementName, call.maxProgress) ∈ initialAchievements.map nameAndMax := by
  have hcolumn : call.column ∈ (checkUpdates now db).map ProgressUpdate.column :=
    List.mem_map_of_mem hcall
  exact (columns_checkUpdates_sublist now db).subset hcolumn

/-- A check updates no achievement twice. -/
theorem nodup_checkUpdates (now : ℤ) (db : Database) :
    ((checkUpdates now db).map ProgressUpdate.achievementName).Nodup := by
  have hsub := (columns_checkUpdates_sublist now db).map Prod.fst
  rw [List.map_map, List.map_map] at hsub
  exact nodup_initialNames.sublist hsub

/-- A statement about an update under a condition needs the update only. -/
theorem forall_mem_ite {P : ProgressUpdate → Prop} (c : Prop) [Decidable c]
    {call : ProgressUpdate} (h : P call) : ∀ x ∈ if c then [call] else [], P x := by
  split_ifs
  · exact List.forall_mem_singleton.mpr h
  · exact fun x hx => absurd hx List.not_mem_nil

/-- Progress that is written as `m` when it is reached and as it is otherwise. -/
theorem reached_ite_iff {m n : ℕ} (hm : m < 2 ^ 31) (name : Text) :
    (if m ≤ n then (⟨name, Int32.ofNat m, Int32.ofNat m⟩ : ProgressUpdate)
        else ⟨name, Int32.ofNat n, Int32.ofNat m⟩).maxProgress ≤
      (if m ≤ n then (⟨name, Int32.ofNat m, Int32.ofNat m⟩ : ProgressUpdate)
        else ⟨name, Int32.ofNat n, Int32.ofNat m⟩).progress ↔ m ≤ n := by
  split_ifs with h
  · exact iff_of_true (Int32.le_refl _) h
  · rw [Int32.ofNat_le_iff_le hm (by omega)]

/-- The name of a streak update does not depend on the streak. -/
theorem achievementName_ite {m n : ℕ} (name : Text) :
    (if m ≤ n then (⟨name, Int32.ofNat m, Int32.ofNat m⟩ : ProgressUpdate)
      else ⟨name, Int32.ofNat n, Int32.ofNat m⟩).achievementName = name := by
  split_ifs
  · rfl
  · rfl

/-- The counts of transactions are reported when they are reached. -/
theorem reached_checkTransactionCount (name : Text) (count : ℕ) :
    ∀ call ∈ checkTransactionCountAchievements count, call.achievementName = name →
      call.maxProgress ≤ call.progress := by
  rw [checkTransactionCountAchievements]
  simp only [List.forall_mem_append]
  refine ⟨⟨?_, ?_⟩, ?_⟩
  · exact forall_mem_ite _ fun _ => Int32.le_refl _
  · exact forall_mem_ite _ fun _ => Int32.le_refl _
  · exact forall_mem_ite _ fun _ => Int32.le_refl _

/-- The streak updates reach their maxima exactly from 7 and from 30 days on. -/
theorem reached_checkStreak_iff (name : Text) (now : ℤ) (transactions : List Transaction) :
    (∀ call ∈ checkStreakAchievements now transactions, call.achievementName = name →
        call.maxProgress ≤ call.progress) ↔
      (name = "Hafta Savaşçısı".toList → 7 ≤ calculateCurrentStreak now transactions) ∧
      (name = "Aylık Şampiyon".toList → 30 ≤ calculateCurrentStreak now transactions) := by
  have hseven := @reached_ite_iff 7 (calculateCurrentStreak now transactions) (by decide)
    "Hafta Savaşçısı".toList
  have hthirty := @reached_ite_iff 30 (calculateCurrentStreak now transactions) (by decide)
    "Aylık Şampiyon".toList
  rw [checkStreakAchievements, List.forall_mem_cons, List.forall_mem_singleton]
  refine and_congr ?_ ?_
  · exact imp_congr ⟨fun h => h.symm.trans (achievementName_ite _),
      fun h => (achievementName_ite _).trans h.symm⟩ hseven
  · exact imp_congr ⟨fun h => h.symm.trans (achievementName_ite _),
      fun h => (achievementName_ite _).trans h.symm⟩ hthirty

/-- The category update reaches its maximum exactly from five categories on. -/
theorem reached_checkCategory_iff (name : Text) (transactions : List Transaction) :
    (∀ call ∈ checkCategoryAchievements transactions, call.achievementName = name →
        call.maxProgress ≤ call.progress) ↔
      (name = "Kategori Uzmanı".toList → 5 ≤ uniqueCategories transactions) := by
  rw [checkCategoryAchievements, List.forall_mem_singleton]
  refine imp_congr eq_comm ?_
  have hle : (5 : Int32) ≤ Int32.ofNat (min (uniqueCategories transactions) 5) ↔
      5 ≤ min (uniqueCategories transactions) 5 :=
    Int32.ofNat_le_iff_le (by decide) (by omega)
  rw [hle]
  omega

/-- **What a check demands** of an unlocked achievement: the streaks and the number of
categories are still reached. -/
theorem forall_checkUpdates_iff (now : ℤ) (db : Database) (name : Text) :
    (∀ call ∈ checkUpdates now db, call.achievementName = name →
        call.maxProgress ≤ call.progress) ↔
      (name = "Hafta Savaşçısı".toList → 7 ≤ calculateCurrentStreak now
        ((TxDao.getAllAscending db).map TransactionMapper.fromEntity)) ∧
      (name = "Aylık Şampiyon".toList → 30 ≤ calculateCurrentStreak now
        ((TxDao.getAllAscending db).map TransactionMapper.fromEntity)) ∧
      (name = "Kategori Uzmanı".toList → 5 ≤ uniqueCategories
        ((TxDao.getAllAscending db).map TransactionMapper.fromEntity)) := by
  rw [checkUpdates]
  generalize (TxDao.getAllAscending db).map TransactionMapper.fromEntity = transactions
  have hcount := reached_checkTransactionCount name transactions.length
  have hbudget : ∀ call ∈ checkBudgetAchievements !(BudgetDao.getAllAscending db).isEmpty,
      call.achievementName = name → call.maxProgress ≤ call.progress :=
    forall_mem_ite _ fun _ => Int32.le_refl _
  have hsavings : ∀ call ∈ checkSavingsAchievements (BudgetDao.getAllAscending db),
      call.achievementName = name → call.maxProgress ≤ call.progress :=
    forall_mem_ite _ fun _ => Int32.le_refl _
  rw [List.forall_mem_append, List.forall_mem_append, List.forall_mem_append,
    List.forall_mem_append, reached_checkStreak_iff, reached_checkCategory_iff]
  constructor
  · rintro ⟨⟨⟨⟨-, hseven, hthirty⟩, -⟩, hfive⟩, -⟩
    exact ⟨hseven, hthirty, hfive⟩
  · rintro ⟨hseven, hthirty, hfive⟩
    exact ⟨⟨⟨⟨hcount, hseven, hthirty⟩, hbudget⟩, hfive⟩, hsavings⟩

/-! ### Runs -/

/-- The stored data together with the achievements. -/
structure AchievementState where
  store : Store
  achievements : Achievements

/-- What happens to the achievements: the store changes, a check runs, or a progress is added from
elsewhere. The clock of a check is read once for each update. -/
inductive AchievementEvent
  | storeOp (op : StoreOp)
  | checkAchievements (now : ℤ) (currentTimeMillis : ProgressUpdate → ℤ)
  | incrementAchievement (achievementName : Text) (progress : Int32) (currentTimeMillis : ℤ)

namespace AchievementEvent

/-- One event on the store and the achievements. -/
def step (s : AchievementState) : AchievementEvent → AchievementState
  | storeOp op => { s with store := op.step s.store }
  | checkAchievements now currentTimeMillis =>
      { s with
        achievements := AchievementManagerImpl.checkAchievements now currentTimeMillis
          s.store.toDatabase s.achievements }
  | incrementAchievement achievementName progress currentTimeMillis =>
      { s with
        achievements := AchievementManagerImpl.incrementAchievement achievementName progress
          currentTimeMillis s.achievements }

/-- Increments are by no negative number. -/
def Increments : AchievementEvent → Prop
  | incrementAchievement _ progress _ => 0 ≤ progress
  | _ => True

/-- At a check, the unlocked streak and category achievements are still reached; an
increment of an unlocked achievement does not overflow. -/
def StillReached (s : AchievementState) : AchievementEvent → Prop
  | storeOp _ => True
  | checkAchievements now _ =>
      let transactions :=
        (TxDao.getAllAscending s.store.toDatabase).map TransactionMapper.fromEntity
      ∀ row ∈ s.achievements.rows, row.isUnlocked = true →
        (row.name = "Hafta Savaşçısı".toList → 7 ≤ calculateCurrentStreak now transactions) ∧
        (row.name = "Aylık Şampiyon".toList → 30 ≤ calculateCurrentStreak now transactions) ∧
        (row.name = "Kategori Uzmanı".toList → 5 ≤ uniqueCategories transactions)
  | incrementAchievement achievementName progress _ =>
      ∀ row ∈ s.achievements.rows, row.isUnlocked = true → row.name = achievementName →
        row.progress.toInt + progress.toInt < 2 ^ 31

end AchievementEvent

/-- The state after `initializeAchievements` on an empty table. -/
def AchievementState.initialized (store : Store) : AchievementState :=
  { store := store
    achievements := initializeAchievements (Table.empty _) }

/-- The app starts with an initialised table. -/
theorem initialized_initializeAchievements :
    Initialized (initializeAchievements (Table.empty AchievementEntity.id)) where
  columns_eq := by decide
  reached := by decide

/-- No achievement is reached without progress. -/
theorem maxProgress_pos {column : Text × Int32}
    (h : column ∈ initialAchievements.map nameAndMax) : 0 < column.2.toInt := by
  revert column
  decide

/-- Adding to a progress that is enough leaves it enough just when nothing overflows. -/
theorem le_add_iff {maxProgress progress n : Int32} (hpos : 0 < maxProgress.toInt)
    (hreached : maxProgress ≤ progress) (hn : 0 ≤ n) :
    maxProgress ≤ min (progress + n) maxProgress ↔ progress.toInt + n.toInt < 2 ^ 31 := by
  have hmin : maxProgress ≤ min (progress + n) maxProgress ↔ maxProgress ≤ progress + n := by
    rw [Std.le_min_iff]
    exact ⟨And.left, fun h => ⟨h, Int32.le_refl _⟩⟩
  rw [Int32.le_iff_toInt_le] at hreached hn
  have hprogress := Int32.toInt_lt progress
  have hn_lt := Int32.toInt_lt n
  rw [hmin, Int32.le_iff_toInt_le, Int32.toInt_add]
  rw [Int32.toInt_zero] at hn
  constructor
  · intro hle
    by_contra hover
    have hbmod : (progress.toInt + n.toInt).bmod (2 ^ 32) = progress.toInt + n.toInt - 2 ^ 32 := by
      rw [Int.bmod_def]
      omega
    omega
  · intro hlt
    have hbmod : (progress.toInt + n.toInt).bmod (2 ^ 32) = progress.toInt + n.toInt := by
      rw [Int.bmod_def]
      omega
    omega

section Steps

open AchievementEvent

variable {s : AchievementState} (h : Initialized s.achievements)

include h

/-- **Step lemma:** every event keeps the table initialised. -/
theorem Initialized.step (event : AchievementEvent) :
    Initialized (event.step s).achievements := by
  cases event with
  | storeOp op => exact h
  | checkAchievements now currentTimeMillis =>
      exact (foldl_updateAchievementProgress h fun _ => mem_columns_checkUpdates).1
  | incrementAchievement achievementName progress currentTimeMillis =>
      exact h.of_written (rows_incrementAchievement h.nodup_names _ _ _) fun _ _ _ => rfl

/-- **The step.** Which events keep every unlocked achievement. -/
theorem keepsUnlocked_step_iff {event : AchievementEvent} (hevent : event.Increments) :
    KeepsUnlocked s.achievements (event.step s).achievements ↔ StillReached s event := by
  cases event with
  | storeOp op => exact iff_of_true (KeepsUnlocked.refl _) True.intro
  | checkAchievements now currentTimeMillis =>
      have hkeeps : KeepsUnlocked s.achievements
          (step s (.checkAchievements now currentTimeMillis)).achievements ↔ _ :=
        keepsUnlocked_progressUpdates_iff h (fun _ => mem_columns_checkUpdates)
          (nodup_checkUpdates now s.store.toDatabase)
      rw [hkeeps, StillReached]
      simp only [forall_checkUpdates_iff]
  | incrementAchievement achievementName progress currentTimeMillis =>
      have hrows := rows_incrementAchievement h.nodup_names achievementName progress
        currentTimeMillis
      have hkeeps : KeepsUnlocked s.achievements
          (step s (.incrementAchievement achievementName progress
            currentTimeMillis)).achievements ↔ _ :=
        keepsUnlocked_map_iff hrows (by
          intro row
          split_ifs
          · rfl
          · rfl)
      rw [hkeeps, StillReached]
      refine forall_congr' fun row => forall_congr' fun hrow => forall_congr' fun hunlocked => ?_
      by_cases hname : row.name = achievementName
      · have hiff := le_add_iff (maxProgress_pos (h.mem_columns hrow))
          (h.reached row hrow hunlocked) hevent
        rw [if_pos hname, written_kept_iff hunlocked]
        exact hiff.trans ⟨fun hlt _ => hlt, fun hlt => hlt hname⟩
      · rw [if_neg hname]
        exact iff_of_true ⟨hunlocked, rfl⟩ fun heq => absurd heq hname

end Steps

/-- **An unlocked achievement stays unlocked**, since the same time, in every later state
of a run, just when every event of the run finds it still reached. -/
theorem unlockedForever_iff (store : Store) {events : List AchievementEvent}
    (hevents : ∀ event ∈ events, event.Increments) :
    (∀ pre mid, pre ++ mid <+: events →
        KeepsUnlocked (run AchievementEvent.step (.initialized store) pre).achievements
          (run AchievementEvent.step (.initialized store) (pre ++ mid)).achievements) ↔
      AllSteps AchievementEvent.step AchievementEvent.StillReached (.initialized store) events := by
  have hsteps : AllSteps AchievementEvent.step
        (fun s event => KeepsUnlocked s.achievements (event.step s).achievements)
        (.initialized store) events ↔
      AllSteps AchievementEvent.step AchievementEvent.StillReached (.initialized store) events :=
    allSteps_congr (I := fun s => Initialized s.achievements) (fun _ event h _ => h.step event)
      (fun _ _ h hevent => keepsUnlocked_step_iff h hevent) initialized_initializeAchievements
      (AllSteps.of_forall_mem hevents _)
  rw [← hsteps]
  exact forall_later_iff_allSteps
    (R := fun s t : AchievementState => KeepsUnlocked s.achievements t.achievements)
    (fun _ => KeepsUnlocked.refl _) (fun _ _ _ => KeepsUnlocked.trans)

/-- A lunch of the first day in some category. -/
def lunchIn (categoryId : ℤ) : Transaction :=
  { id := none
    amount := { minorUnits := 25000 }
    timestampUtcMillis := 0
    note := none
    categoryId := some categoryId
    accountId := some 1
    type := .expense }

/-- The first lunch is checked, and one of two is deleted before the next check. -/
def lunchEvents : List AchievementEvent :=
  [.storeOp (.upsert (lunchIn 1)), .storeOp (.upsert (lunchIn 2)),
    .checkAchievements 0 fun _ => 0, .storeOp (.delete 2),
    .checkAchievements 90000000 fun _ => 90000000]

/-- The theorem at these events: the first step stays unlocked. -/
theorem unlockedForever_first_step :
    AllSteps AchievementEvent.step AchievementEvent.StillReached (.initialized Store.seeded)
        lunchEvents ∧
      ∀ pre mid, pre ++ mid <+: lunchEvents →
        KeepsUnlocked
          (run AchievementEvent.step (.initialized Store.seeded) pre).achievements
          (run AchievementEvent.step (.initialized Store.seeded) (pre ++ mid)).achievements := by
  have hsteps : AllSteps AchievementEvent.step AchievementEvent.StillReached
      (.initialized Store.seeded) lunchEvents := by
    refine ⟨True.intro, True.intro, ?_, True.intro, ?_, True.intro⟩
    · rw [AchievementEvent.StillReached]
      decide
    · rw [AchievementEvent.StillReached]
      decide
  refine ⟨hsteps, (unlockedForever_iff Store.seeded ?_).mpr hsteps⟩
  simp [lunchEvents, AchievementEvent.Increments]

/-- The achievement for five categories is locked again when one of five transactions is
deleted and the achievements are checked once more. -/
theorem not_keepsUnlocked_category_deleted :
    ¬ KeepsUnlocked
        (run AchievementEvent.step (.initialized Store.seeded)
          ([1, 2, 3, 4, 5].map (fun id => .storeOp (.upsert (lunchIn id))) ++
            [.checkAchievements 0 fun _ => 0])).achievements
        (run AchievementEvent.step (.initialized Store.seeded)
          ([1, 2, 3, 4, 5].map (fun id => .storeOp (.upsert (lunchIn id))) ++
            [.checkAchievements 0 fun _ => 0] ++
            [.storeOp (.delete 5), .checkAchievements 0 fun _ => 0])).achievements := by
  rw [KeepsUnlocked]
  decide

end SpendCraft
