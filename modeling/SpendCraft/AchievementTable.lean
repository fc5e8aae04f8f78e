import SpendCraft.Achievements

/-!
# The Columns of the Achievement Table

A row of the table holds its progress, its lock, and the time of its unlocking, and both
update functions write the three together. `Consistent` says how they belong together:
the progress lies between zero and the maximum, a row is unlocked just when the maximum
is reached, and an unlocked row has its time.

A check writes between zero and the maximum. An increment adds in 32 bits before it
takes the minimum, so a sum past `2 ^ 31 - 1` comes out negative and is written.

## Conventions

The rows are those of `initialAchievements`, by their ids and by their names and maxima, which no
update changes (`Listed`). A check is given any stored data and any clock, and the events are
those of the module `Achievements` with the stored data as a part of the check. The columns are
judged after every event of a run and in every row.

## Proof

A single write is judged first: a call within its bounds makes the row that it finds consistent,
and leaves the others. The calls of a check are within their bounds, because each of its functions
cuts its count at the maximum or writes nothing below it. An increment takes the minimum with the
maximum after the addition, so its only danger is the sum itself.

## Main definitions

* `AchievementEntity.Consistent`: what the three columns owe each other.
* `AchievementTableEvent.InRange`: the sum of an increment does not leave 32 bits.

## Main results

* `Listed.consistent_step_iff`: which events keep the table consistent.
* `forall_consistent_iff`: the same for the runs.
-/

namespace SpendCraft

open Kotlin Relational Machine AchievementManagerImpl

/-- The three columns that the updates write belong together. -/
structure AchievementEntity.Consistent (row : AchievementEntity) : Prop where
  progress_nonneg : 0 ≤ row.progress
  progress_le : row.progress ≤ row.maxProgress
  unlocked_iff : row.isUnlocked = true ↔ row.maxProgress ≤ row.progress
  unlockedAt_isSome : row.isUnlocked = true → row.unlockedAt.isSome = true

/-- Consistency of a row is a comparison of its columns. -/
instance (row : AchievementEntity) : Decidable row.Consistent :=
  decidable_of_iff
    (0 ≤ row.progress ∧ row.progress ≤ row.maxProgress ∧
      (row.isUnlocked = true ↔ row.maxProgress ≤ row.progress) ∧
      (row.isUnlocked = true → row.unlockedAt.isSome = true))
    ⟨fun ⟨hnonneg, hle, hiff, hat⟩ => ⟨hnonneg, hle, hiff, hat⟩,
      fun ⟨hnonneg, hle, hiff, hat⟩ => ⟨hnonneg, hle, hiff, hat⟩⟩

/-- Every row of the table is consistent. -/
def Achievements.Consistent (achievements : Achievements) : Prop :=
  ∀ row ∈ achievements.rows, row.Consistent

/-- Consistency of the table is checked row by row. -/
instance (achievements : Achievements) : Decidable achievements.Consistent :=
  inferInstanceAs (Decidable (∀ row ∈ achievements.rows, row.Consistent))

/-! ### One write -/

/-- **A write of a row.** The row stays consistent just when what is written lies between
zero and the maximum of the row. -/
theorem AchievementEntity.Consistent.written_iff {row : AchievementEntity}
    (h : row.Consistent) (progress : Int32) (currentTimeMillis : ℤ) :
    (written progress row.maxProgress currentTimeMillis row).Consistent ↔
      0 ≤ progress ∧ progress ≤ row.maxProgress := by
  constructor
  · exact fun hafter => ⟨hafter.progress_nonneg, hafter.progress_le⟩
  · rintro ⟨hnonneg, hle⟩
    refine ⟨hnonneg, hle, decide_eq_true_iff, ?_⟩
    intro hunlocked
    have hreached : row.maxProgress ≤ progress := of_decide_eq_true hunlocked
    cases hlock : row.isUnlocked with
    | false => simp [written, hreached, hlock]
    | true =>
        have hat := h.unlockedAt_isSome hlock
        simpa [written, hlock] using hat

/-- A 32-bit sum of two numbers that are not negative is negative just when it
overflows. -/
theorem nonneg_add_iff {progress n : Int32} (hprogress : 0 ≤ progress) (hn : 0 ≤ n) :
    0 ≤ progress + n ↔ progress.toInt + n.toInt < 2 ^ 31 := by
  rw [Int32.le_iff_toInt_le, Int32.toInt_zero] at hprogress hn
  rw [Int32.le_iff_toInt_le, Int32.toInt_zero, Int32.toInt_add, Int.bmod_def]
  have hprogress_lt := Int32.toInt_lt progress
  have hn_lt := Int32.toInt_lt n
  omega

/-- What an increment writes lies between zero and the maximum just when its sum does not
overflow. -/
theorem increment_bounds_iff {row : AchievementEntity} (h : row.Consistent) {n : Int32}
    (hn : 0 ≤ n) :
    (0 ≤ min (row.progress + n) row.maxProgress ∧
        min (row.progress + n) row.maxProgress ≤ row.maxProgress) ↔
      row.progress.toInt + n.toInt < 2 ^ 31 := by
  rw [← nonneg_add_iff h.progress_nonneg hn, Std.le_min_iff]
  constructor
  · exact fun hbounds => hbounds.1.1
  · intro hsum
    have hmax : 0 ≤ row.maxProgress := Int32.le_trans h.progress_nonneg h.progress_le
    exact ⟨⟨hsum, hmax⟩, Std.min_le_right⟩

/-! ### Checks -/

/-- What a call writes lies between zero and its maximum. -/
def AchievementManagerImpl.ProgressUpdate.InBounds (call : ProgressUpdate) : Prop :=
  0 ≤ call.progress ∧ call.progress ≤ call.maxProgress

/-- An update to the maximum is within the bounds. -/
theorem inBounds_reached {m : ℕ} (hm : m < 2 ^ 31) (name : Text) :
    (⟨name, Int32.ofNat m, Int32.ofNat m⟩ : ProgressUpdate).InBounds :=
  ⟨(Int32.ofNat_le_iff_le (by decide) hm).mpr (Nat.zero_le m), Int32.le_refl _⟩

/-- An update below the maximum is within the bounds. -/
theorem inBounds_below {m n : ℕ} (hm : m < 2 ^ 31) (hle : n ≤ m) (name : Text) :
    (⟨name, Int32.ofNat n, Int32.ofNat m⟩ : ProgressUpdate).InBounds := by
  have hn : n < 2 ^ 31 := lt_of_le_of_lt hle hm
  exact ⟨(Int32.ofNat_le_iff_le (by decide) hn).mpr (Nat.zero_le n),
    (Int32.ofNat_le_iff_le hn hm).mpr hle⟩

/-- A streak is written as it is until it reaches the maximum. -/
theorem inBounds_streak {m : ℕ} (hm : m < 2 ^ 31) (currentStreak : ℕ) (name : Text) :
    (if m ≤ currentStreak then (⟨name, Int32.ofNat m, Int32.ofNat m⟩ : ProgressUpdate)
      else ⟨name, Int32.ofNat currentStreak, Int32.ofNat m⟩).InBounds := by
  split_ifs with hreached
  · exact inBounds_reached hm name
  · exact inBounds_below hm (by omega) name

/-- Every call of a check writes within its bounds, whatever is stored. -/
theorem inBounds_checkUpdates (now : ℤ) (db : Database) :
    ∀ call ∈ checkUpdates now db, call.InBounds := by
  rw [checkUpdates]
  generalize (TxDao.getAllAscending db).map TransactionMapper.fromEntity = transactions
  generalize BudgetDao.getAllAscending db = budgets
  have hcount : ∀ call ∈ checkTransactionCountAchievements transactions.length,
      call.InBounds := by
    rw [checkTransactionCountAchievements]
    simp only [List.forall_mem_append]
    refine ⟨⟨?_, ?_⟩, ?_⟩
    · exact forall_mem_ite _ (inBounds_reached (m := 1) (by decide) _)
    · exact forall_mem_ite _ (inBounds_reached (m := 10) (by decide) _)
    · exact forall_mem_ite _ (inBounds_reached (m := 50) (by decide) _)
  have hstreak : ∀ call ∈ checkStreakAchievements now transactions, call.InBounds := by
    rw [checkStreakAchievements, List.forall_mem_cons, List.forall_mem_singleton]
    exact ⟨inBounds_streak (m := 7) (by decide) _ _, inBounds_streak (m := 30) (by decide) _ _⟩
  have hbudget : ∀ call ∈ checkBudgetAchievements !budgets.isEmpty, call.InBounds :=
    forall_mem_ite _ (inBounds_reached (m := 1) (by decide) _)
  have hcategory : ∀ call ∈ checkCategoryAchievements transactions, call.InBounds := by
    rw [checkCategoryAchievements, List.forall_mem_singleton]
    exact inBounds_below (m := 5) (by decide) (Nat.min_le_right _ _) _
  have hsavings : ∀ call ∈ checkSavingsAchievements budgets, call.InBounds :=
    forall_mem_ite _ (inBounds_reached (m := 1) (by decide) _)
  rw [List.forall_mem_append, List.forall_mem_append, List.forall_mem_append,
    List.forall_mem_append]
  exact ⟨⟨⟨⟨hcount, hstreak⟩, hbudget⟩, hcategory⟩, hsavings⟩

/-! ### The table -/

/-- The table holds the rows of the initial achievements. -/
structure Listed (achievements : Achievements) : Prop where
  initialized : Initialized achievements
  ids_eq : achievements.rows.map AchievementEntity.id =
    initialAchievements.map AchievementEntity.id

/-- A table that was just initialised is listed. -/
theorem listed_initializeAchievements :
    Listed (initializeAchievements (Table.empty AchievementEntity.id)) where
  initialized := initialized_initializeAchievements
  ids_eq := by decide

section Tables

variable {achievements : Achievements} (h : Listed achievements)

include h

/-- A change of the rows that keeps the ids keeps the table listed. -/
theorem Listed.of_map {after : Achievements} {g : AchievementEntity → AchievementEntity}
    (hafter : Initialized after) (hrows : after.rows = achievements.rows.map g)
    (hid : ∀ row, (g row).id = row.id) : Listed after := by
  refine ⟨hafter, ?_⟩
  rw [hrows, List.map_map, ← h.ids_eq]
  exact List.map_congr_left fun row _ => hid row

/-- Initializing again, as each start does, inserts nothing. -/
theorem Listed.initializeAchievements_eq : initializeAchievements achievements = achievements := by
  suffices hskip : ∀ initial : List AchievementEntity,
      (∀ achievement ∈ initial, achievement.id ∈ achievements.rows.map AchievementEntity.id) →
      initial.foldl (fun achievements achievement =>
        if (AchievementDao.getAchievementById achievement.id achievements).isNone then
          AchievementDao.insertAchievement achievement achievements
        else achievements) achievements = achievements by
    refine hskip initialAchievements fun achievement hmem => ?_
    rw [h.ids_eq]
    exact List.mem_map_of_mem hmem
  intro initial hids
  induction initial with
  | nil => rfl
  | cons achievement rest ih =>
      rw [List.forall_mem_cons] at hids
      obtain ⟨row, hrow, heq⟩ := List.mem_map.mp hids.1
      have hfound : (AchievementDao.getAchievementById achievement.id achievements).isSome := by
        rw [AchievementDao.getAchievementById, List.find?_isSome]
        exact ⟨row, hrow, beq_iff_eq.mpr heq⟩
      rw [List.foldl_cons, if_neg (by simp [Option.isSome_iff_ne_none.mp hfound])]
      exact ih hids.2

/-- A call for a row of the table goes by the maximum of that row. -/
theorem Listed.maxProgress_eq {call : ProgressUpdate}
    (hcolumn : (call.achievementName, call.maxProgress) ∈ initialAchievements.map nameAndMax)
    {row : AchievementEntity} (hrow : row ∈ achievements.rows)
    (hname : row.name = call.achievementName) : call.maxProgress = row.maxProgress := by
  have hcolumns := h.initialized.mem_columns hrow
  rw [nameAndMax, hname] at hcolumns
  exact maxProgress_unique hcolumn hcolumns

/-- An update of a listed name keeps the table listed. -/
theorem Listed.listed_updateAchievementProgress {call : ProgressUpdate} (currentTimeMillis : ℤ)
    (hcolumn : (call.achievementName, call.maxProgress) ∈ initialAchievements.map nameAndMax) :
    Listed (updateAchievementProgress call currentTimeMillis achievements) := by
  have hrows := rows_updateAchievementProgress h.initialized.nodup_names call currentTimeMillis
  refine h.of_map (h.initialized.of_written hrows fun _ => h.maxProgress_eq hcolumn) hrows ?_
  intro row
  split_ifs
  · rfl
  · rfl

/-- An increment keeps the table listed. -/
theorem Listed.listed_incrementAchievement (achievementName : Text) (progress : Int32)
    (currentTimeMillis : ℤ) :
    Listed (incrementAchievement achievementName progress currentTimeMillis achievements) := by
  have hrows := rows_incrementAchievement h.initialized.nodup_names achievementName progress
    currentTimeMillis
  refine h.of_map (h.initialized.of_written hrows fun _ _ _ => rfl) hrows ?_
  intro row
  split_ifs
  · rfl
  · rfl

/-- One call within its bounds, for a row of the table, keeps the table consistent. -/
theorem Listed.consistent_updateAchievementProgress (hconsistent : achievements.Consistent)
    {call : ProgressUpdate} (currentTimeMillis : ℤ)
    (hcolumn : (call.achievementName, call.maxProgress) ∈ initialAchievements.map nameAndMax)
    (hbounds : call.InBounds) :
    (updateAchievementProgress call currentTimeMillis achievements).Consistent := by
  rw [Achievements.Consistent,
    rows_updateAchievementProgress h.initialized.nodup_names call currentTimeMillis,
    List.forall_mem_map]
  intro row hrow
  split_ifs with hname
  · have hmax := h.maxProgress_eq hcolumn hrow hname
    rw [hmax, (hconsistent row hrow).written_iff, ← hmax]
    exact hbounds
  · exact hconsistent row hrow

/-- An increment keeps the table consistent just when the sum for its row does not
overflow. -/
theorem Listed.consistent_incrementAchievement_iff (hconsistent : achievements.Consistent)
    (achievementName : Text) {progress : Int32} (currentTimeMillis : ℤ)
    (hprogress : 0 ≤ progress) :
    (incrementAchievement achievementName progress currentTimeMillis achievements).Consistent ↔
      ∀ row ∈ achievements.rows, row.name = achievementName →
        row.progress.toInt + progress.toInt < 2 ^ 31 := by
  rw [Achievements.Consistent,
    rows_incrementAchievement h.initialized.nodup_names achievementName progress
      currentTimeMillis,
    List.forall_mem_map]
  refine forall_congr' fun row => forall_congr' fun hrow => ?_
  split_ifs with hname
  · rw [(hconsistent row hrow).written_iff,
      increment_bounds_iff (hconsistent row hrow) hprogress]
    exact ⟨fun hlt _ => hlt, fun hlt => hlt hname⟩
  · exact iff_of_true (hconsistent row hrow) fun heq => absurd heq hname

/-- Calls for rows of the table, within their bounds, one after the other. -/
theorem Listed.foldl_progressUpdates {currentTimeMillis : ProgressUpdate → ℤ}
    {calls : List ProgressUpdate}
    (hcolumns : ∀ call ∈ calls,
      (call.achievementName, call.maxProgress) ∈ initialAchievements.map nameAndMax)
    (hbounds : ∀ call ∈ calls, call.InBounds) :
    Listed (calls.foldl (fun achievements call =>
        updateAchievementProgress call (currentTimeMillis call) achievements) achievements) ∧
      (achievements.Consistent → (calls.foldl (fun achievements call =>
        updateAchievementProgress call (currentTimeMillis call) achievements)
          achievements).Consistent) := by
  induction calls generalizing achievements with
  | nil => exact ⟨h, id⟩
  | cons call calls ih =>
      rw [List.forall_mem_cons] at hcolumns hbounds
      obtain ⟨hlisted, hconsistent⟩ :=
        ih (h.listed_updateAchievementProgress (currentTimeMillis call) hcolumns.1) hcolumns.2
          hbounds.2
      refine ⟨hlisted, fun hbefore => hconsistent ?_⟩
      exact h.consistent_updateAchievementProgress hbefore _ hcolumns.1 hbounds.1

end Tables

/-! ### Runs -/

/-- What happens to the table: a start of the app, a check of some stored data at some
time, or an increment. -/
inductive AchievementTableEvent
  | initializeAchievements
  | checkAchievements (now : ℤ) (currentTimeMillis : ProgressUpdate → ℤ) (db : Database)
  | incrementAchievement (achievementName : Text) (progress : Int32) (currentTimeMillis : ℤ)

namespace AchievementTableEvent

/-- One event on the table. -/
def step (achievements : Achievements) : AchievementTableEvent → Achievements
  | initializeAchievements => AchievementManagerImpl.initializeAchievements achievements
  | checkAchievements now currentTimeMillis db =>
      AchievementManagerImpl.checkAchievements now currentTimeMillis db achievements
  | incrementAchievement achievementName progress currentTimeMillis =>
      AchievementManagerImpl.incrementAchievement achievementName progress currentTimeMillis
        achievements

/-- Increments are by no negative number. -/
def Increments : AchievementTableEvent → Prop
  | incrementAchievement _ progress _ => 0 ≤ progress
  | _ => True

/-- The sum of an increment does not overflow. -/
def InRange (achievements : Achievements) : AchievementTableEvent → Prop
  | incrementAchievement achievementName progress _ =>
      ∀ row ∈ achievements.rows, row.name = achievementName →
        row.progress.toInt + progress.toInt < 2 ^ 31
  | _ => True

end AchievementTableEvent

section Steps

open AchievementTableEvent

variable {achievements : Achievements} (h : Listed achievements)

include h

/-- **Step lemma:** every event keeps the table listed. -/
theorem Listed.step (event : AchievementTableEvent) : Listed (event.step achievements) := by
  cases event with
  | initializeAchievements =>
      rw [AchievementTableEvent.step, h.initializeAchievements_eq]
      exact h
  | checkAchievements now currentTimeMillis db =>
      exact (h.foldl_progressUpdates (fun _ => mem_columns_checkUpdates)
        (inBounds_checkUpdates now db)).1
  | incrementAchievement achievementName progress currentTimeMillis =>
      exact h.listed_incrementAchievement achievementName progress currentTimeMillis

/-- **The step.** Which events keep the table consistent. -/
theorem Listed.consistent_step_iff (hconsistent : achievements.Consistent)
    {event : AchievementTableEvent} (hevent : event.Increments) :
    (event.step achievements).Consistent ↔ InRange achievements event := by
  cases event with
  | initializeAchievements =>
      rw [AchievementTableEvent.step, h.initializeAchievements_eq]
      exact iff_of_true hconsistent True.intro
  | checkAchievements now currentTimeMillis db =>
      refine iff_of_true ?_ True.intro
      exact (h.foldl_progressUpdates (fun _ => mem_columns_checkUpdates)
        (inBounds_checkUpdates now db)).2 hconsistent
  | incrementAchievement achievementName progress currentTimeMillis =>
      exact h.consistent_incrementAchievement_iff hconsistent achievementName currentTimeMillis
        hevent

end Steps

/-- The initial rows are locked and at zero. -/
theorem consistent_initializeAchievements :
    (initializeAchievements (Table.empty AchievementEntity.id)).Consistent := by decide

/-- **Consistent tables.** Every state of a run from the initial achievements is
consistent just when no increment of the run overflows. -/
theorem forall_consistent_iff {events : List AchievementTableEvent}
    (hevents : ∀ event ∈ events, event.Increments) :
    (∀ pre, pre <+: events → Achievements.Consistent
        (run AchievementTableEvent.step (initializeAchievements (Table.empty _)) pre)) ↔
      AllSteps AchievementTableEvent.step AchievementTableEvent.InRange
        (initializeAchievements (Table.empty _)) events := by
  have hlisted : ∀ pre : List AchievementTableEvent,
      Listed (run AchievementTableEvent.step (initializeAchievements (Table.empty _)) pre) :=
    run_invariant_of_step (fun _ event h => h.step event) listed_initializeAchievements
  rw [← forall_prefix_iff_allSteps (Q := fun _ event => event.Increments)
    (I := fun achievements => Listed achievements ∧ achievements.Consistent)
    (fun _ event h hevent => (and_iff_right (h.1.step event)).trans
      (h.1.consistent_step_iff h.2 hevent))
    ⟨listed_initializeAchievements, consistent_initializeAchievements⟩
    (AllSteps.of_forall_mem hevents _)]
  exact forall_congr' fun pre => imp_congr_right fun _ => (and_iff_right (hlisted pre)).symm

/-- A check of the seeded data, and ten increments asked for where three are stored. -/
def transactionEvents : List AchievementTableEvent :=
  [.checkAchievements 0 (fun _ => 0) Store.seeded.toDatabase,
    .incrementAchievement "İşlem Ustası".toList 3 10,
    .incrementAchievement "İşlem Ustası".toList 10 20]

/-- The theorem at a few transactions. -/
theorem consistent_transactionEvents :
    Achievements.Consistent
      (run AchievementTableEvent.step (initializeAchievements (Table.empty _))
        transactionEvents) := by
  have hevents : ∀ event ∈ transactionEvents, event.Increments := by
    simp [transactionEvents, AchievementTableEvent.Increments]
  refine (forall_consistent_iff hevents).mpr ⟨True.intro, ?_, ?_, True.intro⟩ _ List.prefix_rfl
  · rw [AchievementTableEvent.InRange]
    decide
  · rw [AchievementTableEvent.InRange]
    decide

/-- The sum of five and the largest increment is negative, and the row holds it. -/
theorem not_consistent_largest_increment :
    (∀ event ∈ ([.incrementAchievement "İşlem Ustası".toList 5 10,
        .incrementAchievement "İşlem Ustası".toList 2147483647 20] :
          List AchievementTableEvent), event.Increments) ∧
      ¬ Achievements.Consistent
        (run AchievementTableEvent.step (initializeAchievements (Table.empty _))
          [.incrementAchievement "İşlem Ustası".toList 5 10,
            .incrementAchievement "İşlem Ustası".toList 2147483647 20]) := by
  constructor
  · simp [AchievementTableEvent.Increments]
  · decide

end SpendCraft
