import SpendCraft.Ios.SignOut

/-!
# Achievements of the iOS App

`AchievementsViewModel` shows an array of managed objects and writes to the objects
themselves. Its loops run over the array as it was at their start, read the objects as
they are now, and reload the array each time they unlock one of them. Fetches and saves
succeed.

## Conventions

The array of the view model is a list of references, and reading an element reads the object as it
is now: so a loop goes over the array as it was at its start, while the objects change under it.
The `switch` of a check assigns a progress to some categories and names and leaves the others as
they are. A celebration is an entry of a list, for each time that it is called. A restart keeps
the store and empties the array.

## Proof

One turn of a loop is followed by a lemma for each loop: no object loses its lock, progress stays
within the maximum, and what is celebrated was locked before and is unlocked now (`Advances`). A
loop is its turns (`Turns`), and a run its calls. So an object is celebrated once at most in a
run, because a celebrated one stays unlocked, the restarts of the app included.

## Relation to the Android app

There a check writes the lock anew, and can take it away (`Achievements`); the property here has
no condition on the run.

## Main results

* `turns_checkAchievement`, `turns_updateAchievement`: what one turn of a loop does to the
  objects.
* `celebrated_once_of_run`: progress, locks and celebrations over the runs.
-/

namespace SpendCraft.Ios

open Kotlin Relational Machine AchievementsViewModel

/-- The objects of the context, and the array of the view model, by its references. -/
structure AchievementsModel where
  context : AutoTable AchievementObject
  achievements : List ℤ

/-- A call of `celebrateAchievement` for an object. -/
structure Celebration where
  objectID : ℤ
  title : Text
  description : Text
  deriving DecidableEq, Repr

namespace AchievementObject

/-- What the reference refers to. -/
def find (objectID : ℤ) (context : AutoTable AchievementObject) : Option AchievementObject :=
  context.rows.find? fun achievement => achievement.objectID == objectID

/-- Assignments to the attributes of one object. -/
def assign (objectID : ℤ) (attributes : AchievementObject → AchievementObject)
    (hid : ∀ achievement, (attributes achievement).objectID = achievement.objectID)
    (context : AutoTable AchievementObject) : AutoTable AchievementObject :=
  context.updateSet
    (fun achievement =>
      if achievement.objectID = objectID then attributes achievement else achievement)
    (by
      intro achievement
      split_ifs
      · exact hid achievement
      · rfl)

/-- An assignment to `progress`. -/
def setProgress (progress : ℤ) (achievement : AchievementObject) : AchievementObject :=
  { achievement with progress := progress }

/-- The three assignments of `unlockAchievement`. -/
def setUnlocked (currentTimeMillis : ℤ) (achievement : AchievementObject) : AchievementObject :=
  { achievement with
    isUnlocked := true
    unlockedAt := currentTimeMillis
    progress := achievement.maxProgress }

/-- An object stays itself when its progress is set. -/
theorem objectID_setProgress (progress : ℤ) (achievement : AchievementObject) :
    (setProgress progress achievement).objectID = achievement.objectID := rfl

/-- An object stays itself when it is unlocked. -/
theorem objectID_setUnlocked (currentTimeMillis : ℤ) (achievement : AchievementObject) :
    (setUnlocked currentTimeMillis achievement).objectID = achievement.objectID := rfl

/-- The progress of one object is set. -/
def assignProgress (objectID progress : ℤ) (context : AutoTable AchievementObject) :
    AutoTable AchievementObject :=
  assign objectID (setProgress progress) (objectID_setProgress progress) context

/-- One object is unlocked. -/
def assignUnlocked (objectID currentTimeMillis : ℤ) (context : AutoTable AchievementObject) :
    AutoTable AchievementObject :=
  assign objectID (setUnlocked currentTimeMillis) (objectID_setUnlocked currentTimeMillis) context

end AchievementObject

open AchievementObject

/-! ### The view model -/

namespace AchievementsModel

/-- `loadAchievements`: an empty store is seeded first, and the array holds the references of what
is fetched. -/
def loadAchievements (randomIds : ℕ → ℤ) (model : AchievementsModel) : AchievementsModel :=
  let context :=
    if (fetchAchievements model.context).isEmpty then seedAchievements randomIds model.context
    else model.context
  { context := context
    achievements := (fetchAchievements context).map AchievementObject.objectID }

/-- `currentTimeMillis` is the time at which an object is unlocked. -/
def unlockAchievement (randomIds : ℕ → ℤ) (currentTimeMillis : ℤ → ℤ) (objectID : ℤ)
    (model : AchievementsModel) : AchievementsModel :=
  loadAchievements randomIds
    { model with
      context := assignUnlocked objectID (currentTimeMillis objectID) model.context }

/-- `notificationsViewModel?.celebrateAchievement`. -/
def celebrate (notifies : Bool) (achievement : AchievementObject) : List Celebration :=
  if notifies then
    [⟨achievement.objectID, achievement.name, achievement.achievementDescription⟩]
  else []

/-- The variables of a loop over the array. -/
structure Loop where
  model : AchievementsModel
  hasChanges : Bool
  celebrated : List Celebration

/-- The progress that a check assigns, if its `switch` assigns one. -/
def checkedProgress (transactionCount categories : ℤ) (achievement : AchievementObject) :
    Option ℤ :=
  if achievement.category = "TRANSACTIONS".toList then some transactionCount
  else if achievement.category = "CATEGORIES".toList then some categories
  else none

/-- A turn of the loop of `checkAchievements`. -/
def checkAchievement (randomIds : ℕ → ℤ) (currentTimeMillis : ℤ → ℤ)
    (transactionCount categories : ℤ) (notifies : Bool) (loop : Loop) (objectID : ℤ) : Loop :=
  match find objectID loop.model.context with
  | none => loop
  | some achievement =>
      if achievement.isUnlocked then loop
      else
        match checkedProgress transactionCount categories achievement with
        | none => loop
        | some progress =>
            let model := { loop.model with
              context := assignProgress objectID progress loop.model.context }
            if achievement.maxProgress ≤ progress then
              { model := unlockAchievement randomIds currentTimeMillis objectID model
                hasChanges := true
                celebrated := loop.celebrated ++ celebrate notifies achievement }
            else
              { loop with
                model := model
                hasChanges := loop.hasChanges || !(achievement.progress == progress) }

/-- The loop of `checkAchievements` over the array as it stands at the start. -/
def checkLoop (randomIds : ℕ → ℤ) (currentTimeMillis : ℤ → ℤ)
    (transactionCount categories : ℤ) (notifies : Bool) (model : AchievementsModel) : Loop :=
  model.achievements.foldl
    (checkAchievement randomIds currentTimeMillis transactionCount categories notifies)
    { model := model, hasChanges := false, celebrated := [] }

/-- `checkAchievements`: the array is loaded again if anything has changed. -/
def checkAchievements (randomIds : ℕ → ℤ) (currentTimeMillis : ℤ → ℤ)
    (transactionCount categories : ℤ) (notifies : Bool) (model : AchievementsModel) :
    AchievementsModel :=
  let loop :=
    checkLoop randomIds currentTimeMillis transactionCount categories notifies model
  if loop.hasChanges then loadAchievements randomIds loop.model else loop.model

/-- A turn of the loop of `updateProgress`, whose unlocking celebrates nothing. -/
def updateAchievement (randomIds : ℕ → ℤ) (currentTimeMillis : ℤ → ℤ) (category : Text)
    (progress : ℤ) (loop : Loop) (objectID : ℤ) : Loop :=
  match find objectID loop.model.context with
  | none => loop
  | some achievement =>
      if achievement.category = category ∧ achievement.isUnlocked = false then
        let model := { loop.model with
          context := assignProgress objectID progress loop.model.context }
        { loop with
          model :=
            if achievement.maxProgress ≤ progress then
              unlockAchievement randomIds currentTimeMillis objectID model
            else model
          hasChanges := loop.hasChanges || !(achievement.progress == progress) }
      else loop

/-- `updateProgress`: the same loop for one category and a given progress. -/
def updateProgress (randomIds : ℕ → ℤ) (currentTimeMillis : ℤ → ℤ) (category : Text)
    (progress : ℤ) (model : AchievementsModel) : AchievementsModel :=
  let loop := model.achievements.foldl
    (updateAchievement randomIds currentTimeMillis category progress)
    { model := model, hasChanges := false, celebrated := [] }
  if loop.hasChanges then loadAchievements randomIds loop.model else loop.model

end AchievementsModel

open AchievementsModel

/-! ### The objects -/

/-- No progress exceeds its maximum, and what was celebrated is unlocked. -/
structure Sound (context : AutoTable AchievementObject) (celebrated : List ℤ) : Prop where
  progress_le : ∀ achievement ∈ context.rows, achievement.progress ≤ achievement.maxProgress
  unlocked : ∀ objectID ∈ celebrated, ∃ achievement ∈ context.rows,
    achievement.objectID = objectID ∧ achievement.isUnlocked = true
  nodup : celebrated.Nodup

/-- Every unlocked achievement is still unlocked afterwards. -/
def KeepsUnlocked (before after : AutoTable AchievementObject) : Prop :=
  ∀ achievement ∈ before.rows, achievement.isUnlocked = true → ∃ achievement' ∈ after.rows,
    achievement'.objectID = achievement.objectID ∧ achievement'.isUnlocked = true

/-- Nothing done keeps what is unlocked. -/
theorem KeepsUnlocked.refl (context : AutoTable AchievementObject) :
    KeepsUnlocked context context :=
  fun achievement hmem hunlocked => ⟨achievement, hmem, rfl, hunlocked⟩

/-- Keeping what is unlocked composes. -/
theorem KeepsUnlocked.trans {a b c : AutoTable AchievementObject} (hab : KeepsUnlocked a b)
    (hbc : KeepsUnlocked b c) : KeepsUnlocked a c := by
  intro achievement hmem hunlocked
  obtain ⟨achievement', hmem', hid, hunlocked'⟩ := hab achievement hmem hunlocked
  obtain ⟨achievement'', hmem'', hid', hunlocked''⟩ := hbc achievement' hmem' hunlocked'
  exact ⟨achievement'', hmem'', hid'.trans hid, hunlocked''⟩

section Objects

variable {context after : AutoTable AchievementObject} {celebrated : List ℤ}

/-- What is unlocked stays celebrated. -/
theorem Sound.of_keepsUnlocked (h : Sound context celebrated) (hkeeps : KeepsUnlocked context after)
    (hle : ∀ achievement ∈ after.rows, achievement.progress ≤ achievement.maxProgress) :
    Sound after celebrated := by
  refine ⟨hle, ?_, h.nodup⟩
  intro objectID hmem
  obtain ⟨achievement, hachievement, rfl, hunlocked⟩ := h.unlocked objectID hmem
  exact hkeeps achievement hachievement hunlocked

/-- Assignments that lock nothing keep what is unlocked. -/
theorem keepsUnlocked_assign {objectID : ℤ} {attributes : AchievementObject → AchievementObject}
    {hid : ∀ achievement, (attributes achievement).objectID = achievement.objectID}
    (hunlocked : ∀ achievement, achievement.isUnlocked = true →
      (attributes achievement).isUnlocked = true) :
    KeepsUnlocked context (assign objectID attributes hid context) := by
  intro achievement hmem hlock
  refine ⟨if achievement.objectID = objectID then attributes achievement else achievement,
    List.mem_map_of_mem hmem, ?_, ?_⟩
  · split_ifs
    · exact hid achievement
    · rfl
  · split_ifs
    · exact hunlocked achievement hlock
    · exact hlock

/-- A statement about all objects after an assignment, by whether they are the one assigned to. -/
theorem forall_mem_assign {objectID : ℤ} {attributes : AchievementObject → AchievementObject}
    {hid : ∀ achievement, (attributes achievement).objectID = achievement.objectID}
    {P : AchievementObject → Prop} :
    (∀ achievement ∈ (assign objectID attributes hid context).rows, P achievement) ↔
      ∀ achievement ∈ context.rows,
        (achievement.objectID = objectID → P (attributes achievement)) ∧
          (achievement.objectID ≠ objectID → P achievement) := by
  rw [assign, AutoTable.rows_updateSet, List.forall_mem_map]
  refine forall_congr' fun achievement => forall_congr' fun _ => ?_
  split_ifs with heq
  · exact ⟨fun h => ⟨fun _ => h, fun hne => absurd heq hne⟩, fun h => h.1 heq⟩
  · exact ⟨fun h => ⟨fun hid => absurd hid heq, fun _ => h⟩, fun h => h.2 heq⟩

/-- Setting a progress locks nothing. -/
theorem keepsUnlocked_assignProgress (objectID progress : ℤ) :
    KeepsUnlocked context (assignProgress objectID progress context) :=
  keepsUnlocked_assign fun _ hunlocked => hunlocked

/-- Unlocking locks nothing. -/
theorem keepsUnlocked_assignUnlocked (objectID currentTimeMillis : ℤ) :
    KeepsUnlocked context (assignUnlocked objectID currentTimeMillis context) :=
  keepsUnlocked_assign fun _ _ => rfl

/-- Unlocking an object sets its progress to the maximum, whatever it was before. -/
theorem progress_le_assignUnlocked {objectID : ℤ} (currentTimeMillis : ℤ)
    (hothers : ∀ achievement ∈ context.rows, achievement.objectID ≠ objectID →
      achievement.progress ≤ achievement.maxProgress) :
    ∀ achievement ∈ (assignUnlocked objectID currentTimeMillis context).rows,
      achievement.progress ≤ achievement.maxProgress := by
  rw [assignUnlocked, forall_mem_assign]
  exact fun achievement hmem => ⟨fun _ => le_rfl, hothers achievement hmem⟩

/-- An unlocked object has its maximum as progress, so the bound holds on. -/
theorem Sound.assignUnlocked (h : Sound context celebrated) (objectID currentTimeMillis : ℤ) :
    Sound (assignUnlocked objectID currentTimeMillis context) celebrated :=
  h.of_keepsUnlocked (keepsUnlocked_assignUnlocked objectID currentTimeMillis)
    (progress_le_assignUnlocked currentTimeMillis fun achievement hmem _ =>
      h.progress_le achievement hmem)

section Visits

variable {achievement : AchievementObject} (hmem : achievement ∈ context.rows)

include hmem

/-- The unlocked object is in the context. -/
theorem exists_assignUnlocked (currentTimeMillis : ℤ) :
    ∃ achievement' ∈
        (AchievementObject.assignUnlocked achievement.objectID currentTimeMillis context).rows,
      achievement'.objectID = achievement.objectID ∧ achievement'.isUnlocked = true := by
  refine ⟨setUnlocked currentTimeMillis achievement, ?_, rfl, rfl⟩
  rw [AchievementObject.assignUnlocked, assign, AutoTable.rows_updateSet]
  exact List.mem_map.mpr ⟨achievement, hmem, if_pos rfl⟩

/-- The object with the new progress is in the context. -/
theorem mem_assignProgress (progress : ℤ) :
    setProgress progress achievement ∈
      (assignProgress achievement.objectID progress context).rows := by
  rw [assignProgress, assign, AutoTable.rows_updateSet]
  exact List.mem_map.mpr ⟨achievement, hmem, if_pos rfl⟩

variable (h : Sound context celebrated)

include h

/-- **Progress below the maximum** of an object. -/
theorem Sound.assignProgress {progress : ℤ} (hlt : ¬ achievement.maxProgress ≤ progress) :
    Sound (assignProgress achievement.objectID progress context) celebrated := by
  refine h.of_keepsUnlocked (keepsUnlocked_assignProgress _ progress) ?_
  rw [AchievementObject.assignProgress, forall_mem_assign]
  intro other hother
  refine ⟨?_, fun _ => h.progress_le other hother⟩
  intro hid
  obtain rfl : other = achievement := AutoTable.eq_of_id_eq hother hmem hid
  exact (not_le.mp hlt).le

/-- What is locked was not celebrated yet. -/
theorem Sound.not_mem_celebrated (hlocked : achievement.isUnlocked = false) :
    achievement.objectID ∉ celebrated := by
  intro hcelebrated
  obtain ⟨other, hother, hid, hunlocked⟩ := h.unlocked _ hcelebrated
  obtain rfl : other = achievement := AutoTable.eq_of_id_eq hother hmem hid
  rw [hlocked] at hunlocked
  exact Bool.false_ne_true hunlocked

/-- **Progress that reaches the maximum** of a locked object unlocks it, and the object
may be celebrated. -/
theorem Sound.assignProgress_assignUnlocked (hlocked : achievement.isUnlocked = false)
    (progress currentTimeMillis : ℤ) {celebrating : List ℤ}
    (hcelebrating : celebrating.Sublist [achievement.objectID]) :
    Sound (AchievementObject.assignUnlocked achievement.objectID currentTimeMillis
      (AchievementObject.assignProgress achievement.objectID progress context))
      (celebrated ++ celebrating) := by
  have hafter : Sound (AchievementObject.assignUnlocked achievement.objectID currentTimeMillis
      (AchievementObject.assignProgress achievement.objectID progress context)) celebrated := by
    refine h.of_keepsUnlocked ((keepsUnlocked_assignProgress _ progress).trans
      (keepsUnlocked_assignUnlocked _ currentTimeMillis)) (progress_le_assignUnlocked _ ?_)
    rw [AchievementObject.assignProgress, forall_mem_assign]
    intro other hother
    exact ⟨fun hid hne => absurd hid hne, fun _ _ => h.progress_le other hother⟩
  refine ⟨hafter.progress_le, ?_, ?_⟩
  · rw [List.forall_mem_append]
    refine ⟨hafter.unlocked, fun objectID hobjectID => ?_⟩
    obtain rfl := List.mem_singleton.mp (hcelebrating.subset hobjectID)
    exact exists_assignUnlocked (mem_assignProgress hmem progress) currentTimeMillis
  · refine List.Nodup.append h.nodup ((List.nodup_singleton _).sublist hcelebrating) ?_
    intro objectID hbefore hobjectID
    rw [List.mem_singleton.mp (hcelebrating.subset hobjectID)] at hbefore
    exact h.not_mem_celebrated hmem hlocked hbefore

end Visits

/-- A reference leads to an object of the context with its id. -/
theorem find_eq_some {objectID : ℤ} {achievement : AchievementObject}
    (hfind : find objectID context = some achievement) :
    achievement ∈ context.rows ∧ achievement.objectID = objectID := by
  rw [find] at hfind
  have hid := List.find?_some hfind
  exact ⟨List.mem_of_find?_eq_some hfind, beq_iff_eq.mp hid⟩

/-- The seeded achievements have no progress yet. -/
theorem progress_le_seedAchievements (randomIds : ℕ → ℤ) (hempty : context.rows = []) :
    ∀ achievement ∈ (seedAchievements randomIds context).rows,
      achievement.progress ≤ achievement.maxProgress := by
  have hrows : (seedAchievements randomIds context).rows.map
      (fun achievement => decide (achievement.progress ≤ achievement.maxProgress)) = _ :=
    AutoTable.map_rows_foldl_insertOrReplace (fun _ _ => rfl) (fun _ => rfl) _ context
  rw [hempty] at hrows
  have hall : ∀ within ∈ (seedAchievements randomIds context).rows.map
      (fun achievement => decide (achievement.progress ≤ achievement.maxProgress)),
      within = true := by
    rw [hrows]
    simp [achievementsData, seedAchievement]
  intro achievement hmem
  exact of_decide_eq_true (hall _ (List.mem_map_of_mem hmem))

end Objects

/-! ### The turns of the loops -/

/-- What a call or a turn does to the objects: nothing unlocked is lost, and with what is
celebrated meanwhile the objects stay sound. -/
def Advances (before after : AutoTable AchievementObject) (celebrating : List ℤ) : Prop :=
  KeepsUnlocked before after ∧
    ∀ celebrated, Sound before celebrated → Sound after (celebrated ++ celebrating)

/-- Nothing done advances by nothing. -/
theorem Advances.refl (context : AutoTable AchievementObject) : Advances context context [] := by
  refine ⟨KeepsUnlocked.refl context, ?_⟩
  intro celebrated h
  rwa [List.append_nil]

/-- Advances compose, and what they celebrate adds up. -/
theorem Advances.trans {a b c : AutoTable AchievementObject} {celebrating celebrating' : List ℤ}
    (hab : Advances a b celebrating) (hbc : Advances b c celebrating') :
    Advances a c (celebrating ++ celebrating') := by
  refine ⟨hab.1.trans hbc.1, ?_⟩
  intro celebrated h
  rw [← List.append_assoc]
  exact hbc.2 _ (hab.2 _ h)

section Turns

variable (randomIds : ℕ → ℤ) (currentTimeMillis : ℤ → ℤ)

/-- Loading creates objects only where there are none. -/
theorem advances_loadAchievements (model : AchievementsModel) :
    Advances model.context (model.loadAchievements randomIds).context [] := by
  rw [AchievementsModel.loadAchievements]
  split_ifs with hempty
  · have hrows : model.context.rows = [] := by
      rw [fetchAchievements, List.isEmpty_iff] at hempty
      exact List.eq_nil_of_length_eq_zero
        ((List.length_insertionSort _ _).symm.trans (congrArg List.length hempty))
    have hkeeps : KeepsUnlocked model.context (seedAchievements randomIds model.context) := by
      intro achievement hmem
      rw [hrows] at hmem
      exact absurd hmem List.not_mem_nil
    refine ⟨hkeeps, fun celebrated h => ?_⟩
    rw [List.append_nil]
    exact h.of_keepsUnlocked hkeeps (progress_le_seedAchievements randomIds hrows)
  · exact Advances.refl model.context

/-- `unlockAchievement` advances without celebrating: the call to the notifications is its
caller's. -/
theorem advances_unlockAchievement (objectID : ℤ) (model : AchievementsModel) :
    Advances model.context
      (model.unlockAchievement randomIds currentTimeMillis objectID).context [] := by
  have hassign : Advances model.context
      (assignUnlocked objectID (currentTimeMillis objectID) model.context) [] := by
    refine ⟨keepsUnlocked_assignUnlocked objectID _, fun celebrated h => ?_⟩
    rw [List.append_nil]
    exact h.assignUnlocked objectID _
  exact hassign.trans (advances_loadAchievements randomIds
    { model with
      context := assignUnlocked objectID (currentTimeMillis objectID) model.context })

/-- An object that is given progress and unlocked when that reaches the maximum. -/
theorem advances_progress {model : AchievementsModel} {achievement : AchievementObject}
    (hmem : achievement ∈ model.context.rows) (hlocked : achievement.isUnlocked = false)
    (progress : ℤ) {celebrating : List ℤ}
    (hcelebrating : celebrating.Sublist [achievement.objectID]) :
    (achievement.maxProgress ≤ progress →
      Advances model.context
        (unlockAchievement randomIds currentTimeMillis achievement.objectID
          { model with
            context := assignProgress achievement.objectID progress model.context }).context
        celebrating) ∧
    (¬ achievement.maxProgress ≤ progress →
      Advances model.context (assignProgress achievement.objectID progress model.context) []) := by
  constructor
  · intro _
    have hunlock : Advances model.context
        (assignUnlocked achievement.objectID (currentTimeMillis achievement.objectID)
          (assignProgress achievement.objectID progress model.context)) celebrating :=
      ⟨(keepsUnlocked_assignProgress _ progress).trans (keepsUnlocked_assignUnlocked _ _),
        fun celebrated h => h.assignProgress_assignUnlocked hmem hlocked progress _ hcelebrating⟩
    have hload := hunlock.trans (advances_loadAchievements randomIds
      { model with context := (assignUnlocked achievement.objectID
          (currentTimeMillis achievement.objectID)
          (assignProgress achievement.objectID progress model.context)) })
    rwa [List.append_nil] at hload
  · intro hlt
    refine ⟨keepsUnlocked_assignProgress _ progress, fun celebrated h => ?_⟩
    rw [List.append_nil]
    exact h.assignProgress hmem hlt

/-- What a turn celebrates comes after what was celebrated in the loop before. -/
def Turns (before after : AchievementsModel.Loop) : Prop :=
  ∃ celebrating : List Celebration, after.celebrated = before.celebrated ++ celebrating ∧
    Advances before.model.context after.model.context
      (celebrating.map Celebration.objectID)

/-- No turn celebrates nothing. -/
theorem Turns.refl (loop : AchievementsModel.Loop) : Turns loop loop :=
  ⟨[], (List.append_nil _).symm, Advances.refl _⟩

/-- **A turn of `checkAchievements`.** -/
theorem turns_checkAchievement (transactionCount categories : ℤ) (notifies : Bool)
    (loop : AchievementsModel.Loop) (objectID : ℤ) :
    Turns loop (checkAchievement randomIds currentTimeMillis transactionCount categories notifies
      loop objectID) := by
  rw [checkAchievement]
  rcases hfind : find objectID loop.model.context with _ | achievement
  · exact Turns.refl loop
  obtain ⟨hmem, rfl⟩ := find_eq_some hfind
  rcases hlock : achievement.isUnlocked with _ | _
  · rcases hprogress : checkedProgress transactionCount categories achievement with _ | progress
    · simpa [hlock, hprogress] using Turns.refl loop
    · have hcelebrate : ((celebrate notifies achievement).map Celebration.objectID).Sublist
          [achievement.objectID] := by
        rw [celebrate]
        split_ifs
        · exact List.Sublist.refl _
        · exact List.nil_sublist _
      obtain ⟨hunlock, hassign⟩ :=
        advances_progress randomIds currentTimeMillis hmem hlock progress hcelebrate
      simp only [hlock, Bool.false_eq_true, if_false, hprogress]
      split_ifs with hle
      · exact ⟨_, rfl, hunlock hle⟩
      · exact ⟨[], (List.append_nil _).symm, hassign hle⟩
  · simpa [hlock] using Turns.refl loop

/-- **A turn of `updateProgress`** celebrates nothing. -/
theorem turns_updateAchievement (category : Text) (progress : ℤ)
    (loop : AchievementsModel.Loop) (objectID : ℤ) :
    Turns loop (updateAchievement randomIds currentTimeMillis category progress loop objectID) := by
  rw [updateAchievement]
  rcases hfind : find objectID loop.model.context with _ | achievement
  · exact Turns.refl loop
  obtain ⟨hmem, rfl⟩ := find_eq_some hfind
  dsimp only
  split_ifs with hlocked hle
  · obtain ⟨hunlock, -⟩ := advances_progress randomIds currentTimeMillis hmem hlocked.2 progress
      (List.nil_sublist _)
    exact ⟨[], (List.append_nil _).symm, hunlock hle⟩
  · obtain ⟨-, hassign⟩ := advances_progress randomIds currentTimeMillis hmem hlocked.2 progress
      (List.nil_sublist _)
    exact ⟨[], (List.append_nil _).symm, hassign hle⟩
  · exact Turns.refl loop

/-- `updateProgress` celebrates nothing at all. -/
theorem celebrated_foldl_updateAchievement (category : Text) (progress : ℤ)
    (objectIDs : List ℤ) (loop : AchievementsModel.Loop) :
    (objectIDs.foldl (updateAchievement randomIds currentTimeMillis category progress)
      loop).celebrated = loop.celebrated := by
  induction objectIDs generalizing loop with
  | nil => rfl
  | cons objectID objectIDs ih =>
      rw [List.foldl_cons, ih, updateAchievement]
      cases find objectID loop.model.context with
      | none => rfl
      | some achievement =>
          dsimp only
          split_ifs
          · rfl
          · rfl
          · rfl

/-- Turns one after the other. -/
theorem Turns.foldl {turn : AchievementsModel.Loop → ℤ → AchievementsModel.Loop}
    (hturn : ∀ loop objectID, Turns loop (turn loop objectID)) (objectIDs : List ℤ)
    (loop : AchievementsModel.Loop) : Turns loop (objectIDs.foldl turn loop) := by
  induction objectIDs generalizing loop with
  | nil => exact Turns.refl loop
  | cons objectID objectIDs ih =>
      obtain ⟨celebrating, hcelebrated, hfirst⟩ := hturn loop objectID
      obtain ⟨celebrating', hcelebrated', hrest⟩ := ih (turn loop objectID)
      refine ⟨celebrating ++ celebrating', ?_, ?_⟩
      · rw [List.foldl_cons, hcelebrated', hcelebrated, List.append_assoc]
      · rw [List.foldl_cons, List.map_append]
        exact hfirst.trans hrest

/-- The end of both loops, which load the array again if something changed. -/
theorem advances_reload {before : AchievementsModel} {loop : AchievementsModel.Loop}
    {celebrating : List ℤ} (h : Advances before.context loop.model.context celebrating) :
    Advances before.context
      (if loop.hasChanges then loop.model.loadAchievements randomIds else loop.model).context
      celebrating := by
  split_ifs
  · have hload := h.trans (advances_loadAchievements randomIds loop.model)
    rwa [List.append_nil] at hload
  · exact h

end Turns

/-! ### Runs -/

/-- Calls of the view model, with the numbers that seeding would draw and the times at
which objects are unlocked; and a start of the app, with a new view model. -/
inductive AchievementsEvent
  | loadAchievements (randomIds : ℕ → ℤ)
  | checkAchievements (randomIds : ℕ → ℤ) (currentTimeMillis : ℤ → ℤ)
      (transactionCount categories : ℤ) (notifies : Bool)
  | updateProgress (randomIds : ℕ → ℤ) (currentTimeMillis : ℤ → ℤ) (category : Text)
      (progress : ℤ)
  | unlockAchievement (randomIds : ℕ → ℤ) (currentTimeMillis : ℤ → ℤ) (objectID : ℤ)
  | restart

namespace AchievementsEvent

/-- One event on the view model. A restart empties the array and keeps the store. -/
def step (model : AchievementsModel) : AchievementsEvent → AchievementsModel
  | loadAchievements randomIds => model.loadAchievements randomIds
  | checkAchievements randomIds currentTimeMillis transactionCount categories notifies =>
      model.checkAchievements randomIds currentTimeMillis transactionCount categories notifies
  | updateProgress randomIds currentTimeMillis category progress =>
      model.updateProgress randomIds currentTimeMillis category progress
  | unlockAchievement randomIds currentTimeMillis objectID =>
      model.unlockAchievement randomIds currentTimeMillis objectID
  | restart => { model with achievements := [] }

/-- What `checkAchievements` celebrates. -/
def celebrated (model : AchievementsModel) : AchievementsEvent → List Celebration
  | checkAchievements randomIds currentTimeMillis transactionCount categories notifies =>
      (checkLoop randomIds currentTimeMillis transactionCount categories notifies model).celebrated
  | _ => []

end AchievementsEvent

/-- **The step.** -/
theorem advances_step (model : AchievementsModel) (event : AchievementsEvent) :
    Advances model.context (event.step model).context
      ((event.celebrated model).map Celebration.objectID) := by
  cases event with
  | loadAchievements randomIds => exact advances_loadAchievements randomIds model
  | checkAchievements randomIds currentTimeMillis transactionCount categories notifies =>
      obtain ⟨celebrating, hcelebrated, hadvances⟩ := Turns.foldl
        (turns_checkAchievement randomIds currentTimeMillis transactionCount categories notifies)
        model.achievements { model := model, hasChanges := false, celebrated := [] }
      refine advances_reload randomIds ?_
      rw [AchievementsEvent.celebrated, checkLoop, hcelebrated]
      exact hadvances
  | updateProgress randomIds currentTimeMillis category progress =>
      obtain ⟨celebrating, hcelebrated, hadvances⟩ := Turns.foldl
        (turns_updateAchievement randomIds currentTimeMillis category progress)
        model.achievements { model := model, hasChanges := false, celebrated := [] }
      rw [celebrated_foldl_updateAchievement] at hcelebrated
      obtain rfl : celebrating = [] := hcelebrated.symm
      exact advances_reload randomIds hadvances
  | unlockAchievement randomIds currentTimeMillis objectID =>
      exact advances_unlockAchievement randomIds currentTimeMillis objectID model
  | restart => exact Advances.refl model.context

/-- The store as it is seeded, before any screen has loaded it. -/
def AchievementsModel.seeded (randomIds : ℕ → ℤ) : AchievementsModel where
  context := seedAchievements randomIds (AutoTable.empty _)
  achievements := []

/-- A seeded store is sound, and nothing was celebrated yet. -/
theorem sound_seeded (randomIds : ℕ → ℤ) :
    Sound (AchievementsModel.seeded randomIds).context [] :=
  ⟨progress_le_seedAchievements randomIds rfl, by simp, List.nodup_nil⟩

/-- **The run.** A run advances the objects as its steps do. -/
theorem advances_run (model : AchievementsModel) (events : List AchievementsEvent) :
    Advances model.context (run AchievementsEvent.step model events).context
      ((outputs AchievementsEvent.step AchievementsEvent.celebrated model events).map
        Celebration.objectID) := by
  induction events generalizing model with
  | nil => exact Advances.refl model.context
  | cons event events ih =>
      rw [outputs_cons, List.map_append]
      exact (advances_step model event).trans (ih (event.step model))

/-- In every state of a run the objects are sound together with all that was celebrated. -/
theorem sound_run (randomIds : ℕ → ℤ) (events : List AchievementsEvent) :
    Sound (run AchievementsEvent.step (.seeded randomIds) events).context
      ((outputs AchievementsEvent.step AchievementsEvent.celebrated (.seeded randomIds)
        events).map Celebration.objectID) :=
  (advances_run (.seeded randomIds) events).2 [] (sound_seeded randomIds)

/-- **Achievements over a run.** No progress exceeds its maximum after a call, what is
unlocked stays unlocked, and `checkAchievements` celebrates no object twice. -/
theorem celebrated_once_of_run (randomIds : ℕ → ℤ) (events : List AchievementsEvent) :
    (∀ pre, pre <+: events →
      ∀ achievement ∈ (run AchievementsEvent.step (.seeded randomIds) pre).context.rows,
        achievement.progress ≤ achievement.maxProgress) ∧
    (∀ pre mid, pre ++ mid <+: events →
      KeepsUnlocked (run AchievementsEvent.step (.seeded randomIds) pre).context
        (run AchievementsEvent.step (.seeded randomIds) (pre ++ mid)).context) ∧
    ((outputs AchievementsEvent.step AchievementsEvent.celebrated (.seeded randomIds)
      events).map Celebration.objectID).Nodup := by
  refine ⟨?_, ?_, (sound_run randomIds events).nodup⟩
  · intro pre _
    exact (sound_run randomIds pre).progress_le
  · intro pre mid _
    rw [run_append]
    exact (advances_run _ mid).1

end SpendCraft.Ios
