import SpendCraft.Streaks
import Mathlib.Order.Bounds.Basic

/-!
# The Best Streak

`StreakRepositoryImpl.calculateStreak` against the set of the logged days. The current
streak is found by a `while` loop that walks back over the days, the best one by one pass
over the sorted days with a running and a maximal length.

## Conventions

Days are integers, in a list without repetitions, which the primary key of the table guarantees;
the function sorts it. The `while` loop is a relation (`CountsBack`) beside the recursion that
computes it: that the loop ends is then a statement about the source, and not about the way it is
modelled. `EndsRun` says that a number of days up to a last one are all logged, and a streak is a
greatest such number: of the days up to today or yesterday, or of all.

## Proof

The walk back is followed by the number of days it has passed. The pass over the sorted days has
the invariant that the running length is that of the block which ends at the last day, and the
maximal length the greatest one so far; a day that is not the next one starts a new block. The
current streak is at most the best one because its days are a block as well.

## Main results

* `countsBack_countBack`: the `while` loop ends.
* `isGreatest_bestFrom`: the invariant of the pass.
* `calculateStreak_spec`: both components of the streak are the longest blocks.
-/

namespace SpendCraft

/-- The `k` days up to `last` are in `days`. -/
def EndsRun (days : List ℤ) (last : ℤ) (k : ℕ) : Prop :=
  ∀ i : ℕ, i < k → last - i ∈ days

/-- The lengths of the runs of consecutive days in `days`. -/
def runLengths (days : List ℤ) : Set ℕ :=
  {k | ∃ last, EndsRun days last k}

/-- Every day ends the empty run. -/
theorem endsRun_zero (days : List ℤ) (last : ℤ) : EndsRun days last 0 := by
  intro i hi
  omega

/-- A block is the longest run that ends on its last day. -/
theorem Block.isGreatest {days : List ℤ} {last : ℤ} {k : ℕ} (h : Block days last k) :
    IsGreatest {k | EndsRun days last k} k := by
  refine ⟨h.mem, ?_⟩
  intro l hl
  by_contra hlt
  rw [not_le] at hlt
  exact h.not_mem (hl k hlt)

/-- Of the runs with a day later than the others, only those that end on it are new. -/
theorem isGreatest_append {days : List ℤ} {day : ℤ} {longest k : ℕ}
    (hlater : ∀ d ∈ days, d < day) (hlongest : IsGreatest (runLengths days) longest)
    (hblock : Block (days ++ [day]) day k) :
    IsGreatest (runLengths (days ++ [day])) (max longest k) := by
  constructor
  · obtain hle | hle := le_total longest k
    · rw [max_eq_right hle]
      exact ⟨day, hblock.mem⟩
    · rw [max_eq_left hle]
      obtain ⟨last, hrun⟩ := hlongest.1
      exact ⟨last, fun i hi => List.mem_append_left _ (hrun i hi)⟩
  · rintro l ⟨last, hrun⟩
    by_cases hlast : last = day
    · rw [hlast] at hrun
      exact le_max_of_le_right (hblock.isGreatest.2 hrun)
    · apply le_max_of_le_left
      apply hlongest.2
      refine ⟨last, fun i hi => ?_⟩
      -- the last day of the run is an old one, so that the others are before the new day
      have hold : last ∈ days := by
        have hmem := hrun 0 (by omega)
        rw [Nat.cast_zero, sub_zero, List.mem_append, List.mem_singleton] at hmem
        exact hmem.resolve_right hlast
      have hlt := hlater last hold
      have hmem := hrun i hi
      rw [List.mem_append, List.mem_singleton] at hmem
      exact hmem.resolve_right (by omega)

/-! ### The walk back -/

namespace StreakRepositoryImpl

/-- The loop `while (sortedDays.contains(checkDay)) { currentStreak++; checkDay-- }` ends,
with a value of `currentStreak`. -/
inductive CountsBack (sortedDays : List ℤ) : ℤ → ℕ → ℕ → Prop
  | stop {checkDay : ℤ} {currentStreak : ℕ} :
      checkDay ∉ sortedDays → CountsBack sortedDays checkDay currentStreak currentStreak
  | next {checkDay : ℤ} {currentStreak result : ℕ} :
      checkDay ∈ sortedDays → CountsBack sortedDays (checkDay - 1) (currentStreak + 1) result →
      CountsBack sortedDays checkDay currentStreak result

/-- The loop counts the block that ends at its day, and stops. -/
theorem countsBack_of_block {sortedDays : List ℤ} {checkDay : ℤ} {k : ℕ}
    (h : Block sortedDays checkDay k) (currentStreak : ℕ) :
    CountsBack sortedDays checkDay currentStreak (currentStreak + k) := by
  induction k generalizing checkDay currentStreak with
  | zero =>
      refine CountsBack.stop ?_
      simpa using h.not_mem
  | succ k ih =>
      have hmem : checkDay ∈ sortedDays := by simpa using h.mem 0 (by omega)
      obtain ⟨l, hl⟩ := exists_block sortedDays (checkDay - 1)
      obtain rfl : k = l := Nat.succ_injective (h.unique (hl.succ hmem))
      have hrest := ih hl (currentStreak + 1)
      rw [Nat.add_assoc, Nat.add_comm 1 k] at hrest
      exact CountsBack.next hmem hrest

/-- **The loop ends**, and its fuel has not run out by then. -/
theorem countsBack_countBack {sortedDays : List ℤ} {checkDay : ℤ} (currentStreak : ℕ) :
    CountsBack sortedDays checkDay currentStreak
      (countBack sortedDays sortedDays.length checkDay currentStreak) := by
  obtain ⟨k, hk⟩ := exists_block sortedDays checkDay
  rw [countBack_eq hk (length_of_forall_mem hk.mem)]
  exact countsBack_of_block hk currentStreak

/-! ### The pass over the sorted days -/

/-- **The invariant of the pass.** The running length is that of the block that ends on the
last day that was read, and the maximal one that of the longest run in the days read. -/
theorem isGreatest_bestFrom {seen rest : List ℤ} {previous : ℤ} {maxStreak currentStreak : ℕ}
    (hsorted : (previous :: rest).Pairwise (· < ·)) (hseen : ∀ day ∈ seen, day ≤ previous)
    (hprevious : previous ∈ seen) (hblock : Block seen previous currentStreak)
    (hmax : IsGreatest (runLengths seen) maxStreak) :
    IsGreatest (runLengths (seen ++ rest)) (bestFrom previous rest maxStreak currentStreak) := by
  induction rest generalizing seen previous maxStreak currentStreak with
  | nil =>
      rw [List.append_nil]
      exact hmax
  | cons day rest ih =>
      obtain ⟨hlt, hsorted⟩ := List.pairwise_cons.mp hsorted
      have hday : previous < day := hlt day List.mem_cons_self
      have hlater : ∀ d ∈ seen, d < day := fun d hd => lt_of_le_of_lt (hseen d hd) hday
      have hseen' : ∀ d ∈ seen ++ [day], d ≤ day := by
        intro d hd
        obtain hd | hd := List.mem_append.mp hd
        · exact le_of_lt (hlater d hd)
        · rw [List.mem_singleton.mp hd]
      have hmem : day ∈ seen ++ [day] := List.mem_append_right _ List.mem_cons_self
      rw [bestFrom, List.append_cons]
      split_ifs with hnext
      · have hblock' : Block (seen ++ [day]) day (currentStreak + 1) := by
          refine Block.succ hmem ?_
          rw [hnext, add_sub_cancel_right]
          refine ⟨fun i hi => List.mem_append_left _ (hblock.mem i hi), ?_⟩
          rw [List.mem_append, List.mem_singleton, not_or]
          exact ⟨hblock.not_mem, by omega⟩
        exact ih hsorted hseen' hmem hblock' (isGreatest_append hlater hmax hblock')
      · have hblock' : Block (seen ++ [day]) day 1 := by
          refine Block.succ hmem (Block.zero ?_)
          rw [List.mem_append, List.mem_singleton, not_or]
          refine ⟨fun hd => ?_, by omega⟩
          have := hseen _ hd
          omega
        have hone : 1 ≤ maxStreak := by
          apply hmax.2
          refine ⟨previous, fun i hi => ?_⟩
          obtain rfl : i = 0 := by omega
          simpa using hprevious
        have hgreatest := isGreatest_append hlater hmax hblock'
        rw [max_eq_left hone] at hgreatest
        exact ih hsorted hseen' hmem hblock' hgreatest

/-- The best streak of a sorted list is the greatest length of its runs. -/
theorem isGreatest_calculateBestStreak {sortedDays : List ℤ}
    (hsorted : sortedDays.Pairwise (· < ·)) :
    IsGreatest (runLengths sortedDays) (calculateBestStreak sortedDays) := by
  cases sortedDays with
  | nil =>
      refine ⟨⟨0, endsRun_zero [] 0⟩, ?_⟩
      rintro k ⟨last, hrun⟩
      exact length_of_forall_mem hrun
  | cons day days =>
      have hblock : Block [day] day 1 :=
        Block.succ List.mem_cons_self (Block.zero (by simp))
      have hempty : IsGreatest (runLengths []) 0 :=
        ⟨⟨0, endsRun_zero [] 0⟩, fun k ⟨_, hrun⟩ => length_of_forall_mem hrun⟩
      have hone : IsGreatest (runLengths ([] ++ [day])) (max 0 1) :=
        isGreatest_append (by simp) hempty hblock
      have hdays : IsGreatest (runLengths ([day] ++ days)) (bestFrom day days 1 1) :=
        isGreatest_bestFrom hsorted (by simp) List.mem_cons_self hblock hone
      exact hdays

/-! ### The streak -/

/-- The current streak is the longest run of logged days that ends today, or yesterday if
today is not logged; the best one is the longest of all. -/
structure IsStreakOf (logged : List ℤ) (today : ℤ) (streak : Streak) : Prop where
  current_today : today ∈ logged → IsGreatest {k | EndsRun logged today k} streak.current
  current_yesterday : today ∉ logged →
    IsGreatest {k | EndsRun logged (today - 1) k} streak.current
  current_none : today ∉ logged → today - 1 ∉ logged → streak.current = 0
  best : IsGreatest (runLengths logged) streak.best
  current_le_best : streak.current ≤ streak.best

/-- The `while` loops of the function end with the current streak. -/
structure Terminates (sortedDays : List ℤ) (today : ℤ) (streak : Streak) : Prop where
  from_today : today ∈ sortedDays → CountsBack sortedDays (today - 1) 1 streak.current
  from_yesterday : today ∉ sortedDays → today - 1 ∈ sortedDays →
    CountsBack sortedDays (today - 1 - 1) 1 streak.current

/-- The streak of the logged days is determined. -/
theorem IsStreakOf.unique {logged : List ℤ} {today : ℤ} {streak streak' : Streak}
    (h : IsStreakOf logged today streak) (h' : IsStreakOf logged today streak') :
    streak = streak' := by
  obtain ⟨current, best⟩ := streak
  obtain ⟨current', best'⟩ := streak'
  have hbest : best = best' := h.best.unique h'.best
  have hcurrent : current = current' := by
    by_cases hmem : today ∈ logged
    · exact (h.current_today hmem).unique (h'.current_today hmem)
    · exact (h.current_yesterday hmem).unique (h'.current_yesterday hmem)
  rw [hbest, hcurrent]

/-- The streak depends on which days are logged, not on their order. -/
theorem IsStreakOf.congr {logged logged' : List ℤ} {today : ℤ} {streak : Streak}
    (h : IsStreakOf logged today streak) (hmem : ∀ day, day ∈ logged' ↔ day ∈ logged) :
    IsStreakOf logged' today streak := by
  have hrun : EndsRun logged' = EndsRun logged := by
    funext last k
    simp only [EndsRun, hmem]
  have hlengths : runLengths logged' = runLengths logged := by
    rw [runLengths, runLengths, hrun]
  constructor
  · rw [hmem, hrun]
    exact h.current_today
  · rw [hmem, hrun]
    exact h.current_yesterday
  · rw [hmem, hmem]
    exact h.current_none
  · rw [hlengths]
    exact h.best
  · exact h.current_le_best

/-- The current streak, as one block. -/
theorem isGreatest_calculateCurrent {sortedDays : List ℤ} {today last : ℤ}
    (hlast : today ∈ sortedDays ∧ last = today ∨ today ∉ sortedDays ∧ last = today - 1) :
    IsGreatest {k | EndsRun sortedDays last k} (calculateCurrent today sortedDays) := by
  obtain ⟨k, hk⟩ := exists_block sortedDays last
  have hcurrent : calculateCurrent today sortedDays = k := by
    by_cases hmem : last ∈ sortedDays
    · refine calculateCurrent_eq ?_ hk
      obtain ⟨htoday, heq⟩ | ⟨htoday, heq⟩ := hlast
      · exact Or.inl ⟨htoday, heq⟩
      · exact Or.inr ⟨htoday, heq ▸ hmem, heq⟩
    · obtain rfl := hk.unique (Block.zero hmem)
      obtain ⟨htoday, rfl⟩ | ⟨htoday, rfl⟩ := hlast
      · exact absurd htoday hmem
      · exact calculateCurrent_eq_zero_iff.mpr ⟨htoday, hmem⟩
  rw [hcurrent]
  exact hk.isGreatest

/-- For sorted days, the two computed numbers are the streak. -/
theorem isStreakOf_sorted {sortedDays : List ℤ} (hsorted : sortedDays.Pairwise (· < ·))
    (today : ℤ) :
    IsStreakOf sortedDays today
      { current := calculateCurrent today sortedDays
        best := max (calculateCurrent today sortedDays) (calculateBestStreak sortedDays) } := by
  have hbest := isGreatest_calculateBestStreak hsorted
  have hle : calculateCurrent today sortedDays ≤ calculateBestStreak sortedDays := by
    apply hbest.2
    by_cases hmem : today ∈ sortedDays
    · exact ⟨today, (isGreatest_calculateCurrent (Or.inl ⟨hmem, rfl⟩)).1⟩
    · exact ⟨today - 1, (isGreatest_calculateCurrent (Or.inr ⟨hmem, rfl⟩)).1⟩
  refine ⟨fun hmem => isGreatest_calculateCurrent (Or.inl ⟨hmem, rfl⟩),
    fun hmem => isGreatest_calculateCurrent (Or.inr ⟨hmem, rfl⟩),
    fun htoday hyesterday => calculateCurrent_eq_zero_iff.mpr ⟨htoday, hyesterday⟩, ?_, ?_⟩
  · rw [max_eq_right hle]
    exact hbest
  · exact le_max_left _ _

/-- On the sorted days, the case of the empty list is no special one. -/
theorem calculateStreak_eq (now : ℤ) (entries : List DailyEntryEntity) :
    calculateStreak now entries =
      { current := calculateCurrent (epochDayOf now)
          ((entries.map DailyEntryEntity.dateEpochDay).insertionSort (· ≤ ·))
        best := max (calculateCurrent (epochDayOf now)
            ((entries.map DailyEntryEntity.dateEpochDay).insertionSort (· ≤ ·)))
          (calculateBestStreak
            ((entries.map DailyEntryEntity.dateEpochDay).insertionSort (· ≤ ·))) } := by
  rw [calculateStreak]
  split_ifs with hempty
  · rw [List.isEmpty_iff.mp hempty]
    rfl
  · rfl

/-- Both loops end. -/
theorem terminates_calculateCurrent (sortedDays : List ℤ) (today : ℤ) (best : ℕ) :
    Terminates sortedDays today
      { current := calculateCurrent today sortedDays
        best := best } := by
  constructor
  · intro htoday
    rw [calculateCurrent, if_pos htoday]
    exact countsBack_countBack 1
  · intro htoday hyesterday
    rw [calculateCurrent, if_neg htoday, if_pos hyesterday]
    exact countsBack_countBack 1

/-- **What `calculateStreak` computes** is the streak of the logged days. -/
theorem isStreakOf_calculateStreak (now : ℤ) {entries : List DailyEntryEntity}
    (hdistinct : (entries.map DailyEntryEntity.dateEpochDay).Nodup) :
    IsStreakOf (entries.map DailyEntryEntity.dateEpochDay) (epochDayOf now)
      (calculateStreak now entries) := by
  have hsorted : ((entries.map DailyEntryEntity.dateEpochDay).insertionSort
      (· ≤ ·)).Pairwise (· < ·) := by
    have hle : ((entries.map DailyEntryEntity.dateEpochDay).insertionSort
        (· ≤ ·)).Pairwise (· ≤ ·) := List.pairwise_insertionSort _ _
    have hnodup := (List.perm_insertionSort (· ≤ ·)
      (entries.map DailyEntryEntity.dateEpochDay)).nodup_iff.mpr hdistinct
    exact (hle.and hnodup).imp fun ⟨hab, hne⟩ => lt_of_le_of_ne hab hne
  rw [calculateStreak_eq]
  refine (isStreakOf_sorted hsorted (epochDayOf now)).congr fun day => ?_
  rw [List.mem_insertionSort]

/-- **`calculateStreak` is correct** on different days, and its loops end. -/
theorem calculateStreak_spec (now : ℤ) {entries : List DailyEntryEntity}
    (hdistinct : (entries.map DailyEntryEntity.dateEpochDay).Nodup) :
    IsStreakOf (entries.map DailyEntryEntity.dateEpochDay) (epochDayOf now)
        (calculateStreak now entries) ∧
      Terminates ((entries.map DailyEntryEntity.dateEpochDay).insertionSort (· ≤ ·))
        (epochDayOf now) (calculateStreak now entries) := by
  refine ⟨isStreakOf_calculateStreak now hdistinct, ?_⟩
  rw [calculateStreak_eq]
  exact terminates_calculateCurrent _ _ _

/-- Two days, a gap, and three more of which the last one is yesterday. -/
theorem calculateStreak_spec_gap :
    IsStreakOf [14, 10, 11, 15, 16] (epochDayOf (17 * 86400000))
        (calculateStreak (17 * 86400000) ([14, 10, 11, 15, 16].map DailyEntryEntity.mk)) ∧
      Terminates [10, 11, 14, 15, 16] (epochDayOf (17 * 86400000))
        (calculateStreak (17 * 86400000) ([14, 10, 11, 15, 16].map DailyEntryEntity.mk)) :=
  calculateStreak_spec (17 * 86400000)
    (by decide : (([14, 10, 11, 15, 16].map DailyEntryEntity.mk).map
      DailyEntryEntity.dateEpochDay).Nodup)

end StreakRepositoryImpl

end SpendCraft
