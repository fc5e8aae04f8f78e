import SpendCraft.Lib.JavaTime
import SpendCraft.Model
import Mathlib.Data.List.Dedup
import Mathlib.Data.List.Sort

/-!
# Streaks

Two computations of the current streak. `StreakRepositoryImpl` walks back from today, or
from yesterday if today is not logged, as long as the day is logged.
`AchievementManagerImpl` goes through the distinct dates of the transactions, latest
first, and accepts a date that is one day earlier than expected at every step.

A `LocalDate` is given by its epoch day, and `now` is the current time in milliseconds.

## Conventions

The repository reads the table of the logged days, the achievements the transactions, whose dates
are those of UTC. The property compares the two where they have the same days. The `while` loop is
a recursion with fuel, one round for each day of the list, and `calculateCurrent_eq` shows that
the fuel is enough; that the loop itself ends is the subject of `BestStreak`.

`TolerancesUnused` names the two ways in which the scan is more generous: it begins at a day after
today, and it passes over a day that is missing.

## Proof

Both functions are compared with a block, the longest run of logged days that ends at a given day.
The walk back counts it. The scan over the descending dates counts the block as well, and goes on
behind it just if a gap of a single day is followed by a logged one (`streakFrom_eq_iff`, by
induction on the dates). What is left is where the two begin.

## Main results

* `calculateCurrent_eq`: the streak of the repository is the length of an unbroken block.
* `streakFrom_eq_iff`: the scan of the achievements against such a block.
* `streaksAgree_iff`: when the two computations agree.
-/

namespace SpendCraft

open Calendar

/-- The epoch day of the UTC date of an instant. -/
def epochDayOf (epochMilli : ℤ) : ℤ :=
  (JavaTime.utcDate epochMilli).toEpochDay

/-- Floor division, also for times before 1970. -/
theorem epochDayOf_eq (epochMilli : ℤ) : epochDayOf epochMilli = epochMilli / 86400000 := by
  rw [epochDayOf, JavaTime.utcDate, LocalDate.toEpochDay_ofEpochDay]

namespace AchievementManagerImpl

/-- The loop over the dates that are left; it stops at the first one not accepted. -/
def streakFrom : List ℤ → ℤ → ℕ → ℕ
  | [], _, streak => streak
  | date :: dates, currentDate, streak =>
      if date = currentDate ∨ date = currentDate - 1 then
        streakFrom dates (date - 1) (streak + 1)
      else streak

/-- `transactions.map { … }.distinct().sortedDescending()`. -/
def transactionDates (transactions : List Transaction) : List ℤ :=
  (transactions.map fun t => epochDayOf t.timestampUtcMillis).dedup.insertionSort (· ≥ ·)

/-- `calculateCurrentStreak`: the streak that ends today, counted back over the dates of the
transactions. -/
def calculateCurrentStreak (now : ℤ) (transactions : List Transaction) : ℕ :=
  if transactions.isEmpty then 0
  else streakFrom (transactionDates transactions) (epochDayOf now) 0

end AchievementManagerImpl

/-- A day on which something was entered. -/
structure DailyEntryEntity where
  dateEpochDay : ℤ
  deriving DecidableEq, Repr

/-- The streak that is shown. -/
structure Streak where
  current : ℕ
  best : ℕ
  deriving DecidableEq, Repr

namespace StreakRepositoryImpl

/-- `while (sortedDays.contains(checkDay)) { … }`, with at most `fuel` rounds. -/
def countBack (sortedDays : List ℤ) : ℕ → ℤ → ℕ → ℕ
  | 0, _, currentStreak => currentStreak
  | fuel + 1, checkDay, currentStreak =>
      if checkDay ∈ sortedDays then countBack sortedDays fuel (checkDay - 1) (currentStreak + 1)
      else currentStreak

/-- The loop of `calculateBestStreak` after the day `previous`. -/
def bestFrom : ℤ → List ℤ → ℕ → ℕ → ℕ
  | _, [], maxStreak, _ => maxStreak
  | previous, day :: days, maxStreak, currentStreak =>
      if day = previous + 1 then
        bestFrom day days (max maxStreak (currentStreak + 1)) (currentStreak + 1)
      else bestFrom day days maxStreak 1

/-- `calculateBestStreak`: the longest block of days that follow one another. -/
def calculateBestStreak : List ℤ → ℕ
  | [] => 0
  | day :: days => bestFrom day days 1 1

/-- The first part of `calculateStreak`. A day of the list ends at most as many rounds as
the list has days, so the fuel does not run out. -/
def calculateCurrent (today : ℤ) (sortedDays : List ℤ) : ℕ :=
  let fuel := sortedDays.length
  if today ∈ sortedDays then countBack sortedDays fuel (today - 1) 1
  else if today - 1 ∈ sortedDays then countBack sortedDays fuel (today - 1 - 1) 1
  else 0

/-- `calculateStreak`: the current streak ends today or yesterday, and the best is at least the
current. -/
def calculateStreak (now : ℤ) (entries : List DailyEntryEntity) : Streak :=
  if entries.isEmpty then { current := 0, best := 0 }
  else
    let sortedDays := (entries.map DailyEntryEntity.dateEpochDay).insertionSort (· ≤ ·)
    let currentStreak := calculateCurrent (epochDayOf now) sortedDays
    let bestStreak := calculateBestStreak sortedDays
    { current := currentStreak, best := max currentStreak bestStreak }

end StreakRepositoryImpl

/-! ### Unbroken blocks -/

/-- The days before `last + 1` are in `days` for `k` days, and the next one is not. -/
structure Block (days : List ℤ) (last : ℤ) (k : ℕ) : Prop where
  mem : ∀ i : ℕ, i < k → last - i ∈ days
  not_mem : last - k ∉ days

/-- The length of the block that ends at a day is determined. -/
theorem Block.unique {days : List ℤ} {last : ℤ} {k l : ℕ} (hk : Block days last k)
    (hl : Block days last l) : k = l := by
  obtain hlt | heq | hgt := lt_trichotomy k l
  · exact absurd (hl.mem k hlt) hk.not_mem
  · exact heq
  · exact absurd (hk.mem l hgt) hl.not_mem

/-- No block ends at a day that is missing. -/
theorem Block.zero {days : List ℤ} {last : ℤ} (h : last ∉ days) : Block days last 0 where
  mem i hi := absurd hi (Nat.not_lt_zero i)
  not_mem := by simpa using h

/-- A day after a block makes it one longer. -/
theorem Block.succ {days : List ℤ} {last : ℤ} {k : ℕ} (hlast : last ∈ days)
    (h : Block days (last - 1) k) : Block days last (k + 1) where
  mem i hi := by
    cases i with
    | zero => simpa using hlast
    | succ i =>
        have hmem := h.mem i (by omega)
        rwa [sub_sub, add_comm, ← Nat.cast_succ] at hmem
  not_mem := by
    have hnot := h.not_mem
    rwa [sub_sub, add_comm, ← Nat.cast_succ] at hnot

/-- A block is no longer than the list. -/
theorem length_of_forall_mem {days : List ℤ} {last : ℤ} {k : ℕ}
    (h : ∀ i : ℕ, i < k → last - i ∈ days) : k ≤ days.length := by
  have hnodup : ((List.range k).map fun i : ℕ => last - (i : ℤ)).Nodup := by
    refine List.Nodup.map ?_ List.nodup_range
    intro i j heq
    simpa using heq
  have hsub : ((List.range k).map fun i : ℕ => last - (i : ℤ)) ⊆ days := by
    intro day hday
    obtain ⟨i, hi, rfl⟩ := List.mem_map.mp hday
    exact h i (List.mem_range.mp hi)
  have hlength := (List.subperm_of_subset hnodup hsub).length_le
  rwa [List.length_map, List.length_range] at hlength

/-- Every day ends a block, as the list is finite. -/
theorem exists_block (days : List ℤ) (last : ℤ) : ∃ k, Block days last k := by
  have hend : ∃ k : ℕ, last - k ∉ days := by
    by_contra hall
    rw [not_exists] at hall
    have hle : days.length + 1 ≤ days.length :=
      length_of_forall_mem fun i _ => not_not.mp (hall i)
    omega
  classical
  refine ⟨Nat.find hend, fun i hi => ?_, Nat.find_spec hend⟩
  exact not_not.mp (Nat.find_min hend hi)

/-- A later day in front changes nothing. -/
theorem Block.cons {days : List ℤ} {last : ℤ} {k : ℕ} {day : ℤ} (h : Block days last k)
    (hday : last < day) : Block (day :: days) last k where
  mem i hi := List.mem_cons_of_mem day (h.mem i hi)
  not_mem hmem := by
    obtain heq | hmem := List.mem_cons.mp hmem
    · omega
    · exact h.not_mem hmem

/-- A block depends on which days there are, not on their order. -/
theorem Block.congr {days dates : List ℤ} {last : ℤ} {k : ℕ} (h : Block days last k)
    (hmem : ∀ day, day ∈ dates ↔ day ∈ days) : Block dates last k where
  mem i hi := (hmem _).mpr (h.mem i hi)
  not_mem hnot := h.not_mem ((hmem _).mp hnot)

/-! ### The walk back -/

namespace StreakRepositoryImpl

/-- Counting back from a day counts its block, with enough fuel for it. -/
theorem countBack_eq {sortedDays : List ℤ} {fuel k : ℕ} {checkDay : ℤ}
    (h : Block sortedDays checkDay k) (hfuel : k ≤ fuel) (currentStreak : ℕ) :
    countBack sortedDays fuel checkDay currentStreak = currentStreak + k := by
  induction fuel generalizing checkDay k currentStreak with
  | zero =>
      obtain rfl : k = 0 := by omega
      rfl
  | succ fuel ih =>
      rw [countBack]
      split_ifs with hmem
      · obtain ⟨l, hl⟩ := exists_block sortedDays (checkDay - 1)
        obtain rfl := h.unique (hl.succ hmem)
        rw [ih hl (by omega)]
        omega
      · obtain rfl := h.unique (Block.zero hmem)
        rfl

/-- The day from which the repository counts back, where there is one. -/
def CountsFrom (sortedDays : List ℤ) (today last : ℤ) : Prop :=
  (today ∈ sortedDays ∧ last = today) ∨
    (today ∉ sortedDays ∧ today - 1 ∈ sortedDays ∧ last = today - 1)

/-- **The streak of the repository** is the length of the block that ends today, or
yesterday if today is not logged. -/
theorem calculateCurrent_eq {sortedDays : List ℤ} {today last : ℤ} {k : ℕ}
    (hlast : CountsFrom sortedDays today last) (h : Block sortedDays last k) :
    calculateCurrent today sortedDays = k := by
  have hcount : ∀ {day : ℤ} {l : ℕ}, day ∈ sortedDays → Block sortedDays day l →
      countBack sortedDays sortedDays.length (day - 1) 1 = l := by
    intro day l hday hl
    obtain ⟨m, hm⟩ := exists_block sortedDays (day - 1)
    obtain rfl := hl.unique (hm.succ hday)
    have hlength := length_of_forall_mem (hm.succ hday).mem
    rw [countBack_eq hm (by omega), Nat.add_comm]
  rw [calculateCurrent]
  obtain ⟨htoday, rfl⟩ | ⟨htoday, hyesterday, rfl⟩ := hlast
  · rw [if_pos htoday]
    exact hcount htoday h
  · rw [if_neg htoday, if_pos hyesterday]
    exact hcount hyesterday h

/-- There is no current streak exactly if both today and yesterday are missing. -/
theorem calculateCurrent_eq_zero_iff {sortedDays : List ℤ} {today : ℤ} :
    calculateCurrent today sortedDays = 0 ↔
      today ∉ sortedDays ∧ today - 1 ∉ sortedDays := by
  constructor
  · intro hzero
    have hnot : ∀ last, ¬ CountsFrom sortedDays today last := by
      intro last hlast
      obtain ⟨k, hk⟩ := exists_block sortedDays last
      rw [calculateCurrent_eq hlast hk] at hzero
      obtain rfl := hzero
      apply hk.not_mem
      obtain ⟨htoday, rfl⟩ | ⟨-, hyesterday, rfl⟩ := hlast
      · simpa using htoday
      · simpa using hyesterday
    have htoday : today ∉ sortedDays := fun h => hnot today (Or.inl ⟨h, rfl⟩)
    exact ⟨htoday, fun h => hnot (today - 1) (Or.inr ⟨htoday, h, rfl⟩)⟩
  · rintro ⟨htoday, hyesterday⟩
    rw [calculateCurrent, if_neg htoday, if_neg hyesterday]

/-- The current streak in the result. -/
theorem current_calculateStreak (now : ℤ) (entries : List DailyEntryEntity) :
    (calculateStreak now entries).current = calculateCurrent (epochDayOf now)
      ((entries.map DailyEntryEntity.dateEpochDay).insertionSort (· ≤ ·)) := by
  rw [calculateStreak]
  split_ifs with hempty
  · rw [List.isEmpty_iff.mp hempty]
    rfl
  · rfl

end StreakRepositoryImpl

/-! ### The scan -/

namespace AchievementManagerImpl

/-- The test for an empty list changes nothing. -/
theorem calculateCurrentStreak_eq (now : ℤ) (transactions : List Transaction) :
    calculateCurrentStreak now transactions =
      streakFrom (transactionDates transactions) (epochDayOf now) 0 := by
  rw [calculateCurrentStreak]
  split_ifs with hempty
  · rw [List.isEmpty_iff.mp hempty]
    rfl
  · rfl

/-- The dates are the days with a transaction. -/
theorem mem_transactionDates {transactions : List Transaction} {day : ℤ} :
    day ∈ transactionDates transactions ↔
      ∃ t ∈ transactions, epochDayOf t.timestampUtcMillis = day := by
  rw [transactionDates, List.mem_insertionSort, List.mem_dedup, List.mem_map]

/-- The dates come from the latest to the earliest, each once. -/
theorem pairwise_transactionDates (transactions : List Transaction) :
    (transactionDates transactions).Pairwise (· > ·) := by
  have hsorted : (transactionDates transactions).Pairwise (· ≥ ·) := List.pairwise_insertionSort _ _
  have hnodup : (transactionDates transactions).Nodup := by
    rw [transactionDates, (List.perm_insertionSort _ _).nodup_iff]
    exact List.nodup_dedup _
  refine (hsorted.and hnodup).imp ?_
  rintro a b ⟨hge, hne⟩
  exact lt_of_le_of_ne hge (Ne.symm hne)

/-- A scan never loses what it has counted. -/
theorem le_streakFrom (dates : List ℤ) (currentDate : ℤ) (streak : ℕ) :
    streak ≤ streakFrom dates currentDate streak := by
  induction dates generalizing currentDate streak with
  | nil => exact le_refl streak
  | cons date dates ih =>
      rw [streakFrom]
      split_ifs
      · exact le_trans (Nat.le_succ streak) (ih _ _)
      · exact le_refl streak

/-- **The scan** from a date on counts the block that continues it, unless the block is
followed by one more day after a gap of a single day. -/
theorem streakFrom_eq_iff {date : ℤ} {dates : List ℤ} (hsorted : (date :: dates).Pairwise (· > ·))
    {k : ℕ} (h : Block dates (date - 1) k) (streak : ℕ) :
    streakFrom dates (date - 1) streak = streak + k ↔ date - 1 - k - 1 ∉ dates := by
  induction dates generalizing date k streak with
  | nil =>
      obtain rfl := h.unique (Block.zero List.not_mem_nil)
      exact iff_of_true rfl List.not_mem_nil
  | cons next dates ih =>
      obtain ⟨hlt, hsorted⟩ := List.pairwise_cons.mp hsorted
      have hnext : next < date := hlt next List.mem_cons_self
      have hle : ∀ day ∈ dates, day < next := (List.pairwise_cons.mp hsorted).1
      rw [streakFrom]
      obtain heq | hgap | hfar : next = date - 1 ∨ next = date - 1 - 1 ∨ next < date - 1 - 1 := by
        omega
      · obtain ⟨l, hl⟩ := exists_block dates (next - 1)
        rw [← heq] at h ⊢
        obtain rfl := h.unique ((hl.cons (by omega)).succ List.mem_cons_self)
        rw [if_pos (Or.inl rfl)]
        have hiff := ih hsorted hl (streak + 1)
        have hne : next - 1 - (l : ℤ) - 1 = next - ((l + 1 : ℕ) : ℤ) - 1 := by omega
        rw [Nat.add_assoc, Nat.add_comm 1 l, hne] at hiff
        rw [hiff, List.mem_cons]
        constructor
        · rintro hnot (hself | hmem)
          · omega
          · exact hnot hmem
        · intro hnot hmem
          exact hnot (Or.inr hmem)
      · have hnot : date - 1 ∉ next :: dates := by
          intro hmem
          obtain hself | hmem := List.mem_cons.mp hmem
          · omega
          · have := hle _ hmem
            omega
        obtain rfl := h.unique (Block.zero hnot)
        rw [if_pos (Or.inr hgap)]
        have hge := le_streakFrom dates (next - 1) (streak + 1)
        refine iff_of_false (by omega) ?_
        rw [not_not, Nat.cast_zero, sub_zero, ← hgap]
        exact List.mem_cons_self
      · have hnot : ∀ day, date - 1 - 1 ≤ day → day ∉ next :: dates := by
          intro day hday hmem
          obtain hself | hmem := List.mem_cons.mp hmem
          · omega
          · have := hle _ hmem
            omega
        obtain rfl := h.unique (Block.zero (hnot _ (by omega)))
        rw [if_neg (by omega), Nat.add_zero]
        refine iff_of_true rfl (hnot _ ?_)
        rw [Nat.cast_zero, sub_zero]

end AchievementManagerImpl

/-! ### Agreement -/

/-- Where days after today are logged, neither today nor yesterday is. Where none is, the
unbroken block of logged days that ends today, or yesterday if today is not logged, does
not begin two days after a logged day. -/
structure TolerancesUnused (logged : ℤ → Prop) (today : ℤ) : Prop where
  no_future : (∃ day, today < day ∧ logged day) → ¬ logged today ∧ ¬ logged (today - 1)
  no_single_gap : (∀ day, logged day → day ≤ today) → ∀ first last,
    (last = today ∨ (¬ logged today ∧ last = today - 1)) → first ≤ last →
    (∀ day, first ≤ day → day ≤ last → logged day) → ¬ logged (first - 1) → ¬ logged (first - 2)

/-- The gap in front of the block that ends on a given day. -/
theorem single_gap_iff {days : List ℤ} {last : ℤ} {k : ℕ} (hlast : last ∈ days)
    (h : Block days last k) :
    (∀ first, first ≤ last → (∀ day, first ≤ day → day ≤ last → day ∈ days) →
      first - 1 ∉ days → first - 2 ∉ days) ↔ last - k - 1 ∉ days := by
  have hpos : k ≠ 0 := by
    rintro rfl
    exact h.not_mem (by simpa using hlast)
  constructor
  · intro hall
    have hgap := hall (last - k + 1) (by omega) ?_ ?_
    · rwa [show last - (k : ℤ) + 1 - 2 = last - k - 1 by omega] at hgap
    · intro day hge hle
      have hmem := h.mem (last - day).toNat (by omega)
      rwa [show last - ((last - day).toNat : ℤ) = day by omega] at hmem
    · rw [add_sub_cancel_right]
      exact h.not_mem
  · intro hgap first hle hmem hfirst
    have hblock : Block days last ((last - first).toNat + 1) := by
      refine ⟨fun i hi => hmem _ (by omega) (by omega), ?_⟩
      rwa [show last - (((last - first).toNat + 1 : ℕ) : ℤ) = first - 1 by omega]
    obtain rfl := h.unique hblock
    rwa [show last - (((last - first).toNat + 1 : ℕ) : ℤ) - 1 = first - 2 by omega] at hgap

section Core

open AchievementManagerImpl StreakRepositoryImpl

variable {dates days : List ℤ} {today : ℤ}

/-- When no day is behind the one that the repository counts back from, the gap in front of its
block is all that tolerances can be used for. -/
theorem tolerancesUnused_iff {last : ℤ} (hfrom : CountsFrom days today last)
    (hle : ∀ day ∈ days, day ≤ last) :
    TolerancesUnused (· ∈ days) today ↔
      ∀ first, first ≤ last → (∀ day, first ≤ day → day ≤ last → day ∈ days) →
        first - 1 ∉ days → first - 2 ∉ days := by
  have htoday : last ≤ today := by
    obtain ⟨-, rfl⟩ | ⟨-, -, rfl⟩ := hfrom
    · exact le_refl last
    · omega
  constructor
  · intro hunused first hfirst hlogged
    refine hunused.no_single_gap (fun day hday => (hle day hday).trans htoday) first last ?_ hfirst
      hlogged
    obtain ⟨-, heq⟩ | ⟨hnot, -, heq⟩ := hfrom
    · exact Or.inl heq
    · exact Or.inr ⟨hnot, heq⟩
  · intro hall
    refine ⟨?_, ?_⟩
    · rintro ⟨day, hlt, hday⟩
      exact absurd ((hle day hday).trans htoday) (not_le.mpr hlt)
    · intro hfuture first last' hlast' hfirst hlogged
      have heq : last' = last := by
        obtain ⟨hmem, rfl⟩ | ⟨hnot, -, rfl⟩ := hfrom
        · obtain rfl | ⟨hnot, -⟩ := hlast'
          · rfl
          · exact absurd hmem hnot
        · obtain rfl | ⟨-, rfl⟩ := hlast'
          · exact absurd (hlogged _ hfirst (le_refl _)) hnot
          · rfl
      rw [heq] at hfirst hlogged
      exact hall first hfirst hlogged

/-- The first date is the latest one. -/
theorem le_of_mem_of_sorted {last : ℤ} (hsorted : (last :: dates).Pairwise (· > ·))
    (hmem : ∀ day, day ∈ last :: dates ↔ day ∈ days) : ∀ day ∈ days, day ≤ last := by
  intro day hday
  obtain rfl | hday := List.mem_cons.mp ((hmem day).mpr hday)
  · exact le_refl day
  · exact le_of_lt ((List.pairwise_cons.mp hsorted).1 day hday)

/-- The first date is the one the repository counts back from. -/
theorem streakFrom_eq_calculateCurrent_iff_of_head {last : ℤ}
    (hsorted : (last :: dates).Pairwise (· > ·)) (hmem : ∀ day, day ∈ last :: dates ↔ day ∈ days)
    (hlast : last = today ∨ last = today - 1) :
    streakFrom (last :: dates) today 0 = calculateCurrent today days ↔
      TolerancesUnused (· ∈ days) today := by
  have hle := le_of_mem_of_sorted hsorted hmem
  have hlast_mem : last ∈ days := (hmem last).mp List.mem_cons_self
  have hfrom : CountsFrom days today last := by
    obtain rfl | rfl := hlast
    · exact Or.inl ⟨hlast_mem, rfl⟩
    · refine Or.inr ⟨fun htoday => ?_, hlast_mem, rfl⟩
      have := hle today htoday
      omega
  obtain ⟨k, hk⟩ := exists_block dates (last - 1)
  have hblock : Block days last (k + 1) :=
    ((hk.cons (by omega)).succ List.mem_cons_self).congr fun day => (hmem day).symm
  have hscan : streakFrom (last :: dates) today 0 = streakFrom dates (last - 1) 1 := by
    rw [streakFrom, if_pos hlast]
  have hgap : last - ((k + 1 : ℕ) : ℤ) - 1 ∉ days ↔ last - 1 - k - 1 ∉ dates := by
    rw [← hmem, List.mem_cons, not_or,
      show last - ((k + 1 : ℕ) : ℤ) - 1 = last - 1 - k - 1 by omega]
    constructor
    · exact And.right
    · exact fun h => ⟨by omega, h⟩
  rw [hscan, calculateCurrent_eq hfrom hblock, Nat.add_comm k 1, streakFrom_eq_iff hsorted hk,
    ← hgap, ← single_gap_iff hlast_mem hblock, tolerancesUnused_iff hfrom hle]

/-- The two computations on the same days. -/
theorem streakFrom_eq_calculateCurrent_iff (hsorted : dates.Pairwise (· > ·))
    (hmem : ∀ day, day ∈ dates ↔ day ∈ days) :
    streakFrom dates today 0 = calculateCurrent today days ↔
      TolerancesUnused (· ∈ days) today := by
  cases dates with
  | nil =>
      have hnot : ∀ day, day ∉ days := fun day hday => List.not_mem_nil ((hmem day).mpr hday)
      rw [streakFrom, calculateCurrent_eq_zero_iff.mpr ⟨hnot _, hnot _⟩]
      exact iff_of_true rfl ⟨fun _ => ⟨hnot _, hnot _⟩, fun _ _ _ _ _ _ _ => hnot _⟩
  | cons last dates =>
      by_cases hlast : last = today ∨ last = today - 1
      · exact streakFrom_eq_calculateCurrent_iff_of_head hsorted hmem hlast
      · have hzero : streakFrom (last :: dates) today 0 = 0 := by rw [streakFrom, if_neg hlast]
        have hle := le_of_mem_of_sorted hsorted hmem
        rw [hzero, eq_comm, calculateCurrent_eq_zero_iff]
        obtain hfuture | hpast : today < last ∨ last < today - 1 := by omega
        · have hday : last ∈ days := (hmem last).mp List.mem_cons_self
          constructor
          · intro hnot
            refine ⟨fun _ => hnot, fun hall => ?_⟩
            have := hall last hday
            omega
          · intro hunused
            exact hunused.no_future ⟨last, hfuture, hday⟩
        · have hnot : ∀ day, last < day → day ∉ days := by
            intro day hlt hday
            have := hle day hday
            omega
          have hyesterday := hnot (today - 1) hpast
          have htoday := hnot today (by omega)
          refine iff_of_true ⟨htoday, hyesterday⟩ ⟨fun _ => ⟨htoday, hyesterday⟩, ?_⟩
          intro _ first last' hlast' hfirst hlogged
          have hmem' := hlogged last' hfirst (le_refl last')
          obtain rfl | ⟨-, rfl⟩ := hlast'
          · exact absurd hmem' htoday
          · exact absurd hmem' hyesterday

end Core

/-- A transaction is dated on the day. -/
def HasTransactionOn (transactions : List Transaction) (day : ℤ) : Prop :=
  ∃ t ∈ transactions, epochDayOf t.timestampUtcMillis = day

/-- **The two streaks agree** on the same days just when neither tolerance is used: not
the one of the scan for single missing days, and not the one of the walk back for days
in the future. -/
theorem streaksAgree_iff (now : ℤ) {transactions : List Transaction}
    {entries : List DailyEntryEntity}
    (hdays : ∀ day, (∃ entry ∈ entries, entry.dateEpochDay = day) ↔
      HasTransactionOn transactions day) :
    AchievementManagerImpl.calculateCurrentStreak now transactions =
        (StreakRepositoryImpl.calculateStreak now entries).current ↔
      TolerancesUnused (HasTransactionOn transactions) (epochDayOf now) := by
  have hmem : ∀ day, day ∈ (entries.map DailyEntryEntity.dateEpochDay).insertionSort (· ≤ ·) ↔
      HasTransactionOn transactions day := by
    intro day
    rw [List.mem_insertionSort, List.mem_map]
    exact hdays day
  rw [AchievementManagerImpl.calculateCurrentStreak_eq,
    StreakRepositoryImpl.current_calculateStreak,
    streakFrom_eq_calculateCurrent_iff (AchievementManagerImpl.pairwise_transactionDates _)
      fun day => AchievementManagerImpl.mem_transactionDates.trans (hmem day).symm]
  simp only [hmem]

/-- A coffee at the start of a day. -/
def coffeeOn (day : ℤ) : Transaction :=
  { id := none
    amount := { minorUnits := 4500 }
    timestampUtcMillis := day * 86400000
    note := none
    categoryId := none
    accountId := none
    type := .expense }

/-- The first instant of a day is on that day. -/
theorem epochDayOf_startOfDay (day : ℤ) : epochDayOf (day * 86400000) = day := by
  rw [epochDayOf_eq, Int.mul_ediv_cancel day (by decide)]

/-- A coffee a day is a transaction on these days. -/
theorem hasTransactionOn_coffeeOn {days : List ℤ} {day : ℤ} :
    HasTransactionOn (days.map coffeeOn) day ↔ day ∈ days := by
  rw [HasTransactionOn]
  simp [coffeeOn, epochDayOf_startOfDay]

/-- Entries for the days of some coffees. -/
theorem entries_coffeeOn (days : List ℤ) (day : ℤ) :
    (∃ entry ∈ days.map DailyEntryEntity.mk, entry.dateEpochDay = day) ↔
      HasTransactionOn (days.map coffeeOn) day := by
  rw [hasTransactionOn_coffeeOn]
  simp

/-- Three days in a row, of which the last one is today. -/
theorem streaksAgree_three_days :
    AchievementManagerImpl.calculateCurrentStreak (12 * 86400000) ([10, 11, 12].map coffeeOn) =
      (StreakRepositoryImpl.calculateStreak (12 * 86400000)
        ([10, 11, 12].map DailyEntryEntity.mk)).current := by
  refine (streaksAgree_iff _ (entries_coffeeOn [10, 11, 12])).mpr ⟨?_, ?_⟩
  · rintro ⟨day, hlt, hday⟩
    rw [hasTransactionOn_coffeeOn] at hday
    rw [epochDayOf_startOfDay] at hlt
    simp only [List.mem_cons, List.not_mem_nil, or_false] at hday
    omega
  · intro _ first last hlast hle hlogged hnot hgap
    have hfirst := hlogged first (le_refl first) hle
    rw [hasTransactionOn_coffeeOn] at hfirst hnot hgap
    simp only [List.mem_cons, List.not_mem_nil, or_false] at hfirst hnot hgap
    omega

/-- With a day left out, the scan still counts the day before it. -/
theorem not_streaksAgree_day_left_out :
    (∀ day, (∃ entry ∈ [10, 12].map DailyEntryEntity.mk, entry.dateEpochDay = day) ↔
        HasTransactionOn ([10, 12].map coffeeOn) day) ∧
      AchievementManagerImpl.calculateCurrentStreak (12 * 86400000) ([10, 12].map coffeeOn) = 2 ∧
      (StreakRepositoryImpl.calculateStreak (12 * 86400000)
        ([10, 12].map DailyEntryEntity.mk)).current = 1 := by
  refine ⟨entries_coffeeOn [10, 12], ?_, ?_⟩
  · rw [AchievementManagerImpl.calculateCurrentStreak_eq, epochDayOf_startOfDay,
      AchievementManagerImpl.transactionDates]
    simp only [List.map_cons, List.map_nil, coffeeOn, epochDayOf_startOfDay]
    decide
  · rw [StreakRepositoryImpl.current_calculateStreak, epochDayOf_startOfDay]
    decide

end SpendCraft
