import Mathlib.Data.List.Basic
import Mathlib.Data.List.Nodup

/-!
# Migrations between Versions

A migration leads from one version of a state to a later one, and may fail. A path is a
chain of registered migrations. How a path is found is a parameter, `PathFinder`: a found
path is one, and where no version has two migrations none is overlooked.

## Conventions

A state is any type: a migration is its versions and a partial function, and a failure stops the
path with no state at all. Versions are natural numbers, and a migration goes up by construction.
`PathFinder` leaves open how a path is found: a finder may prefer the longest migrations or the
shortest. `walking` is an instance that follows the first registered migration which starts where it
stands and does not lead too far, with the distance to the last version as its fuel.

## Proof

A path is a list, and the lemmas are inductions on it. That no path leaves a set of versions which
no migration leaves is the contrapositive of an induction. Where no version has two migrations, the
first migration of a path is determined by its start, and so are the others, one by one.

## Main results

* `not_isPath_of_closed`: versions that no migration leaves.
* `isPath_unique`: where no version has two migrations there is one path at most.
* `applyPath_invariant`: what every migration preserves, a path preserves.
-/

variable {σ : Type*}

/-- A migration from one version to a later one. It may fail. -/
structure Migration (σ : Type*) where
  startVersion : ℕ
  endVersion : ℕ
  startVersion_lt : startVersion < endVersion
  migrate : σ → Option σ

namespace Migration

variable {registered path path' : List (Migration σ)} {m : Migration σ} {start finish : ℕ}

/-- A chain of registered migrations from one version to another. -/
def IsPath (registered : List (Migration σ)) : ℕ → ℕ → List (Migration σ) → Prop
  | start, finish, [] => start = finish
  | start, finish, m :: path =>
      m ∈ registered ∧ m.startVersion = start ∧ IsPath registered m.endVersion finish path

/-- A path goes up. -/
theorem IsPath.le (h : IsPath registered start finish path) : start ≤ finish := by
  induction path generalizing start with
  | nil => exact Nat.le_of_eq h
  | cons m path ih =>
      obtain ⟨-, rfl, hpath⟩ := h
      exact Nat.le_trans (Nat.le_of_lt m.startVersion_lt) (ih hpath)

/-- **Dead ends.** Versions that no migration leaves have no path to another version. -/
theorem not_isPath_of_closed {S : ℕ → Prop}
    (hclosed : ∀ m ∈ registered, S m.startVersion → S m.endVersion) (hstart : S start)
    (hfinish : ¬S finish) : ¬IsPath registered start finish path := by
  induction path generalizing start with
  | nil =>
      rintro rfl
      exact hfinish hstart
  | cons m path ih =>
      rintro ⟨hm, rfl, hpath⟩
      exact ih (hclosed m hm hstart) hpath

/-- Where no version has two migrations, the one that starts a path is determined. -/
theorem eq_of_startVersion_eq {m' : Migration σ}
    (hnodup : (registered.map startVersion).Nodup) (hm : m ∈ registered) (hm' : m' ∈ registered)
    (h : m.startVersion = m'.startVersion) : m = m' :=
  List.inj_on_of_nodup_map hnodup hm hm' h

/-- With one migration for each start, there is one path. -/
theorem isPath_unique (hnodup : (registered.map startVersion).Nodup)
    (h : IsPath registered start finish path) (h' : IsPath registered start finish path') :
    path = path' := by
  induction path generalizing start path' with
  | nil =>
      cases path' with
      | nil => rfl
      | cons m path' =>
          obtain ⟨-, rfl, hpath'⟩ := h'
          have := m.startVersion_lt
          have := hpath'.le
          have : m.startVersion = finish := h
          omega
  | cons m path ih =>
      obtain ⟨hm, rfl, hpath⟩ := h
      cases path' with
      | nil =>
          have := m.startVersion_lt
          have := hpath.le
          have : m.startVersion = finish := h'
          omega
      | cons m' path' =>
          obtain ⟨hm', hstart, hpath'⟩ := h'
          obtain rfl := eq_of_startVersion_eq hnodup hm hm' hstart.symm
          rw [ih hpath hpath']

/-! ### Applying a path -/

/-- The migrations of a path, one after the other. -/
def applyPath (path : List (Migration σ)) (s : σ) : Option σ :=
  path.foldlM (fun s m => m.migrate s) s

/-- **Path rule.** A reflexive and transitive relation that every registered migration
respects holds across a path. -/
theorem applyPath_invariant {R : σ → σ → Prop} (hrefl : ∀ s, R s s)
    (htrans : ∀ s t u, R s t → R t u → R s u)
    (hmigrate : ∀ m ∈ registered, ∀ s t, m.migrate s = some t → R s t)
    (h : IsPath registered start finish path) {s t : σ} (happly : applyPath path s = some t) :
    R s t := by
  induction path generalizing start s with
  | nil =>
      obtain rfl := Option.some_inj.mp happly
      exact hrefl s
  | cons m path ih =>
      obtain ⟨hm, -, hpath⟩ := h
      rw [applyPath, List.foldlM_cons, Option.bind_eq_bind, Option.bind_eq_some_iff] at happly
      obtain ⟨s₁, hs₁, happly⟩ := happly
      exact htrans s s₁ t (hmigrate m hm s s₁ hs₁) (ih hpath happly)

end Migration

/-! ### Finding a path -/

open Migration

/-- A search for a path: what it finds is one, and what it does not find is not there. -/
structure PathFinder (σ : Type*) where
  findMigrationPath : List (Migration σ) → ℕ → ℕ → Option (List (Migration σ))
  isPath_of_find : ∀ registered start finish path,
    findMigrationPath registered start finish = some path →
      IsPath registered start finish path
  not_isPath_of_find : ∀ registered start finish, (registered.map startVersion).Nodup →
    findMigrationPath registered start finish = none →
      ∀ path, ¬IsPath registered start finish path

namespace PathFinder

variable {registered : List (Migration σ)} {start finish : ℕ}

/-- The migration that starts a path. -/
def firstOf (registered : List (Migration σ)) (start finish : ℕ) : Option (Migration σ) :=
  registered.find? fun m => m.startVersion == start && decide (m.endVersion ≤ finish)

/-- The first migration that leads on from a version. -/
theorem firstOf_eq_some {m : Migration σ} (h : firstOf registered start finish = some m) :
    m ∈ registered ∧ m.startVersion = start ∧ m.endVersion ≤ finish := by
  have hm := List.find?_some h
  rw [Bool.and_eq_true, beq_iff_eq, decide_eq_true_iff] at hm
  exact ⟨List.mem_of_find?_eq_some h, hm⟩

/-- Version by version, at most `fuel` of them. -/
def walk (registered : List (Migration σ)) (finish : ℕ) :
    ℕ → ℕ → Option (List (Migration σ))
  | 0, start => if start = finish then some [] else none
  | fuel + 1, start =>
      if start = finish then some []
      else
        match firstOf registered start finish with
        | some m => (walk registered finish fuel m.endVersion).map (m :: ·)
        | none => none

/-- What the walk finds is a path. -/
theorem isPath_of_walk {fuel : ℕ} {path : List (Migration σ)}
    (h : walk registered finish fuel start = some path) :
    IsPath registered start finish path := by
  induction fuel generalizing start path with
  | zero =>
      rw [walk] at h
      split_ifs at h with heq
      obtain rfl := Option.some_inj.mp h
      exact heq
  | succ fuel ih =>
      rw [walk] at h
      split_ifs at h with heq
      · obtain rfl := Option.some_inj.mp h
        exact heq
      · cases hfirst : firstOf registered start finish with
        | none => rw [hfirst] at h; exact absurd h (by simp)
        | some m =>
            rw [hfirst, Option.map_eq_some_iff] at h
            obtain ⟨path', hpath', rfl⟩ := h
            obtain ⟨hm, hstart, -⟩ := firstOf_eq_some hfirst
            exact ⟨hm, hstart, ih hpath'⟩

/-- The walk finds the path if there is one, with enough fuel for the versions between. -/
theorem walk_ne_none (hnodup : (registered.map startVersion).Nodup) {fuel : ℕ}
    {path : List (Migration σ)} (h : IsPath registered start finish path)
    (hfuel : finish ≤ start + fuel) : walk registered finish fuel start ≠ none := by
  induction path generalizing start fuel with
  | nil =>
      obtain rfl : start = finish := h
      cases fuel <;> simp [walk]
  | cons m path ih =>
      obtain ⟨hm, rfl, hpath⟩ := h
      have hlt := m.startVersion_lt
      have hle := hpath.le
      cases fuel with
      | zero => omega
      | succ fuel =>
          rw [walk, if_neg (by omega)]
          cases hfirst : firstOf registered m.startVersion finish with
          | none =>
              have hnot := List.find?_eq_none.mp hfirst m hm
              exact absurd (by simp [hle]) hnot
          | some m' =>
              obtain ⟨hm', hstart, -⟩ := firstOf_eq_some hfirst
              obtain rfl := eq_of_startVersion_eq hnodup hm' hm hstart
              simp only [ne_eq, Option.map_eq_none_iff]
              exact ih hpath (by omega)

/-- The path finder that goes from version to version. -/
def walking (σ : Type*) : PathFinder σ :=
  { findMigrationPath := fun registered start finish =>
      walk registered finish (finish - start) start
    isPath_of_find := fun _ _ _ _ h => isPath_of_walk h
    not_isPath_of_find := fun _ _ _ hnodup h _ hpath =>
      walk_ne_none hnodup hpath (by omega) h }

end PathFinder
