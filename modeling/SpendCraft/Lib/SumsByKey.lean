import Mathlib.Data.List.Basic
import Mathlib.Logic.Function.Basic

/-!
# Sums by Key

A map of sums is filled entry by entry: each entry adds its value to the sum under its key.
A key without entries has no sum, rather than zero.

## Conventions

The sums are a function from keys to optional values, not a list: the order in which the keys
appear is not part of it (`LinkedMap` keeps that). The values need an addition and a zero, so
integers of any size and machine integers are both covered; only where the order of the entries is
changed has the addition to be that of a commutative monoid. `total` is the sum of a list, or
nothing for a list without entries.

## Proof

The fold is followed from its front with an accumulator that holds some sums already
(`foldl_add_apply`); from no sums at all it gives the total of the entries of each key.

## Main results

* `sumsByKey_apply`: the sum under a key is the total of its entries.
* `total_perm`: the order of the entries does not matter.
-/

namespace SumsByKey

variable {α κ A : Type*} [DecidableEq κ] [Add A] [Zero A]

/-- The sum of the values, if there are any. -/
def total (values : List A) : Option A :=
  if values.isEmpty then none else some (values.foldl (· + ·) 0)

/-- `sums[key] = (sums[key] ?: 0) + value` -/
def add (sums : κ → Option A) (key : κ) (value : A) : κ → Option A :=
  Function.update sums key (some ((sums key).getD 0 + value))

/-- The sums of the entries by key, absent where no entry has the key. -/
def sumsByKey (key : α → κ) (value : α → A) (entries : List α) : κ → Option A :=
  entries.foldl (fun sums x => add sums (key x) (value x)) fun _ => none

variable {key : α → κ} {value : α → A} {k : κ}

/-- Entries on top of the sums that are there. -/
theorem foldl_add_apply (entries : List α) (sums : κ → Option A) :
    entries.foldl (fun sums x => add sums (key x) (value x)) sums k =
      if (entries.filter fun x => key x == k).isEmpty then sums k
      else some (((entries.filter fun x => key x == k).map value).foldl (· + ·)
        ((sums k).getD 0)) := by
  induction entries generalizing sums with
  | nil => rfl
  | cons x entries ih =>
      rw [List.foldl_cons, ih]
      by_cases hx : key x = k
      · have hfilter : ((x :: entries).filter fun x => key x == k) =
            x :: entries.filter fun x => key x == k := List.filter_cons_of_pos (by simp [hx])
        have hsum : add sums (key x) (value x) k = some ((sums k).getD 0 + value x) := by
          rw [add, hx, Function.update_self]
        rw [hfilter, hsum, List.map_cons, List.foldl_cons, Option.getD_some]
        cases hrest : entries.filter fun x => key x == k with
        | nil => rfl
        | cons y rest => rfl
      · have hfilter : ((x :: entries).filter fun x => key x == k) =
            entries.filter fun x => key x == k := List.filter_cons_of_neg (by simp [hx])
        have hsum : add sums (key x) (value x) k = sums k := by
          rw [add, Function.update_of_ne (Ne.symm hx)]
        rw [hfilter, hsum]

/-- **The sum under a key** is the total of the entries with that key. -/
theorem sumsByKey_apply (entries : List α) :
    sumsByKey key value entries k =
      total ((entries.filter fun x => key x == k).map value) := by
  rw [sumsByKey, foldl_add_apply, total, List.isEmpty_map]
  rfl

/-- Entries with one key: the map has that one sum. -/
theorem sumsByKey_of_key_eq {entries : List α} {c : κ} (h : ∀ x ∈ entries, key x = c) :
    sumsByKey key value entries =
      fun k => if k = c then total (entries.map value) else none := by
  funext k
  rw [sumsByKey_apply]
  split_ifs with hk
  · rw [List.filter_eq_self.mpr fun x hx => by rw [h x hx, hk, beq_self_eq_true]]
  · rw [List.filter_eq_nil_iff.mpr fun x hx => by rw [h x hx, beq_iff_eq]; exact Ne.symm hk]
    rfl

variable [Std.Commutative (α := A) (· + ·)] [Std.Associative (α := A) (· + ·)]

/-- **Order of entries.** -/
theorem total_perm {values values' : List A} (h : values.Perm values') :
    total values = total values' := by
  have hassoc : ∀ x y z : A, x + y + z = x + (y + z) := Std.Associative.assoc
  have hcomm : ∀ x y : A, x + y = y + x := Std.Commutative.comm
  have hfoldl : values.foldl (· + ·) 0 = values'.foldl (· + ·) 0 := by
    refine h.foldl_eq' (fun x _ y _ z => ?_) 0
    rw [hassoc z x y, hcomm x y, ← hassoc z y x]
  rw [total, total, hfoldl, h.isEmpty_eq]

end SumsByKey
