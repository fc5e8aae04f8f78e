import SpendCraft.Lib.Table
import SpendCraft.Lib.SumsByKey
import Mathlib.Algebra.BigOperators.Group.List.Basic
import Mathlib.Tactic.Abel

/-!
# Maps in the Order of Insertion

A `LinkedMap` lists its entries in the order in which their keys were first put in; a later
value of a key takes the place of the earlier one. Renaming the keys of such a map, like
building a map from a list of entries, keeps the last entry of each new key.

## Conventions

The map is a `Table` of pairs whose primary key is the first component, so that there is one entry
for each key by construction, and an update in place keeps the place. A lookup is an `Option`, and
a missing key is never a default. `associate` is the function that a list of entries denotes,
where a later entry hides an earlier one; it is the specification that the maps are compared with.

## Proof

The maps are built by folds, and the lemmas follow them from the end of the list, one entry at a
time. Where only the values matter, `associate` is unfolded with `Function.update`; where the order
matters, it is that of `firstKeys`.

## Main results

* `associate_apply`: the value of a key is the one of its last entry.
* `keys_sums`, `get_sums`: the keys of a map of sums, and the sum under a key; `sum_sums`: no
  entry is lost in it.
* `renamed_apply`: the value under a renamed key.
-/

open Relational

/-- A map that keeps its entries in the order in which their keys were first put. -/
abbrev LinkedMap (κ α : Type*) := Table (Prod.fst : κ × α → κ)

namespace LinkedMap

variable {κ ν α β : Type*} [DecidableEq κ] [DecidableEq ν]

/-! ### Lists of entries -/

/-- The map of a list of entries. -/
def associate (entries : List (κ × α)) : κ → Option α :=
  entries.foldl (fun m entry => Function.update m entry.1 (some entry.2)) fun _ => none

/-- The last entry counts. -/
theorem associate_append_singleton (entries : List (κ × α)) (entry : κ × α) :
    associate (entries ++ [entry]) =
      Function.update (associate entries) entry.1 (some entry.2) := by
  rw [associate, List.foldl_append]
  rfl

/-- **The last entry** of a key counts. -/
theorem associate_apply (entries : List (κ × α)) (k : κ) :
    associate entries k =
      ((entries.filter fun entry => decide (entry.1 = k)).getLast?).map Prod.snd := by
  induction entries using List.reverseRecOn with
  | nil => rfl
  | append_singleton entries entry ih =>
      rw [associate_append_singleton, List.filter_append]
      by_cases hk : entry.1 = k
      · rw [← hk, Function.update_self, List.filter_cons_of_pos (by simp), List.filter_nil,
          List.getLast?_append, List.getLast?_singleton]
        rfl
      · rw [Function.update_of_ne (Ne.symm hk), List.filter_cons_of_neg (by simp [hk]),
          List.filter_nil, List.append_nil, ih]

/-! ### Entries in order -/

/-- `map[key] = value` -/
def put (m : LinkedMap κ α) (key : κ) (value : α) : LinkedMap κ α :=
  if m.hasKey key then m.update (key, value) else m.insertOrIgnore (key, value)

/-- The value under a key. -/
def get (m : LinkedMap κ α) (key : κ) : Option α :=
  (m.rows.find? fun entry => decide (entry.1 = key)).map Prod.snd

/-- The keys in the order of their first appearance. -/
def firstKeys (keys : List κ) : List κ :=
  keys.foldl (fun seen key => if key ∈ seen then seen else seen ++ [key]) []

variable {m : LinkedMap κ α} {key k : κ} {value : α}

/-- A key is taken exactly if it is among the keys. -/
theorem hasKey_iff : m.hasKey key = true ↔ key ∈ m.rows.map Prod.fst := by
  rw [Table.hasKey, List.any_eq_true, List.mem_map]
  simp only [beq_iff_eq]

/-- Putting a value keeps the order of the keys, with a new key at the end. -/
theorem keys_put :
    (m.put key value).rows.map Prod.fst =
      if key ∈ m.rows.map Prod.fst then m.rows.map Prod.fst else m.rows.map Prod.fst ++ [key] := by
  rw [put]
  by_cases hkey : m.hasKey key = true
  · rw [if_pos hkey, if_pos (hasKey_iff.mp hkey)]
    have hrows : (m.update (key, value)).rows =
        m.rows.map fun entry => if entry.1 = key then (key, value) else entry := rfl
    rw [hrows, List.map_map]
    apply List.map_congr_left
    intro entry _
    by_cases hentry : entry.1 = key
    · simp [hentry]
    · simp [hentry]
  · rw [if_neg hkey, if_neg (mt hasKey_iff.mpr hkey),
      Table.rows_insertOrIgnore (Bool.not_eq_true _ ▸ hkey), List.map_append]
    rfl

/-- Every entry is the one that is found under its key. -/
theorem get_eq_some_iff {v : α} : m.get k = some v ↔ (k, v) ∈ m.rows := by
  have hfilter := m.filter_key_eq k
  rw [get]
  constructor
  · intro hget
    obtain ⟨entry, hfind, rfl⟩ := Option.map_eq_some_iff.mp hget
    have hkey : entry.1 = k := by simpa using List.find?_some hfind
    rw [← hkey]
    exact List.mem_of_find?_eq_some hfind
  · intro hmem
    have hfound : (k, v) ∈ m.rows.filter fun row => decide (row.1 = k) :=
      List.mem_filter.mpr ⟨hmem, by simp⟩
    rw [hfilter, Option.mem_toList] at hfound
    rw [hfound]
    rfl

/-- Nothing is found exactly if the key is not there. -/
theorem get_eq_none_iff : m.get k = none ↔ k ∉ m.rows.map Prod.fst := by
  rw [Option.eq_none_iff_forall_ne_some, List.mem_map, not_exists]
  constructor
  · rintro hnone ⟨k', v⟩ ⟨hmem, rfl⟩
    exact hnone v (get_eq_some_iff.mpr hmem)
  · intro hnone v hget
    exact hnone (k, v) ⟨get_eq_some_iff.mp hget, rfl⟩

/-- What is in the map after a value was put. -/
theorem mem_put {v : α} :
    (k, v) ∈ (m.put key value).rows ↔ if key = k then v = value else (k, v) ∈ m.rows := by
  rw [put]
  by_cases hkey : m.hasKey key = true
  · have hrows : (m.update (key, value)).rows =
        m.rows.map fun entry => if entry.1 = key then (key, value) else entry := rfl
    obtain ⟨entry, hentry, heq⟩ := List.mem_map.mp (hasKey_iff.mp hkey)
    rw [if_pos hkey, hrows, List.mem_map]
    constructor
    · rintro ⟨entry', hentry', heq'⟩
      split_ifs at heq' with hnew
      · obtain ⟨rfl, rfl⟩ := Prod.mk.inj heq'
        rw [if_pos rfl]
      · subst heq'
        rwa [if_neg (Ne.symm hnew)]
    · split_ifs with hk
      · rintro rfl
        exact ⟨entry, hentry, by rw [if_pos heq, hk]⟩
      · intro hmem
        exact ⟨(k, v), hmem, if_neg (Ne.symm hk)⟩
  · have hrows : (m.insertOrIgnore (key, value)).rows = m.rows ++ [(key, value)] :=
      Table.rows_insertOrIgnore (Bool.not_eq_true _ ▸ hkey)
    have hnone : ∀ v', (key, v') ∉ m.rows := fun v' hmem =>
      hkey (hasKey_iff.mpr (List.mem_map_of_mem hmem))
    rw [if_neg hkey, hrows, List.mem_append, List.mem_singleton, Prod.mk.injEq]
    split_ifs with hk
    · subst hk
      simp [hnone]
    · simp [Ne.symm hk]

/-- The value under a key after a value was put. -/
theorem get_put : (m.put key value).get k = if key = k then some value else m.get k := by
  apply Option.ext
  intro v
  rw [get_eq_some_iff, mem_put]
  split_ifs
  · exact eq_comm.trans Option.some_inj.symm
  · exact get_eq_some_iff.symm

/-- Putting in a value adds it to a sum over all values, in the place of the earlier one. -/
theorem sum_put {B : Type*} [AddCommMonoid B] (f : α → B) (m : LinkedMap κ α) (key : κ)
    (value : α) :
    ((m.put key value).rows.map fun entry => f entry.2).sum + ((m.get key).map f).getD 0 =
      (m.rows.map fun entry => f entry.2).sum + f value := by
  rw [put]
  by_cases hkey : m.hasKey key = true
  · obtain ⟨entry, hentry, rfl⟩ := List.mem_map.mp (hasKey_iff.mp hkey)
    have hget : m.get entry.1 = some entry.2 := get_eq_some_iff.mpr hentry
    have hrows : (m.update (entry.1, value)).rows =
        m.rows.map fun row => if row.1 = entry.1 then (entry.1, value) else row := rfl
    obtain ⟨before, after, hsplit, hbefore, hafter⟩ := exists_split_of_mem m.nodup_keys hentry
    have hother : ∀ rows : List (κ × α), (∀ row ∈ rows, row.1 ≠ entry.1) →
        (rows.map fun row => if row.1 = entry.1 then (entry.1, value) else row) = rows :=
      fun rows hne => map_overwrite_of_ne (fun _ => (entry.1, value)) hne
    rw [if_pos hkey, hrows, hget, hsplit, List.map_append, List.map_cons, hother before hbefore,
      hother after hafter, if_pos rfl, Option.map_some, Option.getD_some]
    simp only [List.map_append, List.map_cons, List.sum_append, List.sum_cons]
    abel
  · have hnone : m.get key = none := get_eq_none_iff.mpr (mt hasKey_iff.mpr hkey)
    rw [if_neg hkey, hnone, Table.rows_insertOrIgnore (Bool.not_eq_true _ ▸ hkey), List.map_append,
      List.sum_append, Option.map_none, Option.getD_none, add_zero, List.map_singleton,
      List.sum_singleton]

/-! ### Sums -/

section Sums

variable {ε A : Type*} [Add A] [Zero A] {key : ε → κ} {value : ε → A}

/-- `sums[key] = (sums[key] ?: 0) + value`, entry by entry. -/
def sums (key : ε → κ) (value : ε → A) (entries : List ε) : LinkedMap κ A :=
  entries.foldl (fun m x => m.put (key x) ((m.get (key x)).getD 0 + value x)) (Table.empty _)

/-- The sums over a list with one more entry. -/
theorem sums_append_singleton (entries : List ε) (x : ε) :
    sums key value (entries ++ [x]) = (sums key value entries).put (key x)
      (((sums key value entries).get (key x)).getD 0 + value x) := by
  rw [sums, List.foldl_append]
  rfl

/-- The keys of the sums, in the order of the list. -/
theorem keys_sums (entries : List ε) :
    (sums key value entries).rows.map Prod.fst = firstKeys (entries.map key) := by
  induction entries using List.reverseRecOn with
  | nil => rfl
  | append_singleton entries x ih =>
      rw [sums_append_singleton, keys_put, ih, List.map_append, firstKeys, firstKeys,
        List.foldl_append]
      rfl

/-- The sum under a key. -/
theorem get_sums (entries : List ε) :
    (sums key value entries).get k = SumsByKey.sumsByKey key value entries k := by
  induction entries using List.reverseRecOn generalizing k with
  | nil => rfl
  | append_singleton entries x ih =>
      have hsums : SumsByKey.sumsByKey key value (entries ++ [x]) =
          SumsByKey.add (SumsByKey.sumsByKey key value entries) (key x) (value x) := by
        rw [SumsByKey.sumsByKey, List.foldl_append]
        rfl
      rw [sums_append_singleton, get_put, ih, ih, hsums, SumsByKey.add]
      by_cases hk : key x = k
      · rw [if_pos hk, hk, Function.update_self]
      · rw [if_neg hk, Function.update_of_ne (Ne.symm hk)]

/-- **All sums together**, in the image of `f`, are the sum of all values. -/
theorem sum_sums {B : Type*} [AddCommGroup B] (f : A → B) (hzero : f 0 = 0)
    (hadd : ∀ a b, f (a + b) = f a + f b) (key : ε → κ) (value : ε → A) (entries : List ε) :
    ((sums key value entries).rows.map fun entry => f entry.2).sum =
      (entries.map fun x => f (value x)).sum := by
  induction entries using List.reverseRecOn with
  | nil => rfl
  | append_singleton entries x ih =>
      have hput := sum_put f (sums key value entries) (key x)
        (((sums key value entries).get (key x)).getD 0 + value x)
      have hold : (((sums key value entries).get (key x)).map f).getD 0 =
          f (((sums key value entries).get (key x)).getD 0) := by
        cases (sums key value entries).get (key x) with
        | none => exact hzero.symm
        | some _ => rfl
      rw [hold, hadd, ← add_assoc, add_right_comm, add_left_inj, ih] at hput
      rw [sums_append_singleton, hput, List.map_append, List.sum_append, List.map_singleton,
        List.sum_singleton]

end Sums

/-! ### Renaming keys -/

/-- `map.mapKeys { rename(it) }.mapValues { f(it) }` -/
def renamed (rename : κ → ν) (f : α → β) (m : LinkedMap κ α) : ν → Option β :=
  associate (m.rows.map fun entry => (rename entry.1, f entry.2))

/-- **The value under a new key** is the one of the last key with that name. -/
theorem renamed_apply (rename : κ → ν) (f : α → β) (n : ν) :
    renamed rename f m n =
      (((m.rows.map Prod.fst).filter fun k => decide (rename k = n)).getLast?).bind
        fun k => (m.get k).map f := by
  rw [renamed, associate_apply, List.filter_map, List.filter_map, List.getLast?_map,
    List.getLast?_map, Option.map_map]
  cases hlast : (m.rows.filter ((fun k => decide (rename k = n)) ∘ Prod.fst)).getLast? with
  | none =>
      have hnone : (m.rows.filter ((fun entry : ν × β => decide (entry.1 = n)) ∘
          fun entry => (rename entry.1, f entry.2))).getLast? = none := hlast
      rw [hnone]
      rfl
  | some entry =>
      have hsome : (m.rows.filter ((fun entry : ν × β => decide (entry.1 = n)) ∘
          fun entry => (rename entry.1, f entry.2))).getLast? = some entry := hlast
      have hmem : entry ∈ m.rows := List.mem_of_mem_filter (List.mem_of_getLast? hlast)
      rw [hsome, Option.map_some, Option.map_some, Option.bind_some, get_eq_some_iff.mpr hmem]
      rfl

end LinkedMap
