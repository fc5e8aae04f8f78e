import SpendCraft.Lib.Grouping

/-!
# Sums under Renamed Keys

Sums are built by one key, and the keys are renamed afterwards. Where two keys get the same
name, the sum of the later one takes the place of the earlier one: what is left under a name
is the sum of the last key with it, in the order in which the keys first appear.

## Conventions

`mapKeys` goes through the entries in their order and puts each value under its new name, so the
last key with a name decides, and keys are in the order in which they first appeared in the list
that was summed. Nothing is added up again: a map that is to have the sums of the names would need
a second summation, which the operation does not do.

## Proof

A name has the value of the last of its keys (`get_mapKeys`), and a key has the sum of its entries.
So the entries under a name are those of its last key and the `overwritten` ones, which are what
the name loses: `group_lastKey_append_overwritten` puts both together, in some order.

## Main results

* `get_mapKeys_sums`: the sum that is left under a name.
* `group_lastKey_append_overwritten`: what the name had altogether.
-/

namespace LinkedMap

open Relational Grouping

variable {κ ν α ε A : Type*} [DecidableEq κ] [DecidableEq ν]

/-! ### Entries and renamed keys -/

/-- The map that entries are put into one after the other. -/
def ofEntries (entries : List (κ × α)) : LinkedMap κ α :=
  entries.foldl (fun m entry => m.put entry.1 entry.2) (Table.empty _)

/-- `map.mapKeys { rename(it.key) }` -/
def mapKeys (rename : κ → ν) (m : LinkedMap κ α) : LinkedMap ν α :=
  ofEntries (m.rows.map fun entry => (rename entry.1, entry.2))

/-- The value under a key in a map of entries is that of the last one. -/
theorem get_ofEntries (entries : List (κ × α)) (k : κ) :
    (ofEntries entries).get k = associate entries k := by
  induction entries using List.reverseRecOn generalizing k with
  | nil => rfl
  | append_singleton entries entry ih =>
      have hput : ofEntries (entries ++ [entry]) =
          (ofEntries entries).put entry.1 entry.2 := by
        rw [ofEntries, List.foldl_append]
        rfl
      rw [hput, get_put, associate_append_singleton, ih]
      by_cases hk : entry.1 = k
      · rw [if_pos hk, hk, Function.update_self]
      · rw [if_neg hk, Function.update_of_ne (Ne.symm hk)]

/-- Under a new name, the value of the last key with that name is found. -/
theorem get_mapKeys (rename : κ → ν) (m : LinkedMap κ α) (n : ν) :
    (m.mapKeys rename).get n =
      (((m.rows.map Prod.fst).filter fun k => decide (rename k = n)).getLast?).bind m.get := by
  have hrenamed : (m.mapKeys rename).get n = renamed rename (fun v => v) m n :=
    get_ofEntries _ n
  rw [hrenamed, renamed_apply]
  simp only [Option.map_id']

/-- Two maps with the same values have the same entries, in some order. -/
theorem perm_of_get_eq {m m' : LinkedMap κ α} (h : ∀ k, m.get k = m'.get k) :
    m.rows.Perm m'.rows := by
  refine (List.perm_ext_iff_of_nodup m.nodup_keys.of_map m'.nodup_keys.of_map).mpr ?_
  rintro ⟨k, v⟩
  rw [← get_eq_some_iff, ← get_eq_some_iff, h]

/-! ### The last key with a name -/

/-- Taking first occurrences commutes with a filter. -/
theorem filter_firstKeys (p : κ → Bool) (keys : List κ) :
    (firstKeys keys).filter p = firstKeys (keys.filter p) := by
  induction keys using List.reverseRecOn with
  | nil => rfl
  | append_singleton keys k ih =>
      rw [firstKeys_append_singleton, List.filter_append]
      cases hk : p k with
      | false =>
          rw [List.filter_cons_of_neg (by simp [hk]), List.filter_nil, List.append_nil, ← ih]
          split_ifs
          · rfl
          · rw [List.filter_append, List.filter_cons_of_neg (by simp [hk]), List.filter_nil,
              List.append_nil]
      | true =>
          rw [List.filter_cons_of_pos hk, List.filter_nil, firstKeys_append_singleton, ← ih]
          by_cases hseen : k ∈ firstKeys keys
          · rw [if_pos hseen, if_pos (List.mem_filter.mpr ⟨hseen, hk⟩)]
          · rw [if_neg hseen, if_neg (fun hmem => hseen (List.mem_of_mem_filter hmem)),
              List.filter_append, List.filter_cons_of_pos hk, List.filter_nil]

/-- Of the keys with the name, the one that appears last for the first time. -/
def lastKey (key : ε → κ) (rename : κ → ν) (entries : List ε) (n : ν) : Option κ :=
  (firstKeys ((group (fun x => rename (key x)) entries n).map key)).getLast?

/-- The entries under the name whose key is another one. -/
def overwritten (key : ε → κ) (rename : κ → ν) (entries : List ε) (n : ν) : List ε :=
  (group (fun x => rename (key x)) entries n).filter fun x =>
    !decide (lastKey key rename entries n = some (key x))

variable {key : ε → κ} {value : ε → A} {rename : κ → ν} {entries : List ε} {n : ν} {k : κ}

/-- **What is left under a name** is the sum of its last key. -/
theorem get_mapKeys_sums [Add A] [Zero A] :
    ((sums key value entries).mapKeys rename).get n =
      (lastKey key rename entries n).bind fun k =>
        SumsByKey.total ((group key entries k).map value) := by
  have hlast : ((firstKeys (entries.map key)).filter fun k => decide (rename k = n)).getLast? =
      lastKey key rename entries n := by
    rw [filter_firstKeys, List.filter_map, lastKey]
    rfl
  rw [get_mapKeys, keys_sums, hlast]
  congr 1
  funext k
  rw [get_sums, SumsByKey.sumsByKey_apply]
  rfl

/-- There is no last key exactly if no entry has the name. -/
theorem lastKey_eq_none_iff :
    lastKey key rename entries n = none ↔ group (fun x => rename (key x)) entries n = [] := by
  rw [lastKey, List.getLast?_eq_none_iff, List.eq_nil_iff_forall_not_mem,
    ← List.map_eq_nil_iff (f := key), List.eq_nil_iff_forall_not_mem]
  simp only [mem_firstKeys]

/-- The last key is the key of some entry, and has the name. -/
theorem exists_of_lastKey (h : lastKey key rename entries n = some k) :
    (∃ x ∈ entries, key x = k) ∧ rename k = n := by
  have hmem := List.mem_of_getLast? h
  rw [mem_firstKeys] at hmem
  obtain ⟨x, hx, rfl⟩ := List.mem_map.mp hmem
  obtain ⟨hentry, hname⟩ := mem_group.mp hx
  exact ⟨⟨x, hentry, rfl⟩, hname⟩

/-- **The entries under a name** are those of its last key and the overwritten ones. -/
theorem group_lastKey_append_overwritten (h : lastKey key rename entries n = some k) :
    (group key entries k ++ overwritten key rename entries n).Perm
      (group (fun x => rename (key x)) entries n) := by
  have hkept : group key entries k = (group (fun x => rename (key x)) entries n).filter
      fun x => decide (lastKey key rename entries n = some (key x)) := by
    rw [group, group, List.filter_filter]
    apply List.filter_congr
    intro x _
    rw [h, ← Bool.decide_and, decide_eq_decide, Option.some.injEq]
    constructor
    · rintro rfl
      exact ⟨rfl, (exists_of_lastKey h).2⟩
    · rintro ⟨rfl, -⟩
      rfl
  rw [hkept, overwritten]
  exact List.filter_append_perm _ _

end LinkedMap
