import SpendCraft.Lib.LinkedMap
import Mathlib.Order.Defs.LinearOrder

/-!
# Sections of a List

The entries of a list are put into groups by a key. Listed in some order of the keys, the
groups are the sections of the list: each entry is in just one of them.

A key stands for a date where entries with one key have one date. Sections by the date, from
the newest to the oldest, then depend on the order of the keys only.

## Conventions

`groupBy` fills a map entry by entry, as the loop of a program does, and keeps the keys in the
order in which they come; `group` and `sections` say the same with a filter and an order of the
keys from outside. `GroupedBy` is the specification: the sections hold every entry once, have one
date each, and go down in their dates. It is stated with a relation between keys and dates, since
a key is often a text that was made from the date and is compared as a text.

## Proof

The loop is followed from the end of the list: an entry more goes to the end of its group
(`groupBy_append_singleton`), and its key is a new one or not. With that, `groupBy` is `sections`
in the order of `LinkedMap.firstKeys`, and what the specification asks for is a property of that
order alone. Each of the equivalences then compares the order of the keys with that of the dates.

## Main results

* `rows_groupBy`: the groups are the sections in the order in which their keys first appear.
* `groupedBy_sections_iff`: when sections in some order of the keys are sections by the date.
* `groupedBy_sections_iff_of_sorted`: sections in the order of the keys themselves.
* `groupedBy_groupBy_iff`: groups of a list that is in the order of the dates.
-/

open Relational

namespace Grouping

variable {κ ε δ : Type*} [DecidableEq κ] {key : ε → κ} {keys : List κ} {entries : List ε}

/-- The entries under each key, in their order. -/
def groupBy (key : ε → κ) (entries : List ε) : LinkedMap κ (List ε) :=
  entries.foldl (fun m x => m.put (key x) ((m.get (key x)).getD [] ++ [x])) (Table.empty _)

/-- The entries with a key. -/
def group (key : ε → κ) (entries : List ε) (k : κ) : List ε :=
  entries.filter fun x => decide (key x = k)

/-- The groups in some order of the keys. -/
def sections (key : ε → κ) (keys : List κ) (entries : List ε) : List (κ × List ε) :=
  keys.map fun k => (k, group key entries k)

/-- What is in a group. -/
theorem mem_group {k : κ} {x : ε} : x ∈ group key entries k ↔ x ∈ entries ∧ key x = k := by
  rw [group, List.mem_filter, decide_eq_true_eq]

/-! ### Keys in the order of their first appearance -/

/-- The first occurrences of a list with one more key. -/
theorem firstKeys_append_singleton (keys : List κ) (k : κ) :
    LinkedMap.firstKeys (keys ++ [k]) =
      if k ∈ LinkedMap.firstKeys keys then LinkedMap.firstKeys keys
      else LinkedMap.firstKeys keys ++ [k] := by
  rw [LinkedMap.firstKeys, List.foldl_append]
  rfl

/-- Every key occurs first somewhere. -/
theorem mem_firstKeys {k : κ} : k ∈ LinkedMap.firstKeys keys ↔ k ∈ keys := by
  induction keys using List.reverseRecOn generalizing k with
  | nil => rfl
  | append_singleton keys k' ih =>
      rw [firstKeys_append_singleton, List.mem_append, List.mem_singleton]
      split_ifs with hk'
      · rw [ih]
        constructor
        · exact Or.inl
        · rintro (hk | rfl)
          · exact hk
          · exact ih.mp hk'
      · rw [List.mem_append, List.mem_singleton, ih]

/-- No key is listed twice. -/
theorem nodup_firstKeys : (LinkedMap.firstKeys keys).Nodup := by
  induction keys using List.reverseRecOn with
  | nil => exact List.nodup_nil
  | append_singleton keys k ih =>
      rw [firstKeys_append_singleton]
      split_ifs with hk
      · exact ih
      · rw [List.nodup_append]
        refine ⟨ih, List.nodup_singleton k, ?_⟩
        rintro a ha b hb rfl
        obtain rfl := List.mem_singleton.mp hb
        exact hk ha

/-- Keys that come in some order are listed in it. -/
theorem pairwise_firstKeys {r : κ → κ → Prop} (h : keys.Pairwise fun a b => a = b ∨ r a b) :
    (LinkedMap.firstKeys keys).Pairwise r := by
  induction keys using List.reverseRecOn with
  | nil => exact List.Pairwise.nil
  | append_singleton keys k ih =>
      rw [List.pairwise_append] at h
      obtain ⟨hkeys, -, hlast⟩ := h
      rw [firstKeys_append_singleton]
      split_ifs with hk
      · exact ih hkeys
      · rw [List.pairwise_append]
        refine ⟨ih hkeys, List.pairwise_singleton _ _, ?_⟩
        intro a ha b hb
        obtain rfl := List.mem_singleton.mp hb
        obtain rfl | hr := hlast a (mem_firstKeys.mp ha) b List.mem_cons_self
        · exact absurd ha hk
        · exact hr

/-! ### Groups -/

/-- Grouping a list with one more entry: it goes to the end of its group. -/
theorem groupBy_append_singleton (entries : List ε) (x : ε) :
    groupBy key (entries ++ [x]) =
      (groupBy key entries).put (key x) (((groupBy key entries).get (key x)).getD [] ++ [x]) := by
  rw [groupBy, List.foldl_append]
  rfl

/-- The keys of the groups, in the order of the list. -/
theorem keys_groupBy (entries : List ε) :
    (groupBy key entries).rows.map Prod.fst = LinkedMap.firstKeys (entries.map key) := by
  induction entries using List.reverseRecOn with
  | nil => rfl
  | append_singleton entries x ih =>
      rw [groupBy_append_singleton, LinkedMap.keys_put, ih, List.map_append, List.map_singleton,
        firstKeys_append_singleton]

/-- The group under a key. -/
theorem getD_get_groupBy (entries : List ε) (k : κ) :
    ((groupBy key entries).get k).getD [] = group key entries k := by
  induction entries using List.reverseRecOn generalizing k with
  | nil => rfl
  | append_singleton entries x ih =>
      rw [groupBy_append_singleton, LinkedMap.get_put, group, List.filter_append]
      by_cases hk : key x = k
      · subst hk
        rw [if_pos rfl, Option.getD_some, ih, group, List.filter_cons_of_pos (by simp),
          List.filter_nil]
      · rw [if_neg hk, ih, group, List.filter_cons_of_neg (by simpa using hk), List.filter_nil,
          List.append_nil]

/-- **Groups in the order of their first entries.** -/
theorem rows_groupBy (entries : List ε) :
    (groupBy key entries).rows =
      sections key (LinkedMap.firstKeys (entries.map key)) entries := by
  rw [sections, ← keys_groupBy, List.map_map]
  refine (List.map_id _).symm.trans (List.map_congr_left ?_)
  rintro ⟨k, group⟩ hmem
  have hget := LinkedMap.get_eq_some_iff.mpr hmem
  rw [Function.comp_apply, ← getD_get_groupBy, hget]
  rfl

/-- What holds of the keys of all sections. -/
theorem forall_sections_iff {f : ε → κ} (hmem : ∀ x ∈ entries, key x ∈ keys) :
    (∀ s ∈ sections key keys entries, ∀ x ∈ s.2, s.1 = f x) ↔ ∀ x ∈ entries, key x = f x := by
  constructor
  · intro h x hx
    have hsection : (key x, group key entries (key x)) ∈ sections key keys entries :=
      List.mem_map_of_mem (hmem x hx)
    exact h _ hsection x (mem_group.mpr ⟨hx, rfl⟩)
  · intro h s hs x hx
    obtain ⟨k, -, rfl⟩ := List.mem_map.mp hs
    obtain ⟨hin, rfl⟩ := mem_group.mp hx
    exact h x hin

/-- **Each entry is in just one section.** -/
theorem flatMap_sections (hnodup : keys.Nodup) (hmem : ∀ x ∈ entries, key x ∈ keys) :
    ((sections key keys entries).flatMap Prod.snd).Perm entries := by
  induction keys generalizing entries with
  | nil =>
      obtain rfl := List.eq_nil_iff_forall_not_mem.mpr fun x hx =>
        List.not_mem_nil (hmem x hx)
      exact List.Perm.nil
  | cons k keys ih =>
      obtain ⟨hk, hnodup⟩ := List.nodup_cons.mp hnodup
      have hrest : (sections key keys entries) =
          sections key keys (entries.filter fun x => !decide (key x = k)) := by
        apply List.map_congr_left
        intro k' hk'
        rw [group, group, List.filter_filter]
        congr 1
        apply List.filter_congr
        intro x _
        by_cases hx : key x = k'
        · have hne : key x ≠ k := by
            rintro rfl
            exact hk (hx ▸ hk')
          simp [hx, hx ▸ hne]
        · simp [hx]
      have hothers : ∀ x ∈ entries.filter fun x => !decide (key x = k), key x ∈ keys := by
        intro x hx
        obtain ⟨hx, hne⟩ := List.mem_filter.mp hx
        have hxk : key x ≠ k := by simpa using hne
        exact (List.mem_cons.mp (hmem x hx)).resolve_left hxk
      have hsplit : (sections key (k :: keys) entries).flatMap Prod.snd =
          group key entries k ++ (sections key keys entries).flatMap Prod.snd := List.flatMap_cons
      rw [hsplit, hrest]
      exact ((ih hnodup hothers).append_left _).trans (List.filter_append_perm _ entries)

/-! ### Sections by the date -/

variable [LinearOrder δ] {date : ε → δ}

/-- The entries in sections by their dates, from the newest to the oldest. -/
structure GroupedBy (date : ε → δ) (entries : List ε) (sections : List (κ × List ε)) :
    Prop where
  once : (sections.flatMap Prod.snd).Perm entries
  nonempty : ∀ s ∈ sections, s.2 ≠ []
  sameDate : ∀ s ∈ sections, ∀ x ∈ s.2, ∀ y ∈ s.2, date x = date y
  newestFirst : sections.Pairwise fun s s' => ∀ x ∈ s.2, ∀ y ∈ s'.2, date y < date x

omit [DecidableEq κ] in
/-- The order of the entries does not matter to what is grouped by. -/
theorem GroupedBy.of_perm {entries' : List ε} {s : List (κ × List ε)}
    (h : GroupedBy date entries s) (hperm : entries.Perm entries') : GroupedBy date entries' s :=
  { h with once := h.once.trans hperm }

/-- Sections by a key group by a date exactly if the keys tell the dates and come in their order.
-/
theorem groupedBy_sections_iff (hnodup : keys.Nodup)
    (hkeys : ∀ k, k ∈ keys ↔ k ∈ entries.map key) :
    GroupedBy date entries (sections key keys entries) ↔
      (∀ x ∈ entries, ∀ y ∈ entries, key x = key y → date x = date y) ∧
        keys.Pairwise fun k k' => ∀ x ∈ entries, ∀ y ∈ entries, key x = k → key y = k' →
          date y < date x := by
  have hmem : ∀ x ∈ entries, key x ∈ keys := fun x hx =>
    (hkeys (key x)).mpr (List.mem_map_of_mem hx)
  have hpairwise : ((sections key keys entries).Pairwise fun s s' =>
        ∀ x ∈ s.2, ∀ y ∈ s'.2, date y < date x) ↔
      keys.Pairwise fun k k' => ∀ x ∈ entries, ∀ y ∈ entries, key x = k → key y = k' →
        date y < date x := by
    rw [sections, List.pairwise_map]
    simp only [mem_group]
    constructor
    · intro h
      exact h.imp fun hlt x hx y hy hxk hyk => hlt x ⟨hx, hxk⟩ y ⟨hy, hyk⟩
    · intro h
      exact h.imp fun hlt x hx y hy => hlt x hx.1 y hy.1 hx.2 hy.2
  constructor
  · intro h
    refine ⟨fun x hx y hy hxy => ?_, hpairwise.mp h.newestFirst⟩
    exact h.sameDate _ (List.mem_map_of_mem (hmem x hx)) x (mem_group.mpr ⟨hx, rfl⟩) y
      (mem_group.mpr ⟨hy, hxy.symm⟩)
  · rintro ⟨hsame, horder⟩
    refine ⟨flatMap_sections hnodup hmem, ?_, ?_, hpairwise.mpr horder⟩
    · intro s hs
      obtain ⟨k, hk, rfl⟩ := List.mem_map.mp hs
      obtain ⟨x, hx, rfl⟩ := List.mem_map.mp ((hkeys k).mp hk)
      exact List.ne_nil_of_mem (mem_group.mpr ⟨hx, rfl⟩)
    · intro s hs x hx y hy
      obtain ⟨k, -, rfl⟩ := List.mem_map.mp hs
      obtain ⟨hx, hxk⟩ := mem_group.mp hx
      obtain ⟨hy, hyk⟩ := mem_group.mp hy
      exact hsame x hx y hy (hxk.trans hyk.symm)

section Labels

variable (hlabel : ∀ x ∈ entries, ∀ y ∈ entries, date x = date y → key x = key y)

include hlabel

/-- **Groups of a list in the order of the dates**, from the newest on. -/
theorem groupedBy_groupBy_iff (hsorted : entries.Pairwise fun x y => date y ≤ date x) :
    GroupedBy date entries (groupBy key entries).rows ↔
      ∀ x ∈ entries, ∀ y ∈ entries, key x = key y → date x = date y := by
  rw [rows_groupBy, groupedBy_sections_iff nodup_firstKeys fun _ => mem_firstKeys,
    and_iff_left_iff_imp]
  intro hsame
  apply pairwise_firstKeys
  rw [List.pairwise_map]
  apply List.Pairwise.imp_of_mem _ hsorted
  intro a b ha hb hle
  rw [or_iff_not_imp_left]
  intro hne x hx y hy hxa hyb
  have hdate : date b ≠ date a := fun heq => hne (hlabel a ha b hb heq.symm)
  rw [hsame x hx a ha hxa, hsame y hy b hb hyb]
  exact lt_of_le_of_ne hle hdate

/-- **Sections in the order of the keys**, from the greatest on. -/
theorem groupedBy_sections_iff_of_sorted [LinearOrder κ]
    (hsorted : keys.Pairwise fun k k' => k' < k)
    (hkeys : ∀ k, k ∈ keys ↔ k ∈ entries.map key) :
    GroupedBy date entries (sections key keys entries) ↔
      ∀ x ∈ entries, ∀ y ∈ entries, date x < date y → key x < key y := by
  rw [groupedBy_sections_iff (hsorted.imp fun hlt => hlt.ne') hkeys]
  constructor
  · rintro ⟨hsame, horder⟩ x hx y hy hlt
    by_contra hnot
    have hne : key y ≠ key x := fun heq => hlt.ne (hsame x hx y hy heq.symm)
    have hkey : key y < key x := lt_of_le_of_ne (not_lt.mp hnot) hne
    have hmem : ∀ x ∈ entries, key x ∈ keys := fun x hx =>
      (hkeys (key x)).mpr (List.mem_map_of_mem hx)
    have hbefore : ∀ ⦃k⦄, k ∈ keys → ∀ ⦃k'⦄, k' ∈ keys → k' < k →
        ∀ x ∈ entries, ∀ y ∈ entries, key x = k → key y = k' → date y < date x := by
      apply List.Pairwise.forall_of_forall_of_flip
      · exact fun k _ hlt => absurd hlt (lt_irrefl k)
      · refine horder.imp ?_
        intro k k' h _
        exact h
      · refine hsorted.imp ?_
        intro k k' hlt hlt'
        exact absurd hlt' (lt_asymm hlt)
    exact lt_asymm hlt (hbefore (hmem x hx) (hmem y hy) hkey x hx y hy rfl rfl)
  · intro h
    refine ⟨?_, ?_⟩
    · intro x hx y hy hxy
      by_contra hne
      obtain hlt | hlt := lt_or_gt_of_ne hne
      · exact (h x hx y hy hlt).ne hxy
      · exact (h y hy x hx hlt).ne hxy.symm
    · apply hsorted.imp
      intro k k' hlt x hx y hy hxk hyk
      by_contra hnot
      obtain hdate | hdate := (not_lt.mp hnot).lt_or_eq
      · have hkey := h x hx y hy hdate
        rw [hxk, hyk] at hkey
        exact lt_asymm hkey hlt
      · have hkey := hlabel x hx y hy hdate
        rw [hxk, hyk] at hkey
        exact hlt.ne' hkey

end Labels

end Grouping
