import Mathlib.Data.List.Infix
import Mathlib.Data.Set.Defs

/-!
# Joined Words of a Prefix Code

A text of words with a separator between them can be taken apart again if no word starts with
another, whether or not the separator occurs within the words. Texts of marked pieces can be taken
apart if the mark does not occur in a piece.

## Conventions

The words are lists over any type of characters, and so is the separator. The code has no empty
word, and the separator is not empty: otherwise the number of words could not be told. A text of
marked pieces has the mark before each piece, and the pieces must not contain it, while the words
of the code may.

## Proof

Two joined texts that agree have the same first word, because otherwise one of the two first words
starts with the other (`PrefixFree.append_inj`), and what is left after it and the separator is
again a joined text: the induction is on the list of words.

## Main results

* `PrefixFree.intercalate_injective`: the joined text tells the words.
* `marked_append_inj`: the text of marked pieces tells the first of them.
-/

namespace PrefixCode

variable {α : Type*} {code : Set (List α)} {separator : List α}

/-- No word starts with another. -/
def PrefixFree (code : Set (List α)) : Prop :=
  ∀ u ∈ code, ∀ v ∈ code, u <+: v → u = v

/-- The first word of a text is determined, and so is the rest. -/
theorem PrefixFree.append_inj (hcode : PrefixFree code) {u v s t : List α} (hu : u ∈ code)
    (hv : v ∈ code) (h : u ++ s = v ++ t) : u = v ∧ s = t := by
  have heq : u = v := by
    rcases List.prefix_or_prefix_of_prefix (List.prefix_append u s)
      (h ▸ List.prefix_append v t) with huv | hvu
    · exact hcode u hu v hv huv
    · exact (hcode v hv u hu hvu).symm
  exact ⟨heq, List.append_cancel_left (heq ▸ h)⟩

/-- Words that are not empty join to a text that is not. -/
theorem intercalate_ne_nil {words : List (List α)} (hwords : words ≠ [])
    (hempty : [] ∉ words) : separator.intercalate words ≠ [] := by
  match words with
  | [] => exact absurd rfl hwords
  | [u] =>
      rw [List.intercalate_singleton]
      rintro rfl
      exact hempty List.mem_cons_self
  | u :: v :: rest =>
      rw [List.intercalate_cons_cons, List.append_assoc]
      intro h
      obtain ⟨rfl, -⟩ := List.append_eq_nil_iff.mp h
      exact hempty List.mem_cons_self

/-- What is neither in the separator nor in a word. -/
theorem notMem_intercalate {a : α} (hseparator : a ∉ separator) {words : List (List α)}
    (hwords : ∀ u ∈ words, a ∉ u) : a ∉ separator.intercalate words := by
  induction words with
  | nil => exact List.not_mem_nil
  | cons u words ih =>
      have hu := hwords u List.mem_cons_self
      have hrest := ih fun v hv => hwords v (List.mem_cons_of_mem _ hv)
      cases words with
      | nil => rwa [List.intercalate_singleton]
      | cons v words =>
          rw [List.intercalate_cons_cons, List.mem_append, List.mem_append]
          rintro ((hmem | hmem) | hmem)
          · exact hu hmem
          · exact hseparator hmem
          · exact hrest hmem

/-- **The joined text tells the words.** -/
theorem PrefixFree.intercalate_injective (hcode : PrefixFree code) (hempty : [] ∉ code)
    (hseparator : separator ≠ []) {us vs : List (List α)} (hus : ∀ u ∈ us, u ∈ code)
    (hvs : ∀ v ∈ vs, v ∈ code)
    (h : separator.intercalate us = separator.intercalate vs) : us = vs := by
  induction us generalizing vs with
  | nil =>
      by_contra hne
      exact intercalate_ne_nil (Ne.symm hne) (fun hmem => hempty (hvs _ hmem)) h.symm
  | cons u us ih =>
      cases vs with
      | nil =>
          exact absurd h (intercalate_ne_nil (List.cons_ne_nil _ _)
            fun hmem => hempty (hus _ hmem))
      | cons v vs =>
          have hu := hus u List.mem_cons_self
          have hv := hvs v List.mem_cons_self
          have hlone (w w' : List α) (ws : List (List α)) (hw : w ∈ code) (hw' : w' ∈ code)
              (heq : w = w' ++ (separator ++ separator.intercalate ws)) : False := by
            obtain ⟨-, hnil⟩ := hcode.append_inj hw hw' ((List.append_nil w).trans heq)
            exact hseparator (List.append_eq_nil_iff.mp hnil.symm).1
          cases us with
          | nil =>
              cases vs with
              | nil =>
                  rw [List.intercalate_singleton, List.intercalate_singleton] at h
                  rw [h]
              | cons v' vs =>
                  rw [List.intercalate_singleton, List.intercalate_cons_cons,
                    List.append_assoc] at h
                  exact (hlone _ _ _ hu hv h).elim
          | cons u' us =>
              cases vs with
              | nil =>
                  rw [List.intercalate_singleton, List.intercalate_cons_cons,
                    List.append_assoc] at h
                  exact (hlone _ _ _ hv hu h.symm).elim
              | cons v' vs =>
                  rw [List.intercalate_cons_cons, List.intercalate_cons_cons, List.append_assoc,
                    List.append_assoc] at h
                  obtain ⟨rfl, hrest⟩ := hcode.append_inj hu hv h
                  rw [ih (fun w hw => hus w (List.mem_cons_of_mem _ hw))
                    (fun w hw => hvs w (List.mem_cons_of_mem _ hw))
                    (List.append_cancel_left hrest)]

/-- What is left of `v` after `u` is empty, if the texts go on with marked pieces. -/
theorem eq_nil_of_append_marked {mark : α} {us : List (List α)} {w t : List α} (hw : mark ∉ w)
    (h : us.flatMap (fun u => mark :: u) = w ++ t) : w = [] := by
  match us, w, h with
  | _, [], _ => rfl
  | [], c :: w, h => exact absurd h (by simp)
  | u :: us, c :: w, h =>
      rw [List.flatMap_cons, List.cons_append, List.cons_append, List.cons.injEq] at h
      exact absurd (h.1 ▸ List.mem_cons_self) hw

/-- **The first of marked pieces** is told by the text of them all, and so is the rest. -/
theorem marked_append_inj {mark : α} {u v : List α} {us vs : List (List α)} (hu : mark ∉ u)
    (hv : mark ∉ v)
    (h : u ++ us.flatMap (fun u => mark :: u) = v ++ vs.flatMap (fun v => mark :: v)) :
    u = v ∧ us.flatMap (fun u => mark :: u) = vs.flatMap (fun v => mark :: v) := by
  have heq : u = v := by
    rcases List.append_eq_append_iff.mp h with ⟨w, rfl, hw⟩ | ⟨w, rfl, hw⟩
    · rw [eq_nil_of_append_marked (fun hmem => hv (List.mem_append_right _ hmem)) hw,
        List.append_nil]
    · rw [eq_nil_of_append_marked (fun hmem => hu (List.mem_append_right _ hmem)) hw,
        List.append_nil]
  exact ⟨heq, List.append_cancel_left (heq ▸ h)⟩

end PrefixCode
