import Mathlib.Data.List.Basic
import Mathlib.Data.Nat.Find
import Mathlib.Data.List.DropRight
import Mathlib.Data.List.Infix
import Mathlib.Data.Int.Notation

/-!
# Kotlin Strings

A Kotlin string is modelled as the list of its characters. This module has the string
functions of the Kotlin standard library that search, split and trim, and the lemmas that
compute them on a text assembled from known pieces.

Searching is `List.dropInfix?`, which finds the first occurrence of a delimiter. Two
lemmas locate that occurrence in an assembled text: an occurrence cannot straddle a
character that the delimiter lacks (`dropInfix?_append_cons_of_not_mem`), and it cannot
start in a prefix that lacks the delimiter's first character
(`dropInfix?_append_of_head_not_mem`).

## Conventions

A character is a Unicode scalar value, so a text has no lone surrogates, and `length` counts code
points; `utf16Length` is the length that the program sees. White space is the
list of code points of `Char.isWhitespace`. An empty delimiter is found at the start of every text.

`substringBefore` and `substringAfter` return the whole text if the delimiter is missing, as in
the library, and the lemmas about a missing delimiter say so.

## Main results

* `contains_iff`: searching is being an infix.
* `substringBefore_append_delimiter`, `substringAfter_append_delimiter`: a text that is assembled
  around its delimiter.
* `trim_of_trimmed`, `trimmed_append`: what trimming leaves alone.
* `map_replace_of_not_mem`, `not_mem_of_mem_splitOn`: replacing and splitting at a character.
-/

namespace Kotlin

/-- A `String` as its code points. -/
abbrev Text := List Char

/-! ### First occurrences -/

section DropInfix

variable {α : Type*} [BEq α] [LawfulBEq α] {d u v p t : List α} {c : α}

/-- `dropInfix?` finds the first occurrence. -/
theorem dropInfix?_eq_some (l : List α) :
    l.dropInfix? d = some (p, t) ↔
      l = p ++ d ++ t ∧ ∀ p' t', l = p' ++ d ++ t' → p.length ≤ p'.length := by
  rw [List.dropInfix?_eq_some_iff]
  constructor
  · rintro ⟨⟨i, hl, hi⟩, hmin⟩
    obtain rfl := eq_of_beq hi
    exact ⟨hl, fun p' t' h => hmin p' i t' h BEq.rfl⟩
  · rintro ⟨hl, hmin⟩
    refine ⟨⟨d, hl, BEq.rfl⟩, ?_⟩
    intro p' i t' h hi
    obtain rfl := eq_of_beq hi
    exact hmin p' t' h

/-- A text without an infix has no place to drop it from. -/
theorem dropInfix?_eq_none (l : List α) :
    l.dropInfix? d = none ↔ ¬ d <:+: l := by
  constructor
  · rintro h ⟨p, t, hl⟩
    -- some occurrence exists, so a shortest prefix before one does
    classical
    have hex : ∃ n, ∃ p t, l = p ++ d ++ t ∧ p.length = n := ⟨_, p, t, hl.symm, rfl⟩
    obtain ⟨p₀, t₀, hl₀, hn⟩ := Nat.find_spec hex
    have hsome : l.dropInfix? d = some (p₀, t₀) := by
      rw [dropInfix?_eq_some]
      refine ⟨hl₀, ?_⟩
      intro p' t' h'
      rw [hn]
      exact Nat.find_min' hex ⟨p', t', h', rfl⟩
    rw [hsome] at h
    cases h
  · intro h
    cases hd : l.dropInfix? d with
    | none => rfl
    | some pt =>
        obtain ⟨p, t⟩ := pt
        exact absurd ⟨p, t, ((dropInfix?_eq_some l).mp hd).1.symm⟩ h

/-- The first occurrence is at the head. -/
@[simp] theorem dropInfix?_append_self (d t : List α) :
    (d ++ t).dropInfix? d = some ([], t) := by
  rw [dropInfix?_eq_some]
  exact ⟨rfl, fun _ _ _ => Nat.zero_le _⟩

/-- An occurrence that does not start at the head starts in the tail. -/
theorem dropInfix?_cons_of_not_prefix (h : ¬ d <+: c :: u) :
    (c :: u).dropInfix? d = (u.dropInfix? d).map fun pt => (c :: pt.1, pt.2) := by
  cases hd : u.dropInfix? d with
  | none =>
      rw [Option.map_none, dropInfix?_eq_none]
      rw [dropInfix?_eq_none] at hd
      rw [List.infix_cons_iff]
      exact not_or.mpr ⟨h, hd⟩
  | some pt =>
      obtain ⟨p, t⟩ := pt
      rw [Option.map_some, dropInfix?_eq_some]
      obtain ⟨hu, hmin⟩ := (dropInfix?_eq_some u).mp hd
      refine ⟨by rw [hu]; simp, ?_⟩
      intro p' t' hp'
      rcases p' with - | ⟨e, p''⟩
      · exact absurd ⟨t', hp'.symm⟩ h
      · have hu' : u = p'' ++ d ++ t' := by
          simpa using (List.cons.inj hp').2
        simpa using hmin p'' t' hu'

/-- No occurrence starts in a prefix without the first character of the delimiter. -/
theorem dropInfix?_append_of_head_not_mem (h : c ∉ u) (v : List α) :
    (u ++ v).dropInfix? (c :: d) = (v.dropInfix? (c :: d)).map fun pt => (u ++ pt.1, pt.2) := by
  induction u with
  | nil => simp
  | cons a u ih =>
      have hne : ¬ c :: d <+: a :: (u ++ v) := by
        rintro ⟨t, ht⟩
        exact h (by rw [(List.cons.inj ht).1]; exact List.mem_cons_self)
      rw [List.cons_append, dropInfix?_cons_of_not_prefix hne,
        ih (fun hmem => h (List.mem_cons_of_mem a hmem)), Option.map_map]
      rfl

/-- An occurrence does not straddle a character that the delimiter lacks: it lies before
or behind it. -/
theorem dropInfix?_append_cons_of_not_mem (hd : d ≠ []) (hc : c ∉ d) (u v : List α) :
    (u ++ c :: v).dropInfix? d =
      match u.dropInfix? d with
      | some (p, t) => some (p, t ++ c :: v)
      | none => (v.dropInfix? d).map fun pt => (u ++ c :: pt.1, pt.2) := by
  induction u with
  | nil =>
      have hnil : ([] : List α).dropInfix? d = none := by
        rw [dropInfix?_eq_none, List.infix_nil]
        exact hd
      have hne : ¬ d <+: c :: v := by
        intro hpre
        obtain ⟨e, d', rfl⟩ := List.exists_cons_of_ne_nil hd
        obtain ⟨t, ht⟩ := hpre
        exact hc (by rw [(List.cons.inj ht).1]; exact List.mem_cons_self)
      rw [List.nil_append, dropInfix?_cons_of_not_prefix hne, hnil]
      rfl
  | cons a u ih =>
      by_cases hpre : d <+: a :: u
      · obtain ⟨t, ht⟩ := hpre
        rw [← ht, List.append_assoc, dropInfix?_append_self, dropInfix?_append_self]
      · have hpre' : ¬ d <+: a :: (u ++ c :: v) := by
          rintro ⟨t, ht⟩
          rw [← List.cons_append, List.append_eq_append_iff] at ht
          rcases ht with ⟨w, hw, -⟩ | ⟨w, hw, htw⟩
          · exact hpre ⟨w, hw.symm⟩
          · rcases w with - | ⟨e, w⟩
            · exact hpre ⟨[], by rw [List.append_nil] at hw ⊢; exact hw⟩
            · obtain rfl := (List.cons.inj htw).1
              exact hc (by rw [hw]; simp)
        rw [List.cons_append, dropInfix?_cons_of_not_prefix hpre', ih,
          dropInfix?_cons_of_not_prefix hpre]
        cases u.dropInfix? d with
        | none => simp [Option.map_map, Function.comp_def]
        | some pt => rfl

end DropInfix

/-- `String.contains`. -/
def contains (s d : Text) : Bool :=
  (s.dropInfix? d).isSome

/-- `String.substringBefore`: the whole string when the delimiter is missing. -/
def substringBefore (s d : Text) : Text :=
  match s.dropInfix? d with
  | some (p, _) => p
  | none => s

/-- `String.substringAfter`: the whole string when the delimiter is missing. -/
def substringAfter (s d : Text) : Text :=
  match s.dropInfix? d with
  | some (_, t) => t
  | none => s

/-- `contains` is being an infix. -/
theorem contains_iff {s d : Text} : contains s d = true ↔ d <:+: s := by
  rw [contains, ← not_iff_not, ← dropInfix?_eq_none, Bool.not_eq_true, Option.isSome_eq_false_iff,
    Option.isNone_iff_eq_none]

/-- A character is contained exactly if it occurs. -/
theorem contains_singleton_iff {s : Text} {c : Char} : contains s [c] = true ↔ c ∈ s := by
  rw [contains_iff, List.singleton_infix_iff]

/-- A text without one of the characters of `d` does not contain `d`. -/
theorem contains_eq_false_of_not_mem {s d : Text} {c : Char} (hd : c ∈ d) (hs : c ∉ s) :
    contains s d = false := by
  rw [← Bool.not_eq_true, contains_iff]
  intro hsub
  exact hs (hsub.subset hd)

/-- What is before a character does not have it. -/
theorem not_mem_substringBefore_singleton (s : Text) (c : Char) :
    c ∉ substringBefore s [c] := by
  rw [substringBefore]
  split
  next p t h =>
    obtain ⟨hs, hmin⟩ := (dropInfix?_eq_some s).mp h
    intro hc
    obtain ⟨u, v, rfl⟩ := List.append_of_mem hc
    have hle := hmin u (v ++ [c] ++ t) (by rw [hs]; simp)
    rw [List.length_append, List.length_cons] at hle
    omega
  next h =>
    rw [dropInfix?_eq_none, List.singleton_infix_iff] at h
    exact h

/-! ### Searching an assembled text -/

section Assembled

variable {u v d : Text} {c : Char}

/-- A text contains what it starts with. -/
@[simp] theorem contains_append_self (d t : Text) : contains (d ++ t) d = true := by
  rw [contains, dropInfix?_append_self]
  rfl

/-- Before the text itself there is nothing. -/
@[simp] theorem substringBefore_append_self (d t : Text) : substringBefore (d ++ t) d = [] := by
  rw [substringBefore, dropInfix?_append_self]

/-- After the text itself comes the rest. -/
@[simp] theorem substringAfter_append_self (d t : Text) : substringAfter (d ++ t) d = t := by
  rw [substringAfter, dropInfix?_append_self]

/-- A prefix without the first character of the delimiter is skipped. -/
theorem contains_append_of_head_not_mem (hd : d.head? = some c) (h : c ∉ u) (v : Text) :
    contains (u ++ v) d = contains v d := by
  obtain ⟨d, rfl⟩ := List.head?_eq_some_iff.mp hd
  rw [contains, contains, dropInfix?_append_of_head_not_mem h, Option.isSome_map]

/-- The search for `d` passes over a part without its first letter. -/
theorem substringBefore_append_of_head_not_mem (hd : d.head? = some c) (h : c ∉ u) (v : Text) :
    substringBefore (u ++ v) d = u ++ substringBefore v d := by
  obtain ⟨d, rfl⟩ := List.head?_eq_some_iff.mp hd
  rw [substringBefore, substringBefore, dropInfix?_append_of_head_not_mem h]
  cases v.dropInfix? (c :: d) <;> rfl

/-- The same for what comes after `d`. -/
theorem substringAfter_append_of_head_not_mem (hd : d.head? = some c) (h : c ∉ u) {v : Text}
    (hv : contains v d = true) : substringAfter (u ++ v) d = substringAfter v d := by
  obtain ⟨d, rfl⟩ := List.head?_eq_some_iff.mp hd
  rw [contains, Option.isSome_iff_exists] at hv
  obtain ⟨pt, hpt⟩ := hv
  rw [substringAfter, substringAfter, dropInfix?_append_of_head_not_mem h, hpt]
  rfl

/-- The first occurrence of a delimiter behind a prefix without its first character. -/
theorem contains_append_delimiter (hd : d.head? = some c) (h : c ∉ u) (v : Text) :
    contains (u ++ (d ++ v)) d = true := by
  rw [contains_append_of_head_not_mem hd h, contains_append_self]

/-- What stands before the first `d`. -/
theorem substringBefore_append_delimiter (hd : d.head? = some c) (h : c ∉ u) (v : Text) :
    substringBefore (u ++ (d ++ v)) d = u := by
  rw [substringBefore_append_of_head_not_mem hd h, substringBefore_append_self, List.append_nil]

/-- What stands after the first `d`. -/
theorem substringAfter_append_delimiter (hd : d.head? = some c) (h : c ∉ u) (v : Text) :
    substringAfter (u ++ (d ++ v)) d = v := by
  rw [substringAfter_append_of_head_not_mem hd h (contains_append_self d v),
    substringAfter_append_self]

/-- A first character at which no occurrence starts is skipped. -/
theorem contains_cons_of_not_prefix (h : ¬ d <+: c :: u) :
    contains (c :: u) d = contains u d := by
  rw [contains, contains, dropInfix?_cons_of_not_prefix h, Option.isSome_map]

/-- The search goes on where `d` does not start. -/
theorem substringAfter_cons_of_not_prefix (h : ¬ d <+: c :: u) (hu : contains u d = true) :
    substringAfter (c :: u) d = substringAfter u d := by
  rw [contains, Option.isSome_iff_exists] at hu
  obtain ⟨pt, hpt⟩ := hu
  rw [substringAfter, substringAfter, dropInfix?_cons_of_not_prefix h, hpt]
  rfl

/-- A character that the delimiter lacks separates the two halves of the search. -/
theorem contains_append_cons (hd : d ≠ []) (hc : c ∉ d) (u v : Text) :
    contains (u ++ c :: v) d = (contains u d || contains v d) := by
  rw [contains, contains, contains, dropInfix?_append_cons_of_not_mem hd hc]
  cases u.dropInfix? d <;> cases v.dropInfix? d <;> rfl

/-- With a `d` in the first part, the rest does not matter. -/
theorem substringBefore_append_cons_of_contains (hd : d ≠ []) (hc : c ∉ d)
    (hu : contains u d = true) (v : Text) :
    substringBefore (u ++ c :: v) d = substringBefore u d := by
  rw [contains, Option.isSome_iff_exists] at hu
  obtain ⟨⟨p, t⟩, hpt⟩ := hu
  rw [substringBefore, substringBefore, dropInfix?_append_cons_of_not_mem hd hc, hpt]

/-- Without one, the search goes on behind a character that `d` does not have. -/
theorem substringBefore_append_cons_of_not_contains (hd : d ≠ []) (hc : c ∉ d)
    (hu : contains u d = false) (v : Text) :
    substringBefore (u ++ c :: v) d = u ++ c :: substringBefore v d := by
  rw [contains, Option.isSome_eq_false_iff, Option.isNone_iff_eq_none] at hu
  rw [substringBefore, substringBefore, dropInfix?_append_cons_of_not_mem hd hc, hu]
  cases v.dropInfix? d <;> rfl

/-- With a `d` in the first part, the rest stays behind it. -/
theorem substringAfter_append_cons_of_contains (hd : d ≠ []) (hc : c ∉ d)
    (hu : contains u d = true) (v : Text) :
    substringAfter (u ++ c :: v) d = substringAfter u d ++ c :: v := by
  rw [contains, Option.isSome_iff_exists] at hu
  obtain ⟨⟨p, t⟩, hpt⟩ := hu
  rw [substringAfter, substringAfter, dropInfix?_append_cons_of_not_mem hd hc, hpt]

/-- Without one, what comes after `d` is found in the rest. -/
theorem substringAfter_append_cons_of_not_contains (hd : d ≠ []) (hc : c ∉ d)
    (hu : contains u d = false) {v : Text} (hv : contains v d = true) :
    substringAfter (u ++ c :: v) d = substringAfter v d := by
  rw [contains, Option.isSome_eq_false_iff, Option.isNone_iff_eq_none] at hu
  rw [contains, Option.isSome_iff_exists] at hv
  obtain ⟨⟨p, t⟩, hpt⟩ := hv
  rw [substringAfter, substringAfter, dropInfix?_append_cons_of_not_mem hd hc, hu, hpt]
  rfl

/-- A text is read back from before a delimiter character exactly when it lacks it. -/
theorem substringBefore_append_singleton_eq_iff :
    substringBefore (u ++ c :: v) [c] = u ↔ c ∉ u := by
  constructor
  · intro h
    rw [← h]
    exact not_mem_substringBefore_singleton _ c
  · intro h
    exact substringBefore_append_delimiter rfl h v

end Assembled

/-! ### Trimming -/

/-- `Char.isWhitespace`. -/
def isWhitespace (c : Char) : Bool :=
  let n := c.toNat
  (9 ≤ n && n ≤ 13) || (28 ≤ n && n ≤ 32) || n == 0xA0 || n == 0x1680 ||
    (0x2000 ≤ n && n ≤ 0x200A) || n == 0x2028 || n == 0x2029 || n == 0x202F || n == 0x205F ||
    n == 0x3000

/-- `CharSequence.isBlank`. -/
def isBlank (s : Text) : Bool :=
  s.all isWhitespace

/-- `String.length`, in UTF-16 code units. -/
def utf16Length (s : Text) : ℕ :=
  s.length + s.countP fun c => 0x10000 ≤ c.toNat

/-- `String.trim`. -/
def trim (s : Text) : Text :=
  (s.dropWhile isWhitespace).rdropWhile isWhitespace

/-- Neither the first nor the last character is white space. -/
def Trimmed (s : Text) : Prop :=
  (∀ c ∈ s.head?, isWhitespace c = false) ∧ ∀ c ∈ s.getLast?, isWhitespace c = false

/-- A text is trimmed if its ends are no blanks. -/
instance (s : Text) : Decidable (Trimmed s) :=
  decidable_of_iff
    (s.head?.all (!isWhitespace ·) = true ∧ s.getLast?.all (!isWhitespace ·) = true)
    (by simp only [Trimmed, Option.all_eq_true, Bool.not_eq_true', Option.mem_def])

/-- Trimming a trimmed text changes nothing. -/
theorem trim_of_trimmed {s : Text} (h : Trimmed s) : trim s = s := by
  have hleft : s.dropWhile isWhitespace = s := by
    cases s with
    | nil => rfl
    | cons c s => exact List.dropWhile_cons_of_neg (by rw [h.1 c rfl]; exact Bool.false_ne_true)
  rw [trim, hleft, List.rdropWhile_eq_self_iff]
  intro hne
  rw [h.2 _ (List.getLast?_eq_some_getLast hne)]
  exact Bool.false_ne_true

/-- A digit is no blank. -/
theorem isWhitespace_of_isDigit {c : Char} (h : c.isDigit = true) : isWhitespace c = false := by
  have hc : 48 ≤ c.toNat ∧ c.toNat ≤ 57 := by
    simpa [Char.isDigit, UInt32.le_iff_toNat_le] using h
  simp only [isWhitespace, Bool.or_eq_false_iff, Bool.and_eq_false_iff, decide_eq_false_iff_not,
    beq_eq_false_iff_ne]
  omega

/-- A text without white space is trimmed. -/
theorem trimmed_of_forall {s : Text} (h : ∀ c ∈ s, isWhitespace c = false) : Trimmed s :=
  ⟨fun c hc => h c (List.mem_of_mem_head? hc), fun c hc => h c (List.mem_of_mem_getLast? hc)⟩

/-- The ends of a text made of two nonempty parts. -/
theorem trimmed_append {u v : Text} (hu : Trimmed u) (hune : u ≠ []) (hv : Trimmed v)
    (hvne : v ≠ []) (m : Text) : Trimmed (u ++ (m ++ v)) := by
  obtain ⟨c, u, rfl⟩ := List.exists_cons_of_ne_nil hune
  refine ⟨hu.1, ?_⟩
  rw [List.getLast?_append_of_ne_nil _ (by simp [hvne]), List.getLast?_append_of_ne_nil _ hvne]
  exact hv.2

/-- Nonempty lines without outer white space make such a text. -/
theorem trimmed_intercalate {sep l : Text} {ls : List Text}
    (h : ∀ l' ∈ l :: ls, Trimmed l' ∧ l' ≠ []) :
    Trimmed (sep.intercalate (l :: ls)) ∧ sep.intercalate (l :: ls) ≠ [] := by
  induction ls generalizing l with
  | nil =>
      rw [List.intercalate_singleton]
      exact h l List.mem_cons_self
  | cons l₂ ls ih =>
      obtain ⟨hl, hne⟩ := h l List.mem_cons_self
      obtain ⟨htrim, hrest⟩ := ih fun l' hl' => h l' (List.mem_cons_of_mem l hl')
      rw [List.intercalate_cons_cons, List.append_assoc]
      exact ⟨trimmed_append hl hne htrim hrest sep, by simp [hne]⟩

/-- `String.replace` of a character that does not occur. -/
theorem map_replace_of_not_mem {s : Text} {c d : Char} (h : c ∉ s) :
    (s.map fun x => if x = c then d else x) = s := by
  conv_rhs => rw [← List.map_id s]
  apply List.map_congr_left
  intro x hx
  refine if_neg ?_
  rintro rfl
  exact h hx

/-! ### Splitting and surrounding -/

/-- The pieces of a split do not have the separator. -/
theorem not_mem_of_mem_splitOn {s piece : Text} {c : Char} (h : piece ∈ s.splitOn c) :
    c ∉ piece := by
  induction s generalizing piece with
  | nil =>
      rw [List.splitOn_nil, List.mem_singleton] at h
      rw [h]
      exact List.not_mem_nil
  | cons d s ih =>
      rw [List.splitOn_cons_eq_if_modifyHead] at h
      split at h
      next =>
        rcases List.mem_cons.mp h with rfl | h
        · exact List.not_mem_nil
        · exact ih h
      next hne =>
        obtain ⟨p, ps, hps⟩ := List.exists_cons_of_ne_nil (List.splitOn_ne_nil c s)
        rw [hps, List.modifyHead_cons] at h
        rw [hps] at ih
        rcases List.mem_cons.mp h with rfl | h
        · rw [List.mem_cons, not_or]
          refine ⟨?_, ih List.mem_cons_self⟩
          rintro rfl
          exact hne BEq.rfl
        · exact ih (List.mem_cons_of_mem p h)

/-- `String.removeSurrounding`. -/
def removeSurrounding (s delimiter : Text) : Text :=
  if 2 * delimiter.length ≤ s.length ∧ delimiter <+: s ∧ delimiter <:+ s then
    (s.drop delimiter.length).take (s.length - 2 * delimiter.length)
  else s

end Kotlin
