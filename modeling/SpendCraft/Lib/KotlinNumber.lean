import SpendCraft.Lib.KotlinText
import Mathlib.Data.Nat.Basic
import Mathlib.Data.Int.Basic
import Mathlib.Algebra.Group.Nat.Defs
import Mathlib.Algebra.Group.Int.Defs

/-!
# Kotlin Numbers as Text

`toString` of the integer types and `String.toIntOrNull`. Parsing follows the Kotlin
standard library on the JVM: an optional sign, then at least one decimal digit of any
script (`Character.digit`), and a value in the 32-bit range.

## Conventions

Numbers are integers of any size; whether a parsed value fits the type of the program is part of
the parser, not of the number. The decimal digits of other scripts are those of `digitZeros`, the
code points of the zeros of their blocks. A parsed decimal keeps its digits and its scale
(`Decimal`) before anything is rounded, so that what rounding does to it is somebody else's
business. `toDoubleOrNull` is only followed on texts of digits and points; the grammar of exponents
and hexadecimal numbers is left out.

## Main results

* `toIntOrNull_intText`, `toLongOrNull_intText`: a number that fits is read back from its text.
* `toIntOrNull_eq_none`: a text with a character that is neither a digit nor a sign is no number.
* `digitsAnd_intText`, `DigitsAnd.mono`: the characters of printed numbers.
* `decimalOrNull_whole`, `decimalOrNull_append`: the decimal that a text of digits stands for.

## Proof

Printing is `Nat.toDigits`, whose characters are digits, and the parser folds over the characters
with a value that is multiplied by ten. `ofDigitChars_append_padStart` splits such a fold at a
place of the text, which is how padded and joined numbers are read. The set `DigitsAnd` is closed
under joining texts, so that what no printed number contains is known piece by piece.
-/

namespace Kotlin

/-! ### Printing -/

/-- `Int.toString` and `Long.toString`. -/
def intText (n : ℤ) : Text :=
  if n < 0 then '-' :: Nat.toDigits 10 n.natAbs else Nat.toDigits 10 n.natAbs

/-- `String.padStart`. -/
def padStart (s : Text) (length : ℕ) (padChar : Char) : Text :=
  s.leftpad length padChar

/-- Decimal digits are digits. -/
theorem isDigit_of_mem_toDigits {n : ℕ} {c : Char} (h : c ∈ Nat.toDigits 10 n) :
    c.isDigit = true :=
  Nat.isDigit_of_mem_toDigits (by decide) (by decide) h

/-- Padding adds no character but the pad. -/
theorem mem_padStart {s : Text} {length : ℕ} {padChar c : Char}
    (h : c ∈ padStart s length padChar) : c ∈ s ∨ c = padChar := by
  rw [padStart, List.leftpad, List.mem_append, List.mem_replicate] at h
  rcases h with ⟨-, rfl⟩ | h
  · exact Or.inr rfl
  · exact Or.inl h

/-- A decimal padded with zeros to a width it fits has exactly that width. -/
theorem length_padStart_toDigits {n k : ℕ} (hk : 0 < k) (h : n < 10 ^ k) :
    (padStart (Nat.toDigits 10 n) k '0').length = k := by
  have hle : (Nat.toDigits 10 n).length ≤ k := (Nat.length_toDigits_le_iff (by decide) hk).mpr h
  rw [padStart, List.leftpad, List.length_append, List.length_replicate]
  omega

/-- Digits padded with zeros are digits. -/
theorem isDigit_of_mem_padStart {n k : ℕ} {c : Char}
    (h : c ∈ padStart (Nat.toDigits 10 n) k '0') : c.isDigit = true := by
  rcases mem_padStart h with h | rfl
  · exact isDigit_of_mem_toDigits h
  · rfl

/-- The text consists of digits and of these marks. -/
def DigitsAnd (marks s : Text) : Prop :=
  ∀ c ∈ s, c.isDigit = true ∨ c ∈ marks

/-- A text of digits and marks, part by part. -/
theorem digitsAnd_append_iff {marks s t : Text} :
    DigitsAnd marks (s ++ t) ↔ DigitsAnd marks s ∧ DigitsAnd marks t :=
  List.forall_mem_append

/-- Marks alone are digits and marks. -/
theorem digitsAnd_of_subset {marks s : Text} (h : s ⊆ marks) : DigitsAnd marks s :=
  fun _ hc => Or.inr (h hc)

/-- The digits of a number. -/
theorem digitsAnd_toDigits (marks : Text) (n : ℕ) : DigitsAnd marks (Nat.toDigits 10 n) :=
  fun _ hc => Or.inl (isDigit_of_mem_toDigits hc)

/-- The digits of a number, padded with zeros. -/
theorem digitsAnd_padStart (marks : Text) (n k : ℕ) :
    DigitsAnd marks (padStart (Nat.toDigits 10 n) k '0') :=
  fun _ hc => Or.inl (isDigit_of_mem_padStart hc)

/-- Printed integers consist of digits and the minus sign. -/
theorem digitsAnd_intText {marks : Text} (hminus : '-' ∈ marks) (n : ℤ) :
    DigitsAnd marks (intText n) := by
  rw [intText]
  split
  next =>
    rw [DigitsAnd, List.forall_mem_cons]
    exact ⟨Or.inr hminus, digitsAnd_toDigits marks n.natAbs⟩
  next => exact digitsAnd_toDigits marks n.natAbs

/-- A number that is not negative is written without a sign. -/
theorem digitsAnd_intText_of_nonneg (marks : Text) {n : ℤ} (h : 0 ≤ n) :
    DigitsAnd marks (intText n) := by
  rw [intText, if_neg (by omega)]
  exact digitsAnd_toDigits marks n.natAbs

/-- More marks may be allowed. -/
theorem DigitsAnd.mono {marks marks' s : Text} (h : DigitsAnd marks s) (hsub : marks ⊆ marks') :
    DigitsAnd marks' s :=
  fun c hc => (h c hc).imp_right (@hsub c)

/-- A character that is neither a digit nor a mark does not occur. -/
theorem DigitsAnd.not_mem {marks s : Text} (h : DigitsAnd marks s) {c : Char}
    (hc : c.isDigit = false ∧ c ∉ marks) : c ∉ s := by
  intro hmem
  rcases h c hmem with hdigit | hmark
  · rw [hc.1] at hdigit
    cases hdigit
  · exact hc.2 hmark

/-- Without its marks, such a text consists of digits. -/
theorem DigitsAnd.isDigit {marks s : Text} (h : DigitsAnd marks s)
    (hmarks : ∀ c ∈ marks, c ∉ s) : ∀ c ∈ s, c.isDigit = true :=
  fun c hc => (h c hc).resolve_right fun hmark => hmarks c hmark hc

/-- Without blanks among the marks, there is nothing to trim. -/
theorem DigitsAnd.trimmed {marks s : Text} (h : DigitsAnd marks s)
    (hmarks : marks.any isWhitespace = false) : Trimmed s := by
  apply trimmed_of_forall
  intro c hc
  rcases h c hc with hdigit | hmark
  · exact isWhitespace_of_isDigit hdigit
  · rw [List.any_eq_false] at hmarks
    exact Bool.eq_false_iff.mpr (hmarks c hmark)

/-- Padding with zeros keeps the value. -/
theorem ofDigitChars_padStart (n k : ℕ) :
    Nat.ofDigitChars 10 (padStart (Nat.toDigits 10 n) k '0') 0 = n := by
  rw [padStart, List.leftpad, Nat.ofDigitChars_append, Nat.ofDigitChars_replicate_zero,
    Nat.mul_zero, Nat.ofDigitChars_ten_toDigits]

/-- The digits of a numeral behind other digits. -/
theorem ofDigitChars_append_padStart (ds : Text) {n k : ℕ} (hk : 0 < k) (h : n < 10 ^ k) :
    Nat.ofDigitChars 10 (ds ++ padStart (Nat.toDigits 10 n) k '0') 0 =
      10 ^ k * Nat.ofDigitChars 10 ds 0 + n := by
  rw [Nat.ofDigitChars_append, Nat.ofDigitChars_eq_ofDigitChars_zero, ofDigitChars_padStart,
    length_padStart_toDigits hk h]

/-! ### Parsing -/

/-- The zeros of the decimal digits of the Basic Multilingual Plane: each script has its
ten digits in a row. -/
def digitZeros : List ℕ :=
  [0x0030, 0x0660, 0x06F0, 0x07C0, 0x0966, 0x09E6, 0x0A66, 0x0AE6, 0x0B66, 0x0BE6, 0x0C66,
    0x0CE6, 0x0D66, 0x0DE6, 0x0E50, 0x0ED0, 0x0F20, 0x1040, 0x1090, 0x17E0, 0x1810, 0x1946,
    0x19D0, 0x1A80, 0x1A90, 0x1B50, 0x1BB0, 0x1C40, 0x1C50, 0xA620, 0xA8D0, 0xA900, 0xA9D0,
    0xA9F0, 0xAA50, 0xABF0, 0xFF10]

/-- `Character.digit(char, 10)`. -/
def digitOf (c : Char) : Option ℕ :=
  (digitZeros.find? fun d => d ≤ c.toNat && c.toNat < d + 10).map (c.toNat - ·)

/-- The value of a sequence of digits. -/
def digitsValue (cs : Text) : Option ℕ :=
  cs.foldlM (fun n c => (digitOf c).map (10 * n + ·)) 0

/-- An optional sign and a nonempty sequence of digits. A first character below `'0'` can
only be a sign. -/
def signedValue : Text → Option ℤ
  | [] => none
  | c :: cs =>
      if c < '0' then
        if cs.isEmpty then none
        else if c = '-' then (digitsValue cs).map fun n : ℕ => -(n : ℤ)
        else if c = '+' then (digitsValue cs).map fun n : ℕ => (n : ℤ)
        else none
      else (digitsValue (c :: cs)).map fun n : ℕ => (n : ℤ)

/-- `String.toIntOrNull`. -/
def toIntOrNull (s : Text) : Option ℤ :=
  (signedValue s).filter fun n => -2 ^ 31 ≤ n && n < 2 ^ 31

/-- The value of a digit. -/
theorem digitOf_of_isDigit {c : Char} (h : c.isDigit = true) :
    digitOf c = some (c.toNat - '0'.toNat) := by
  have hc : 48 ≤ c.toNat ∧ c.toNat ≤ 57 := by
    simpa [Char.isDigit, UInt32.le_iff_toNat_le] using h
  have hlt : c.toNat < 58 := by omega
  simp [digitOf, digitZeros, hc.1, hlt]

/-- Reading digits from the left gives the number they write. -/
theorem foldlM_digitOf {cs : Text} (h : ∀ c ∈ cs, c.isDigit = true) (n : ℕ) :
    cs.foldlM (fun n c => (digitOf c).map (10 * n + ·)) n =
      some (Nat.ofDigitChars 10 cs n) := by
  induction cs generalizing n with
  | nil => rfl
  | cons c cs ih =>
      rw [List.foldlM_cons, digitOf_of_isDigit (h c List.mem_cons_self), Option.map_some,
        Option.bind_eq_bind, Option.bind_some, ih (fun d hd => h d (List.mem_cons_of_mem c hd))]
      rfl

/-- A number is read from its digits. -/
theorem digitsValue_toDigits (n : ℕ) : digitsValue (Nat.toDigits 10 n) = some n := by
  rw [digitsValue, foldlM_digitOf fun _ => isDigit_of_mem_toDigits,
    Nat.ofDigitChars_ten_toDigits]

/-- A character that is not a digit spoils a sequence of digits. -/
theorem digitsValue_eq_none {cs : Text} {c : Char} (hmem : c ∈ cs) (hc : digitOf c = none) :
    digitsValue cs = none := by
  suffices h : ∀ n, cs.foldlM (fun n c => (digitOf c).map (10 * n + ·)) n = none from h 0
  induction cs with
  | nil => cases hmem
  | cons d cs ih =>
      intro n
      rw [List.foldlM_cons]
      rcases List.mem_cons.mp hmem with rfl | hmem
      · rw [hc]
        rfl
      · cases hd : digitOf d with
        | none => rfl
        | some k => exact ih hmem _

/-- An integer is read from its text, sign and all. -/
theorem signedValue_intText (n : ℤ) : signedValue (intText n) = some n := by
  rw [intText]
  split
  next hneg =>
    have hne : (Nat.toDigits 10 n.natAbs).isEmpty = false := by
      simp [Nat.toDigits_ne_nil]
    rw [signedValue, if_pos (by decide), hne, if_neg (by decide), if_pos rfl,
      digitsValue_toDigits, Option.map_some]
    congr 1
    omega
  next hnonneg =>
    have hval := digitsValue_toDigits n.natAbs
    have hdigit : ∀ c ∈ Nat.toDigits 10 n.natAbs, c.isDigit = true :=
      fun _ => isDigit_of_mem_toDigits
    have hne : Nat.toDigits 10 n.natAbs ≠ [] := Nat.toDigits_ne_nil
    revert hval hdigit hne
    cases Nat.toDigits 10 n.natAbs with
    | nil => exact fun _ _ hne => absurd rfl hne
    | cons c cs =>
        intro hval hdigit _
        have hc : ¬ c < '0' := by
          have h := hdigit c List.mem_cons_self
          rw [Char.lt_def]
          simp only [Char.isDigit, Bool.and_eq_true, decide_eq_true_eq, ge_iff_le] at h
          exact UInt32.not_lt.mpr h.1
        rw [signedValue, if_neg hc, hval, Option.map_some]
        congr 1
        omega

/-- Different integers have different texts. -/
theorem intText_injective : Function.Injective intText := by
  intro n n' h
  have hvalue := congrArg signedValue h
  rwa [signedValue_intText, signedValue_intText, Option.some_inj] at hvalue

/-- Printing and parsing an integer: it has to fit into 32 bits. -/
theorem toIntOrNull_intText (n : ℤ) :
    toIntOrNull (intText n) = if -2 ^ 31 ≤ n ∧ n < 2 ^ 31 then some n else none := by
  rw [toIntOrNull, signedValue_intText, Option.filter_some]
  simp only [Bool.and_eq_true, decide_eq_true_eq]

/-- `String.toLongOrNull`. -/
def toLongOrNull (s : Text) : Option ℤ :=
  (signedValue s).filter fun n => -2 ^ 63 ≤ n && n < 2 ^ 63

/-- `toLongOrNull` reads the text of an integer exactly if it fits a `Long`. -/
theorem toLongOrNull_intText (n : ℤ) :
    toLongOrNull (intText n) = if -2 ^ 63 ≤ n ∧ n < 2 ^ 63 then some n else none := by
  rw [toLongOrNull, signedValue_intText, Option.filter_some]
  simp only [Bool.and_eq_true, decide_eq_true_eq]

/-- A digit of any script is none of the characters before the digits of ASCII. -/
theorem lt_ten_of_digitOf {c : Char} {d : ℕ} (h : digitOf c = some d) : d < 10 ∧ ¬ c < '0' := by
  obtain ⟨first, hfind, rfl⟩ := Option.map_eq_some_iff.mp h
  have hrange := List.find?_some hfind
  rw [Bool.and_eq_true, decide_eq_true_iff, decide_eq_true_iff] at hrange
  have hzeros : ∀ first ∈ digitZeros, 48 ≤ first := by decide
  have hzero := hzeros first (List.mem_of_find?_eq_some hfind)
  refine ⟨by omega, ?_⟩
  rw [Char.lt_def, UInt32.not_lt, UInt32.le_iff_toNat_le]
  exact hzero.trans hrange.1

/-- A sequence of digits has a value, which its length bounds. -/
theorem exists_digitsValue {cs : Text} (h : ∀ c ∈ cs, (digitOf c).isSome = true) :
    ∃ n, digitsValue cs = some n ∧ n < 10 ^ cs.length := by
  suffices hfold : ∀ m, ∃ n, cs.foldlM (fun n c => (digitOf c).map (10 * n + ·)) m = some n ∧
      n < (m + 1) * 10 ^ cs.length by
    obtain ⟨n, hn, hlt⟩ := hfold 0
    rw [zero_add, one_mul] at hlt
    exact ⟨n, hn, hlt⟩
  induction cs with
  | nil =>
      intro m
      refine ⟨m, rfl, ?_⟩
      rw [List.length_nil, pow_zero, mul_one]
      exact Nat.lt_succ_self m
  | cons c cs ih =>
      rw [List.forall_mem_cons] at h
      obtain ⟨hc, hcs⟩ := h
      obtain ⟨d, hd⟩ := Option.isSome_iff_exists.mp hc
      obtain ⟨hten, -⟩ := lt_ten_of_digitOf hd
      intro m
      obtain ⟨n, hn, hlt⟩ := ih hcs (10 * m + d)
      refine ⟨n, ?_, hlt.trans_le ?_⟩
      · rw [List.foldlM_cons, hd]
        exact hn
      · calc (10 * m + d + 1) * 10 ^ cs.length ≤ (m + 1) * 10 * 10 ^ cs.length :=
              Nat.mul_le_mul_right _ (by omega)
          _ = (m + 1) * 10 ^ (c :: cs).length := by
              rw [List.length_cons, pow_succ, mul_assoc, mul_comm 10]

/-- A text of digits is an integer, if it fits. -/
theorem toLongOrNull_of_digitsValue {s : Text} {n : ℕ} (hne : s ≠ [])
    (h : ∀ c ∈ s, (digitOf c).isSome = true) (hn : digitsValue s = some n) (hlt : n < 2 ^ 63) :
    toLongOrNull s = some (n : ℤ) := by
  obtain ⟨c, cs, rfl⟩ := List.exists_cons_of_ne_nil hne
  obtain ⟨d, hd⟩ := Option.isSome_iff_exists.mp (h c List.mem_cons_self)
  obtain ⟨-, hc⟩ := lt_ten_of_digitOf hd
  rw [toLongOrNull, signedValue, if_neg hc, hn, Option.map_some, Option.filter_some, if_pos]
  rw [Bool.and_eq_true, decide_eq_true_iff, decide_eq_true_iff]
  omega

/-- A text with a character that is neither a digit nor a sign is not an integer. -/
theorem toIntOrNull_eq_none {s : Text} {c : Char} (hmem : c ∈ s) (hc : digitOf c = none)
    (hminus : c ≠ '-') (hplus : c ≠ '+') : toIntOrNull s = none := by
  have hval : signedValue s = none := by
    cases s with
    | nil => cases hmem
    | cons d cs =>
        rw [signedValue, digitsValue_eq_none hmem hc, Option.map_none]
        by_cases hd : d < '0'
        · rw [if_pos hd]
          split_ifs with _ hm hp
          · rfl
          · rcases List.mem_cons.mp hmem with rfl | hcs
            · exact absurd hm hminus
            · rw [digitsValue_eq_none hcs hc, Option.map_none]
          · rcases List.mem_cons.mp hmem with rfl | hcs
            · exact absurd hp hplus
            · rw [digitsValue_eq_none hcs hc, Option.map_none]
          · rfl
        · rw [if_neg hd]
  rw [toIntOrNull, hval]
  rfl

/-! ### Decimals -/

/-- The decimal number `unscaled / 10 ^ scale`. -/
structure Decimal where
  unscaled : ℕ
  scale : ℕ
  deriving DecidableEq, Repr

/-- The value that `String.toDoubleOrNull` rounds, for a text of digits and points: at
most one point, and at least one digit. -/
def decimalOrNull (s : Text) : Option Decimal :=
  match s.splitOn '.' with
  | [whole] =>
      if whole.isEmpty then none
      else some { unscaled := Nat.ofDigitChars 10 whole 0, scale := 0 }
  | [whole, fraction] =>
      if (whole ++ fraction).isEmpty then none
      else
        some
          { unscaled := Nat.ofDigitChars 10 (whole ++ fraction) 0
            scale := fraction.length }
  | _ => none

/-- A numeral without a point. -/
theorem decimalOrNull_whole {whole : Text} (hwhole : '.' ∉ whole) (hne : whole ≠ []) :
    decimalOrNull whole =
      some { unscaled := Nat.ofDigitChars 10 whole 0, scale := 0 } := by
  have hnonempty : whole.isEmpty = false := by
    simp [hne]
  simp only [decimalOrNull, List.splitOn_eq_singleton hwhole, hnonempty, Bool.false_eq_true,
    if_false]

/-- A numeral with one point. -/
theorem decimalOrNull_append {whole fraction : Text} (hwhole : '.' ∉ whole)
    (hfraction : '.' ∉ fraction) (hne : whole ++ fraction ≠ []) :
    decimalOrNull (whole ++ '.' :: fraction) =
      some
        { unscaled := Nat.ofDigitChars 10 (whole ++ fraction) 0
          scale := fraction.length } := by
  have hsplit : (whole ++ '.' :: fraction).splitOn '.' = [whole, fraction] := by
    rw [List.splitOn_append_cons_self_of_not_mem hwhole, List.splitOn_eq_singleton hfraction]
  have hnonempty : (whole ++ fraction).isEmpty = false := by
    rw [← Bool.not_eq_true, List.isEmpty_iff]
    exact hne
  simp only [decimalOrNull, hsplit, hnonempty, Bool.false_eq_true, if_false]

/-- Everything behind the first point are decimals. -/
theorem scale_of_decimalOrNull {whole fraction : Text} {amount : Decimal} (hwhole : '.' ∉ whole)
    (h : decimalOrNull (whole ++ '.' :: fraction) = some amount) :
    amount.scale = fraction.length := by
  have hsplit : (whole ++ '.' :: fraction).splitOn '.' = whole :: fraction.splitOn '.' :=
    List.splitOn_append_cons_self_of_not_mem hwhole fraction
  have hjoin := @List.intercalate_splitOn _ fraction _ _ '.'
  unfold decimalOrNull at h
  rw [hsplit] at h
  split at h
  next heq => exact absurd (List.cons.inj heq).2 (List.splitOn_ne_nil _ _)
  next whole' fraction' heq =>
    rw [(List.cons.inj heq).2, List.intercalate_singleton] at hjoin
    split at h
    next => cases h
    next =>
      cases h
      rw [hjoin]
  next => cases h

/-- Only these two are numerals. -/
theorem decimalOrNull_isSome {s : Text} (h : (decimalOrNull s).isSome = true) :
    ∃ whole fraction, (s = whole ∧ fraction = [] ∨ s = whole ++ '.' :: fraction) ∧
      '.' ∉ whole ++ fraction ∧ whole ++ fraction ≠ [] := by
  have hjoin := @List.intercalate_splitOn _ s _ _ '.'
  have hnotMem : ∀ piece ∈ s.splitOn '.', '.' ∉ piece := fun _ => not_mem_of_mem_splitOn
  unfold decimalOrNull at h
  split at h
  next whole hsplit =>
    rw [hsplit] at hjoin hnotMem
    split at h
    next => cases h
    next hne =>
      rw [List.isEmpty_iff] at hne
      refine ⟨whole, [], Or.inl ⟨?_, rfl⟩, ?_, ?_⟩
      · rw [← hjoin, List.intercalate_singleton]
      · rw [List.append_nil]
        exact hnotMem whole (by simp)
      · rw [List.append_nil]
        exact hne
  next whole fraction hsplit =>
    rw [hsplit] at hjoin hnotMem
    split at h
    next => cases h
    next hne =>
      rw [List.isEmpty_iff] at hne
      refine ⟨whole, fraction, Or.inr ?_, ?_, hne⟩
      · rw [← hjoin]
        simp [List.intercalate]
      · rw [List.mem_append, not_or]
        exact ⟨hnotMem whole (by simp), hnotMem fraction (by simp)⟩
  next => cases h

end Kotlin
