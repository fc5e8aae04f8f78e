import SpendCraft.AddForms
import SpendCraft.Lib.Binary64
import Mathlib.Tactic.Linarith

/-!
# Typing an Amount on iOS

The field of the amount formats its text anew after every keystroke: what is shown is parsed,
read as a `Double`, and written again with its digits in groups. A separator at the end has no
decimals behind it yet, and is gone when the decimals are typed.

The field runs until its text does not change any more. An amount starts from an empty field.

## Conventions

The field has two variables, the text that is shown and the text that is bound to the form
(`FieldState`). A change of the shown text formats it, which may change it again, so `onChange`
runs for as long as it does; `SettlesOn` says that once is enough. Characters are typed at the
end. Numbers are `Double`s: a text is read as the nearest one, and written with two decimals at
most by a formatter that rounds half to even. The separators are those of the currency.

## Proof

A text without decimals is its groups of digits, and reading it gives the whole number as long as
it is a `Double` (`KeepsDigits`). The typed characters are followed one by one, from the end of
the text: a digit behind a whole number gives a whole number, and a separator changes nothing,
since the text is written without it. So the decimals end up behind the whole part, and the amount
survives just if it has none, as far as its digits fit a `Double`.

## Main results

* `parts_append`: a separator at the end of a text makes no difference.
* `typed_toDigits`: typing a whole number.
* `typed_append_digits`: digits that are typed after a whole number belong to it.
* `typed_decimals`: what typing decimals ends with.
* `yieldsAmount_iff`: when typing an amount yields that amount.
-/

namespace SpendCraft

open Kotlin Binary64

namespace Ios

namespace CurrencyTextField

/-! ### The field -/

/-- `decimalSeparator`: the lira is written with a comma. -/
def decimalSeparator (currency : Text) : Char :=
  if currency = "TRY".toList then ',' else '.'

/-- `groupingSeparator`: the mark that the decimal separator is not. -/
def groupingSeparator (currency : Text) : Char :=
  if currency = "TRY".toList then '.' else ','

/-- A mark before every three digits; the digits are in reverse. -/
def groupedReversed (mark : Char) : Text → Text
  | a :: b :: c :: d :: rest => a :: b :: c :: mark :: groupedReversed mark (d :: rest)
  | digits => digits

/-- A text of digits in groups of three, counted from its end. -/
def grouped (mark : Char) (digits : Text) : Text :=
  (groupedReversed mark digits.reverse).reverse

/-- At most two decimals, without zeros at the end. -/
def decimals (separator : Char) (hundredths : ℕ) : Text :=
  if hundredths % 100 = 0 then []
  else if hundredths % 10 = 0 then separator :: Nat.toDigits 10 (hundredths % 100 / 10)
  else separator :: padStart (Nat.toDigits 10 (hundredths % 100)) 2 '0'

/-- `NumberFormatter.string`, for a number style with at most two decimals. -/
def string (currency : Text) : Value → Text
  | .finite x =>
      let hundredths := (roundHalfEven (x * 100)).toNat
      grouped (groupingSeparator currency) (Nat.toDigits 10 (hundredths / 100)) ++
        decimals (decimalSeparator currency) hundredths
  | .infinity => "∞".toList

/-- `formatNumber`: the number is read as a `Double` and written grouped; a text that is no number
stays as it is. -/
def formatNumber (currency number : Text) : Text :=
  match doubleOrNil number with
  | none => number
  | some doubleValue => string currency (nearest (decimalValue doubleValue))

/-- The part before the separator, with its digits only. -/
def integerPart (currency input : Text) : Text :=
  (((cleanedAmount input).dropWhile (· == decimalSeparator currency)).takeWhile
    (· != decimalSeparator currency)).filter fun c => c != '.' && c != ','

/-- The two variables of the field: the text shown and the text bound to the form. -/
structure FieldState where
  displayValue : Text
  value : Text
  deriving DecidableEq, Repr

namespace FieldState

/-- The field as the form opens. -/
def empty : FieldState :=
  { displayValue := []
    value := [] }

/-- What `formatInput` writes to the field. -/
def formatted (currency input : Text) : FieldState :=
  { displayValue :=
      if (integerPart currency input).isEmpty then []
      else formatNumber currency (formatInput currency input)
    value := formatInput currency input }

/-- `onChange` is called with the new text as long as the text changes. -/
def onChange (currency : Text) : ℕ → Text → Option FieldState
  | 0, _ => none
  | turns + 1, newValue =>
      let field := formatted currency newValue
      if field.displayValue = newValue then some field
      else onChange currency turns field.displayValue

/-- Characters are appended to the text that is shown. -/
def typed (currency : Text) (turns : ℕ) (text : Text) : Option FieldState :=
  text.foldlM (fun field c => onChange currency turns (field.displayValue ++ [c])) empty

end FieldState

/-- An amount as it is typed, with all of its decimals. -/
def decimalText (currency : Text) (amount : Decimal) : Text :=
  Nat.toDigits 10 (amount.unscaled / 10 ^ amount.scale) ++
    if amount.scale = 0 then []
    else decimalSeparator currency ::
      padStart (Nat.toDigits 10 (amount.unscaled % 10 ^ amount.scale)) amount.scale '0'

/-- After every keystroke of the text, the field is formatted just once. -/
def SettlesOn (currency text : Text) : Prop :=
  ∀ before c, before ++ [c] <+: text → ∀ turns field,
    FieldState.typed currency turns before = some field →
      FieldState.formatted currency
          (FieldState.formatted currency (field.displayValue ++ [c])).displayValue =
        FieldState.formatted currency (field.displayValue ++ [c])

/-- **Typing the amount yields the amount.** -/
structure YieldsAmount (currency : Text) (amount : Decimal) : Prop where
  settles : SettlesOn currency (decimalText currency amount)
  ends : ∃ turns field,
    FieldState.typed currency turns (decimalText currency amount) = some field ∧
      (doubleOrNil field.value).map decimalValue = some (decimalValue amount)

/-- Every number on the way to a whole number is a `Double`. -/
def KeepsDigits (n : ℕ) : Prop :=
  ∀ k, nearest ((n / 10 ^ k : ℕ) : ℚ) = .finite ((n / 10 ^ k : ℕ) : ℚ)

/-! ### Groups of digits -/

section Grouped

variable {mark c : Char} {digits : Text}

/-- Grouping adds no character but the mark. -/
theorem mem_groupedReversed (h : c ∈ groupedReversed mark digits) : c ∈ digits ∨ c = mark := by
  fun_induction groupedReversed mark digits with
  | case1 a b c' d rest ih =>
      simp only [List.mem_cons] at h ih ⊢
      tauto
  | case2 digits => exact .inl h

/-- A grouped number consists of digits and the mark. -/
theorem digitsAnd_grouped (h : DigitsAnd [mark] digits) :
    DigitsAnd [mark] (grouped mark digits) := by
  intro c hc
  rw [grouped, List.mem_reverse] at hc
  obtain hc | rfl := mem_groupedReversed hc
  · exact h c (List.mem_reverse.mp hc)
  · exact .inr List.mem_cons_self

/-- Without the marks, a grouped number is the number. -/
theorem filter_groupedReversed (hmark : mark.isDigit = false)
    (h : ∀ c ∈ digits, c.isDigit = true) :
    (groupedReversed mark digits).filter Char.isDigit = digits := by
  fun_induction groupedReversed mark digits with
  | case1 a b c d rest ih =>
      simp only [List.forall_mem_cons] at h ih
      obtain ⟨ha, hb, hc, hd, hrest⟩ := h
      simp [ha, hb, hc, hmark, ih ⟨hd, hrest⟩]
  | case2 digits => exact List.filter_eq_self.mpr h

/-- The marks are not digits. -/
theorem filter_grouped (hmark : mark.isDigit = false) (h : ∀ c ∈ digits, c.isDigit = true) :
    (grouped mark digits).filter Char.isDigit = digits := by
  rw [grouped, List.filter_reverse, filter_groupedReversed hmark, List.reverse_reverse]
  intro c hc
  exact h c (List.mem_reverse.mp hc)

end Grouped

/-! ### Texts without decimals -/

variable {currency : Text}

/-- The two pairs of separators. -/
theorem separators_cases (currency : Text) :
    decimalSeparator currency = ',' ∧ groupingSeparator currency = '.' ∨
      decimalSeparator currency = '.' ∧ groupingSeparator currency = ',' := by
  rw [decimalSeparator, groupingSeparator]
  split_ifs
  · exact .inl ⟨rfl, rfl⟩
  · exact .inr ⟨rfl, rfl⟩

/-- The decimal separator is a comma or a point. -/
theorem decimalSeparator_cases (currency : Text) :
    decimalSeparator currency = ',' ∨ decimalSeparator currency = '.' :=
  (separators_cases currency).imp And.left And.left

/-- The grouping separator is a comma or a point. -/
theorem groupingSeparator_cases (currency : Text) :
    groupingSeparator currency = ',' ∨ groupingSeparator currency = '.' :=
  (separators_cases currency).symm.imp And.right And.right

/-- A separator is no digit. -/
theorem isDigit_groupingSeparator (currency : Text) :
    (groupingSeparator currency).isDigit = false := by
  obtain ⟨-, h⟩ | ⟨-, h⟩ := separators_cases currency <;> rw [h] <;> rfl

/-- A grouped whole number has no decimal separator. -/
theorem decimalSeparator_notMem {t : Text} (h : DigitsAnd [groupingSeparator currency] t) :
    decimalSeparator currency ∉ t := by
  apply h.not_mem
  obtain ⟨hdecimal, hgrouping⟩ | ⟨hdecimal, hgrouping⟩ := separators_cases currency <;>
    rw [hdecimal, hgrouping] <;> decide

/-- The same for each character, as `split` asks for it. -/
theorem bne_decimalSeparator {t : Text} (h : decimalSeparator currency ∉ t) :
    ∀ c ∈ t, (c != decimalSeparator currency) = true := by
  intro c hc
  rw [bne_iff_ne]
  rintro rfl
  exact h hc

/-- A grouped number has only characters that are not cleaned away. -/
theorem kept_of_digitsAnd {t : Text} (h : DigitsAnd [groupingSeparator currency] t) :
    ∀ c ∈ t, c.isDigit = true ∨ c = ',' ∨ c = '.' := by
  intro c hc
  obtain hdigit | hmark := h c hc
  · exact .inl hdigit
  · rw [List.mem_singleton] at hmark
    rw [hmark]
    exact .inr (groupingSeparator_cases currency)

/-- A text of digits and separators passes the filter of the field unchanged. -/
theorem cleanedAmount_eq_self {t : Text}
    (h : ∀ c ∈ t, c.isDigit = true ∨ c = ',' ∨ c = '.') : cleanedAmount t = t := by
  rw [cleanedAmount, List.filter_eq_self]
  intro c hc
  obtain hdigit | rfl | rfl := h c hc
  · simp [hdigit]
  · rfl
  · rfl

/-- Dropping both separators from a grouped whole number leaves its digits. -/
theorem filter_eq_filter_isDigit {t : Text} (h : DigitsAnd [groupingSeparator currency] t) :
    (t.filter fun c => c != '.' && c != ',') = t.filter Char.isDigit := by
  apply List.filter_congr
  intro c hc
  obtain hdigit | hmark := h c hc
  · rw [hdigit, Bool.and_eq_true, bne_iff_ne, bne_iff_ne]
    refine ⟨?_, ?_⟩ <;> rintro rfl <;> cases hdigit
  · rw [List.mem_singleton] at hmark
    obtain ⟨-, hgrouping⟩ | ⟨-, hgrouping⟩ := separators_cases currency <;>
      rw [hmark, hgrouping] <;> rfl

section Tail

variable {t tail : Text} (htail : tail = [] ∨ tail = [decimalSeparator currency])

include htail

/-- The filter of the field keeps a grouped whole number with one separator at its end. -/
theorem cleanedAmount_append (h : DigitsAnd [groupingSeparator currency] t) :
    cleanedAmount (t ++ tail) = t ++ tail := by
  apply cleanedAmount_eq_self
  rw [List.forall_mem_append]
  refine ⟨kept_of_digitsAnd h, ?_⟩
  obtain rfl | rfl := htail
  · exact fun c hc => absurd hc List.not_mem_nil
  · rw [List.forall_mem_singleton]
    exact .inr (decimalSeparator_cases currency)

/-- The text is the part before the separator, and there is nothing behind it. -/
theorem split_append (hseparator : decimalSeparator currency ∉ t) :
    ((t ++ tail).dropWhile (· == decimalSeparator currency)).takeWhile
        (· != decimalSeparator currency) = t ∧
      (((t ++ tail).dropWhile (· == decimalSeparator currency)).dropWhile
        (· != decimalSeparator currency)).drop 1 = [] := by
  have hpos := bne_decimalSeparator hseparator
  cases t with
  | nil => obtain rfl | rfl := htail <;> simp
  | cons c t =>
      have hdrop : (c :: t ++ tail).dropWhile (· == decimalSeparator currency) =
          c :: t ++ tail :=
        List.dropWhile_cons_of_neg (by simpa using hpos c List.mem_cons_self)
      rw [hdrop, List.takeWhile_append_of_pos hpos, List.dropWhile_append_of_pos hpos]
      obtain rfl | rfl := htail <;> simp

/-- A separator at the end makes no difference. -/
theorem parts_append (h : DigitsAnd [groupingSeparator currency] t) :
    integerPart currency (t ++ tail) = t.filter Char.isDigit ∧
      formatInput currency (t ++ tail) = t.filter Char.isDigit := by
  have hclean := cleanedAmount_append htail h
  obtain ⟨hbefore, hbehind⟩ := split_append htail (decimalSeparator_notMem h)
  have hinteger : integerPart currency (t ++ tail) = t.filter Char.isDigit := by
    rw [integerPart, hclean, hbefore, filter_eq_filter_isDigit h]
  refine ⟨hinteger, ?_⟩
  calc formatInput currency (t ++ tail) =
        rawAmount (integerPart currency (t ++ tail))
          (((((cleanedAmount (t ++ tail)).dropWhile (· == decimalSeparator currency)).dropWhile
            (· != decimalSeparator currency)).drop 1).take 2) := rfl
    _ = rawAmount (t.filter Char.isDigit) [] := by
        rw [hinteger, hclean, hbehind]
        rfl
    _ = t.filter Char.isDigit := rfl

end Tail

/-- The field that shows a whole number. -/
def shown (currency : Text) (n : ℕ) : FieldState :=
  { displayValue := grouped (groupingSeparator currency) (Nat.toDigits 10 n)
    value := Nat.toDigits 10 n }

variable {n : ℕ} {w : Text}

/-- A text of digits is formatted as the number it denotes. -/
theorem formatNumber_digits (hdigits : ∀ c ∈ w, c.isDigit = true) (hne : w ≠ []) :
    formatNumber currency w = string currency (nearest (Nat.ofDigitChars 10 w 0 : ℕ)) := by
  have hnotMem : ∀ c, c.isDigit = false → c ∉ w := by
    intro c hc hmem
    rw [hdigits c hmem] at hc
    cases hc
  have hdouble : doubleOrNil w = some { unscaled := Nat.ofDigitChars 10 w 0, scale := 0 } := by
    rw [doubleOrNil, if_neg (hnotMem ',' rfl), decimalOrNull_whole (hnotMem '.' rfl) hne]
  rw [formatNumber, hdouble]
  simp only [decimalValue, pow_zero, div_one]

/-- A whole `Double` is written as its grouped digits. -/
theorem string_natCast : string currency (.finite (n : ℚ)) = (shown currency n).displayValue := by
  have hround : roundHalfEven ((n : ℚ) * 100) = ((n * 100 : ℕ) : ℤ) := by
    rw [← roundHalfEven_intCast (n * 100 : ℕ)]
    push_cast
    rfl
  rw [string, hround, Int.toNat_natCast, Nat.mul_div_cancel n (by decide), decimals,
    if_pos (Nat.mul_mod_left n 100), List.append_nil, shown]

/-- What is shown for a whole number is grouped digits. -/
theorem digitsAnd_shown (n : ℕ) :
    DigitsAnd [groupingSeparator currency] (shown currency n).displayValue :=
  digitsAnd_grouped (digitsAnd_toDigits _ n)

/-- The digits of what is shown are those of the number. -/
theorem filter_shown (n : ℕ) :
    (shown currency n).displayValue.filter Char.isDigit = Nat.toDigits 10 n :=
  filter_grouped (isDigit_groupingSeparator currency) fun _ => isDigit_of_mem_toDigits

/-- The handler of the field at a grouped whole number, with or without a separator typed after
it: the digits are formatted, and the separator is dropped. -/
theorem formatted_of_filter {t tail : Text} (h : DigitsAnd [groupingSeparator currency] t)
    (htail : tail = [] ∨ tail = [decimalSeparator currency])
    (hfilter : t.filter Char.isDigit = w) (hne : w ≠ []) :
    FieldState.formatted currency (t ++ tail) =
      { displayValue := formatNumber currency w
        value := w } := by
  obtain ⟨hinteger, hvalue⟩ := parts_append htail h
  rw [FieldState.formatted, hinteger, hvalue, hfilter, if_neg (by rwa [List.isEmpty_iff])]

/-- A number that is shown is formatted as it is. -/
theorem formatted_shown {tail : Text} (htail : tail = [] ∨ tail = [decimalSeparator currency])
    (hn : nearest (n : ℚ) = .finite n) :
    FieldState.formatted currency ((shown currency n).displayValue ++ tail) = shown currency n := by
  rw [formatted_of_filter (digitsAnd_shown n) htail (filter_shown n) Nat.toDigits_ne_nil,
    formatNumber_digits (fun _ => isDigit_of_mem_toDigits) Nat.toDigits_ne_nil,
    Nat.ofDigitChars_ten_toDigits, hn, string_natCast]
  rfl

/-- **A value that is stable** is a whole number as it is written, and a `Double`. -/
theorem eq_shown_of_stable (hdigits : ∀ c ∈ w, c.isDigit = true) (hne : w ≠ [])
    (hstable : (FieldState.formatted currency (formatNumber currency w)).value = w) :
    ∃ n : ℕ, w = Nat.toDigits 10 n ∧ nearest (n : ℚ) = .finite n := by
  rw [formatNumber_digits hdigits hne] at hstable
  obtain ⟨m, hm⟩ := exists_rounded_natCast (Nat.ofDigitChars 10 w 0)
  have hnearest : nearest (Nat.ofDigitChars 10 w 0 : ℕ) = .finite m ∨
      nearest (Nat.ofDigitChars 10 w 0 : ℕ) = .infinity := by
    rw [nearest, hm]
    split_ifs
    · exact .inl rfl
    · exact .inr rfl
  obtain hfinite | hinfinity := hnearest
  · rw [hfinite, string_natCast] at hstable
    have hvalue := (@parts_append currency _ [] (.inl rfl) (digitsAnd_shown m)).2
    rw [List.append_nil, filter_shown] at hvalue
    have hw : Nat.toDigits 10 m = w := hvalue.symm.trans hstable
    rw [← hw, Nat.ofDigitChars_ten_toDigits] at hfinite
    exact ⟨m, hw.symm, hfinite⟩
  · rw [hinfinity] at hstable
    exact absurd hstable.symm hne

/-! ### Keystrokes -/

namespace FieldState

variable {turns turns' : ℕ} {text : Text} {field field' : FieldState} {c : Char}

/-- Typing one more character is one more change of the field. -/
theorem typed_append_singleton :
    typed currency turns (text ++ [c]) =
      (typed currency turns text).bind fun field =>
        onChange currency turns (field.displayValue ++ [c]) := by
  rw [typed, List.foldlM_append]
  simp only [List.foldlM_cons, List.foldlM_nil, bind_pure]
  rfl

/-- More turns lead to the same field. -/
theorem onChange_mono (hle : turns ≤ turns') {newValue : Text}
    (h : onChange currency turns newValue = some field) :
    onChange currency turns' newValue = some field := by
  induction turns generalizing turns' newValue with
  | zero => cases h
  | succ turns ih =>
      obtain ⟨more, rfl⟩ : ∃ more, turns' = more + 1 := ⟨turns' - 1, by omega⟩
      rw [onChange] at h ⊢
      split_ifs at h ⊢ with hsame
      · exact h
      · exact ih (by omega) h

/-- More turns of the handler than needed do not change the result. -/
theorem typed_mono (hle : turns ≤ turns') (h : typed currency turns text = some field) :
    typed currency turns' text = some field := by
  induction text using List.reverseRecOn generalizing field with
  | nil => exact h
  | append_singleton text c ih =>
      rw [typed_append_singleton, Option.bind_eq_some_iff] at h ⊢
      obtain ⟨before, hbefore, hchange⟩ := h
      exact ⟨before, ih hbefore, onChange_mono hle hchange⟩

/-- The number of turns does not matter once the field settles. -/
theorem typed_unique (h : typed currency turns text = some field)
    (h' : typed currency turns' text = some field') : field = field' := by
  have hmax := typed_mono (le_max_left turns turns') h
  rw [typed_mono (le_max_right turns turns') h'] at hmax
  exact (Option.some.inj hmax).symm

/-- Two turns are enough where formatting twice is formatting once. -/
theorem typed_two_append (htyped : typed currency 2 text = some field)
    (hsettled : formatted currency (formatted currency (field.displayValue ++ [c])).displayValue =
      formatted currency (field.displayValue ++ [c])) :
    typed currency 2 (text ++ [c]) = some (formatted currency (field.displayValue ++ [c])) := by
  rw [typed_append_singleton, htyped, Option.bind_some, onChange]
  split_ifs
  · rfl
  · rw [onChange, hsettled, if_pos rfl]

end FieldState

open FieldState

/-- A single digit is less than ten. -/
theorem ofDigitChars_singleton_lt {c : Char} (hc : c.isDigit = true) :
    Nat.ofDigitChars 10 [c] 0 < 10 := by
  have hle : c.toNat ≤ 57 := (Char.isDigit_iff_toNat.mp hc).2
  rw [Nat.ofDigitChars_cons, Nat.ofDigitChars_nil]
  have hzero : '0'.toNat = 48 := rfl
  omega

/-- The character of a digit is a digit. -/
theorem isDigit_digitChar {d : ℕ} (hd : d < 10) : d.digitChar.isDigit = true := by
  rw [Char.isDigit_iff_toNat, Nat.toNat_digitChar_of_lt_ten hd]
  have hzero : '0'.toNat = 48 := rfl
  have hnine : '9'.toNat = 57 := rfl
  omega

/-- One more digit after the digits of a number is a text of digits. -/
theorem digits_append_digit (n : ℕ) {c : Char} (hc : c.isDigit = true) :
    ∀ c' ∈ Nat.toDigits 10 n ++ [c], c'.isDigit = true := by
  rw [List.forall_mem_append, List.forall_mem_singleton]
  exact ⟨fun _ => isDigit_of_mem_toDigits, hc⟩

/-- A digit behind a whole number. -/
theorem formatted_append_digit {c : Char} (hc : c.isDigit = true) :
    formatted currency ((shown currency n).displayValue ++ [c]) =
      { displayValue := formatNumber currency (Nat.toDigits 10 n ++ [c])
        value := Nat.toDigits 10 n ++ [c] } := by
  have hmarks : DigitsAnd [groupingSeparator currency]
      ((shown currency n).displayValue ++ [c]) := by
    rw [digitsAnd_append_iff]
    refine ⟨digitsAnd_shown n, ?_⟩
    rw [DigitsAnd, List.forall_mem_singleton]
    exact .inl hc
  have hfilter : ((shown currency n).displayValue ++ [c]).filter Char.isDigit =
      Nat.toDigits 10 n ++ [c] := by
    rw [List.filter_append, filter_shown, List.filter_eq_self.mpr]
    simpa using hc
  have hformatted := formatted_of_filter hmarks (.inl rfl) hfilter (by simp)
  rwa [List.append_nil] at hformatted

/-- **Digits behind a whole number** belong to it, if each of them settles. -/
theorem typed_append_digits {whole text digits : Text} (hsettles : SettlesOn currency whole)
    (hinit : text ++ digits <+: whole) (hdigits : ∀ c ∈ digits, c.isDigit = true)
    (htyped : typed currency 2 text = some (shown currency n)) :
    (digits ≠ [] → 0 < n) ∧
      typed currency 2 (text ++ digits) =
        some (shown currency (Nat.ofDigitChars 10 digits n)) := by
  induction digits generalizing text n with
  | nil => simpa using htyped
  | cons c digits ih =>
      rw [List.forall_mem_cons] at hdigits
      obtain ⟨hc, hdigits⟩ := hdigits
      rw [← List.singleton_append, ← List.append_assoc] at hinit
      have hsettled := hsettles text c ((List.prefix_append _ digits).trans hinit) 2 _ htyped
      have htyped' := typed_two_append htyped hsettled
      rw [formatted_append_digit hc] at hsettled htyped'
      obtain ⟨m, hm, hdouble⟩ := eq_shown_of_stable
        (digits_append_digit n hc) (by simp) (congrArg FieldState.value hsettled)
      have hvalue : m = Nat.ofDigitChars 10 [c] n := by
        rw [← @Nat.ofDigitChars_ten_toDigits m, ← hm, Nat.ofDigitChars_append,
          Nat.ofDigitChars_ten_toDigits]
      have hpos : 0 < n := by
        obtain rfl | hpos := n.eq_zero_or_pos
        · have hlt : m < 10 := hvalue.trans_lt (ofDigitChars_singleton_lt hc)
          rw [Nat.toDigits_of_lt_base hlt, Nat.toDigits_zero] at hm
          exact absurd (congrArg List.length hm) (Nat.succ_ne_self 1)
        · exact hpos
      have hshown : typed currency 2 (text ++ [c]) = some (shown currency m) := by
        rw [htyped', hm, formatNumber_digits (fun _ => isDigit_of_mem_toDigits)
          Nat.toDigits_ne_nil, Nat.ofDigitChars_ten_toDigits, hdouble, string_natCast]
        rfl
      obtain ⟨-, hrest⟩ := ih hinit hdigits hshown
      refine ⟨fun _ => hpos, ?_⟩
      rw [List.append_assoc, List.singleton_append] at hrest
      rw [hrest, hvalue]
      rfl

/-! ### Whole numbers -/

/-- Every number below `2 ^ 53` keeps its digits. -/
theorem keepsDigits_of_lt (h : n < 2 ^ 53) : KeepsDigits n := by
  intro k
  have hlt : n / 10 ^ k < 2 ^ 53 := (Nat.div_le_self n _).trans_lt h
  rw [nearest, rounded_natCast hlt, if_pos]
  have hbound : ((n / 10 ^ k : ℕ) : ℚ) < 2 ^ 53 := by exact_mod_cast hlt
  calc ((n / 10 ^ k : ℕ) : ℚ) < 2 ^ 53 := hbound
    _ ≤ 2 ^ 1024 := by gcongr <;> norm_num

/-- **Recursion of the condition:** the number itself must be a `Double`, and so must every number
on the way to it. -/
theorem keepsDigits_iff :
    KeepsDigits n ↔ nearest (n : ℚ) = .finite n ∧ KeepsDigits (n / 10) := by
  constructor
  · intro h
    refine ⟨by simpa using h 0, fun k => ?_⟩
    rw [Nat.div_div_eq_div_mul, ← pow_succ']
    exact h (k + 1)
  · rintro ⟨hn, hrest⟩ k
    cases k with
    | zero => simpa using hn
    | succ k =>
        rw [pow_succ', ← Nat.div_div_eq_div_mul]
        exact hrest k

/-- Nothing typed leaves the field empty, and it has settled. -/
theorem settlesOn_nil : SettlesOn currency [] := by
  intro before c hinit
  exact absurd (List.prefix_nil.mp hinit) (by simp)

/-- One more keystroke that settles. -/
theorem SettlesOn.append_singleton {text : Text} {c : Char} {field : FieldState}
    (h : SettlesOn currency text) (htyped : typed currency 2 text = some field)
    (hsettled : formatted currency (formatted currency (field.displayValue ++ [c])).displayValue =
      formatted currency (field.displayValue ++ [c])) :
    SettlesOn currency (text ++ [c]) ∧
      typed currency 2 (text ++ [c]) = some (formatted currency (field.displayValue ++ [c])) := by
  refine ⟨?_, typed_two_append htyped hsettled⟩
  intro before c' hinit turns field' htyped'
  obtain heq | hinit := List.prefix_concat_iff.mp hinit
  · obtain ⟨rfl, hc⟩ := List.append_inj' heq rfl
    obtain rfl := List.singleton_inj.mp hc
    obtain rfl := typed_unique htyped htyped'
    exact hsettled
  · exact h before c' hinit turns field' htyped'

/-- The digits of a number that is a `Double` are shown as that number. -/
theorem formatNumber_toDigits (hn : nearest (n : ℚ) = .finite n) :
    { displayValue := formatNumber currency (Nat.toDigits 10 n)
      value := Nat.toDigits 10 n } = shown currency n := by
  rw [formatNumber_digits (fun _ => isDigit_of_mem_toDigits) Nat.toDigits_ne_nil,
    Nat.ofDigitChars_ten_toDigits, hn, string_natCast]
  rfl

/-- What is shown is a fixed point of the handler. -/
theorem formatted_shown_self (hn : nearest (n : ℚ) = .finite n) :
    formatted currency (shown currency n).displayValue = shown currency n := by
  have hself := @formatted_shown currency n [] (.inl rfl) hn
  rwa [List.append_nil] at hself

/-- The first digit, in the empty field. -/
theorem formatted_digit (h : n < 10) :
    formatted currency (FieldState.empty.displayValue ++ [n.digitChar]) = shown currency n := by
  have hn := (keepsDigits_iff.mp (keepsDigits_of_lt (h.trans (by norm_num)))).1
  have hdisplay : (shown currency n).displayValue = [n.digitChar] := by
    rw [shown, Nat.toDigits_of_lt_base h]
    rfl
  rw [← @formatted_shown_self currency n hn, hdisplay]
  rfl

/-- The last digit, behind the others. -/
theorem formatted_last_digit (h : 10 ≤ n) :
    formatted currency ((shown currency (n / 10)).displayValue ++ [(n % 10).digitChar]) =
      { displayValue := formatNumber currency (Nat.toDigits 10 n)
        value := Nat.toDigits 10 n } := by
  rw [formatted_append_digit (isDigit_digitChar (Nat.mod_lt n (by decide))),
    ← Nat.toDigits_of_base_le (by decide) h]

/-- **Typing a whole number** whose digits are kept. -/
theorem typed_toDigits (h : KeepsDigits n) :
    SettlesOn currency (Nat.toDigits 10 n) ∧
      typed currency 2 (Nat.toDigits 10 n) = some (shown currency n) := by
  have hself := @formatted_shown_self currency n (keepsDigits_iff.mp h).1
  induction n using Nat.strongRecOn with
  | ind n ih =>
      obtain hlt | hle := lt_or_ge n 10
      · have hdigit := @formatted_digit currency n hlt
        have hnext := @SettlesOn.append_singleton currency [] n.digitChar _ settlesOn_nil rfl
          (by rw [hdigit, hself])
        rwa [hdigit, List.nil_append, ← Nat.toDigits_of_lt_base hlt] at hnext
      · obtain ⟨hn, hkeeps⟩ := keepsDigits_iff.mp h
        have hprevious := @formatted_shown_self currency _ (keepsDigits_iff.mp hkeeps).1
        obtain ⟨hsettles, htyped⟩ := ih (n / 10) (by omega) hkeeps hprevious
        have hdigit := (@formatted_last_digit currency n hle).trans (formatNumber_toDigits hn)
        have hnext := hsettles.append_singleton htyped (by rw [hdigit, hself])
        rwa [hdigit, ← Nat.toDigits_of_base_le (by decide) hle] at hnext

/-- The digits of a whole number settle only where they are kept. -/
theorem keepsDigits_of_settlesOn {whole : Text} (hsettles : SettlesOn currency whole)
    (hinit : Nat.toDigits 10 n <+: whole) :
    KeepsDigits n ∧ typed currency 2 (Nat.toDigits 10 n) = some (shown currency n) := by
  induction n using Nat.strongRecOn with
  | ind n ih =>
      obtain hlt | hle := lt_or_ge n 10
      · have hkeeps := @keepsDigits_of_lt n (by omega)
        exact ⟨hkeeps, (typed_toDigits hkeeps).2⟩
      · have hsplit := @Nat.toDigits_of_base_le 10 n (by decide) hle
        have hshorter : Nat.toDigits 10 (n / 10) <+: Nat.toDigits 10 n := by
          rw [hsplit]
          exact List.prefix_append _ _
        obtain ⟨hkeeps, htyped⟩ := ih (n / 10) (by omega) (hshorter.trans hinit)
        have hsettled := hsettles _ _ (hsplit ▸ hinit) 2 _ htyped
        rw [formatted_last_digit hle] at hsettled
        obtain ⟨m, hm, hdouble⟩ := eq_shown_of_stable (fun _ => isDigit_of_mem_toDigits)
          Nat.toDigits_ne_nil (congrArg FieldState.value hsettled)
        obtain rfl : n = m := by
          rw [← @Nat.ofDigitChars_ten_toDigits n, hm, Nat.ofDigitChars_ten_toDigits]
        have hall := keepsDigits_iff.mpr ⟨hdouble, hkeeps⟩
        exact ⟨hall, (typed_toDigits hall).2⟩

/-! ### Amounts -/

/-- The digits of a number read as that number, with no decimals. -/
theorem doubleOrNil_toDigits (n : ℕ) :
    doubleOrNil (Nat.toDigits 10 n) = some { unscaled := n, scale := 0 } := by
  have hnotMem : ∀ c, c.isDigit = false → c ∉ Nat.toDigits 10 n := by
    intro c hc hmem
    rw [isDigit_of_mem_toDigits hmem] at hc
    cases hc
  rw [doubleOrNil, if_neg (hnotMem ',' rfl),
    decimalOrNull_whole (hnotMem '.' rfl) Nat.toDigits_ne_nil, Nat.ofDigitChars_ten_toDigits]

/-- **Decimals** lose their separator: the field ends with all of the digits. -/
theorem typed_decimals {amount : Decimal} (hscale : 0 < amount.scale)
    (hsettles : SettlesOn currency (decimalText currency amount)) :
    0 < amount.unscaled ∧
      typed currency 2 (decimalText currency amount) = some (shown currency amount.unscaled) := by
  generalize hwhole : amount.unscaled / 10 ^ amount.scale = n
  generalize hdigits : padStart (Nat.toDigits 10 (amount.unscaled % 10 ^ amount.scale))
    amount.scale '0' = digits
  have hlt : amount.unscaled % 10 ^ amount.scale < 10 ^ amount.scale :=
    Nat.mod_lt _ (by positivity)
  have htext : decimalText currency amount =
      Nat.toDigits 10 n ++ [decimalSeparator currency] ++ digits := by
    rw [decimalText, if_neg hscale.ne', hwhole, hdigits, List.append_assoc]
    rfl
  have hvalue : Nat.ofDigitChars 10 digits n = amount.unscaled := by
    have happend := ofDigitChars_append_padStart (Nat.toDigits 10 n) hscale hlt
    rw [hdigits, Nat.ofDigitChars_append, Nat.ofDigitChars_ten_toDigits, ← hwhole,
      Nat.div_add_mod] at happend
    rwa [← hwhole]
  have hne : digits ≠ [] := by
    rw [← List.length_pos_iff, ← hdigits, length_padStart_toDigits hscale hlt]
    exact hscale
  rw [htext] at hsettles ⊢
  -- the separator alone changes nothing
  obtain ⟨hkeeps, htyped⟩ := keepsDigits_of_settlesOn hsettles
    ((List.prefix_append _ _).trans (List.prefix_append _ digits))
  have hsettled := hsettles _ _ (List.prefix_append _ digits) 2 _ htyped
  have hseparator := typed_two_append htyped hsettled
  rw [formatted_shown (.inr rfl) (keepsDigits_iff.mp hkeeps).1] at hseparator
  have hall_digits : ∀ c ∈ digits, c.isDigit = true := by
    rw [← hdigits]
    exact fun _ => isDigit_of_mem_padStart
  obtain ⟨hpos, hall⟩ := typed_append_digits hsettles List.prefix_rfl hall_digits hseparator
  rw [hvalue] at hall
  exact ⟨(hpos hne).trans_le (hwhole ▸ Nat.div_le_self _ _), hall⟩

/-- A whole amount is typed as its digits. -/
theorem decimalText_whole (currency : Text) {amount : Decimal} (hscale : amount.scale = 0) :
    decimalText currency amount = Nat.toDigits 10 amount.unscaled := by
  rw [decimalText, hscale, pow_zero, Nat.div_one, if_pos rfl, List.append_nil]

/-- An amount with decimals becomes a larger one. -/
theorem not_yieldsAmount_of_scale_pos {amount : Decimal} (hscale : 0 < amount.scale) :
    ¬ YieldsAmount currency amount := by
  rintro ⟨hsettles, turns, field, htyped, hvalue⟩
  obtain ⟨hpos, hall⟩ := typed_decimals hscale hsettles
  obtain rfl := typed_unique hall htyped
  rw [shown, doubleOrNil_toDigits, Option.map_some, Option.some_inj, decimalValue, decimalValue,
    pow_zero, div_one, eq_div_iff (by positivity)] at hvalue
  have hone : amount.unscaled * 10 ^ amount.scale = amount.unscaled := by exact_mod_cast hvalue
  have hlt : 1 < 10 ^ amount.scale := Nat.one_lt_pow hscale.ne' (by decide)
  have hgrow := Nat.mul_lt_mul_of_pos_left hlt hpos
  omega

/-- **When typing an amount yields the amount**: no decimals are typed, and every number on
the way is a `Double`. -/
theorem yieldsAmount_iff (currency : Text) (amount : Decimal) :
    YieldsAmount currency amount ↔ amount.scale = 0 ∧ KeepsDigits amount.unscaled := by
  constructor
  · intro h
    have hscale : amount.scale = 0 := by
      by_contra hscale
      exact not_yieldsAmount_of_scale_pos (Nat.pos_of_ne_zero hscale) h
    have htext := decimalText_whole currency hscale
    exact ⟨hscale, (keepsDigits_of_settlesOn h.settles (htext ▸ List.prefix_rfl)).1⟩
  · rintro ⟨hscale, hkeeps⟩
    have htext := decimalText_whole currency hscale
    obtain ⟨hsettles, htyped⟩ := @typed_toDigits currency _ hkeeps
    rw [← htext] at hsettles htyped
    refine ⟨hsettles, 2, _, htyped, ?_⟩
    rw [shown, doubleOrNil_toDigits, ← hscale]
    rfl

/-- The separator is lost on the way: typing 12,5 leaves 125 in the field. -/
theorem typed_twelve_and_a_half :
    typed "TRY".toList 2 "12,5".toList = some (shown "TRY".toList 125) := by
  have hwhole := @typed_toDigits "TRY".toList 12 (keepsDigits_of_lt (by norm_num))
  have htwelve := (keepsDigits_iff.mp (@keepsDigits_of_lt 12 (by norm_num))).1
  have hseparator := @formatted_shown "TRY".toList 12 [','] (.inr rfl) htwelve
  have htyped := typed_two_append hwhole.2
    (by rw [hseparator, formatted_shown_self htwelve])
  rw [hseparator] at htyped
  have hall := (keepsDigits_iff.mp (@keepsDigits_of_lt 125 (by norm_num))).1
  have hdigit := (@formatted_append_digit "TRY".toList 12 '5' rfl).trans
    (formatNumber_toDigits hall)
  have hlast := typed_two_append htyped (by rw [hdigit, formatted_shown_self hall])
  rwa [hdigit] at hlast

/-- In lira, typing 12,5 ends with 125. -/
theorem not_yieldsAmount_lira :
    (typed "TRY".toList 2 "12,5".toList).map FieldState.value = some "125".toList ∧
      ¬ YieldsAmount "TRY".toList { unscaled := 125, scale := 1 } := by
  refine ⟨?_, not_yieldsAmount_of_scale_pos (by decide)⟩
  rw [typed_twelve_and_a_half]
  rfl

end CurrencyTextField

end Ios

end SpendCraft
