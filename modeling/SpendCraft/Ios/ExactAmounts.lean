import SpendCraft.Ios.CurrencyField

/-!
# Amounts in the Field, Exactly

Where amounts are read and written exactly, the field shows an amount of whole minor units with
its digits in groups and its decimals without zeros at the end. What is shown is read as the same
amount again, and shown in the same way.

## Conventions

An amount is a number of minor units, and its text is the digits of the whole part with up to two
decimals, without zeros at the end. `exactFormatNumber` is the formatter of `CurrencyField`
without the `Double` in between; the module `CurrencyField` treats the one with it.

## Proof

The text is taken apart at its separator, and the digits of either part are read back by the
lemmas of `Lib.KotlinNumber` on padded numbers. Grouping the digits is undone by filtering them.
So what is shown is a fixed point of reading and writing.

## Relation to other modules

The forms for a stored transaction (`EditForm`) and the field of the Android app use these lemmas,
where the question is what the form does and not what a `Double` does.

## Main results

* `display_eq`: what is shown, as a text.
* `decimalOrNull_rawText`: its amount.
* `exactFormatted_display`: formatting what is shown changes nothing.
-/

namespace SpendCraft

open Kotlin Binary64

/-- An amount in minor units, as a number. -/
def inUnits (hundredths : ℕ) : ℚ :=
  hundredths / 100

/-- The decimals of an amount, without zeros at the end. -/
def decimalDigits (hundredths : ℕ) : Text :=
  if hundredths % 100 = 0 then []
  else if hundredths % 10 = 0 then Nat.toDigits 10 (hundredths % 100 / 10)
  else padStart (Nat.toDigits 10 (hundredths % 100)) 2 '0'

/-- The text that stands for an amount outside of the field. -/
def rawText (hundredths : ℕ) : Text :=
  rawAmount (Nat.toDigits 10 (hundredths / 100)) (decimalDigits hundredths)

/-! ### The text of an amount -/

section RawText

variable {hundredths : ℕ}

/-- The decimals are digits. -/
theorem isDigit_decimalDigits {c : Char} (hc : c ∈ decimalDigits hundredths) :
    c.isDigit = true := by
  rw [decimalDigits] at hc
  split_ifs at hc
  · cases hc
  · exact isDigit_of_mem_toDigits hc
  · exact isDigit_of_mem_padStart hc

/-- There are at most two of them. -/
theorem length_decimalDigits : (decimalDigits hundredths).length ≤ 2 := by
  rw [decimalDigits]
  split_ifs
  · exact Nat.zero_le 2
  · rw [Nat.toDigits_of_lt_base (by omega)]
    exact Nat.le_succ 1
  · exact (length_padStart_toDigits (by decide) (by omega)).le

/-- There is none exactly if the amount is whole. -/
theorem decimalDigits_eq_nil_iff : decimalDigits hundredths = [] ↔ hundredths % 100 = 0 := by
  rw [decimalDigits]
  split_ifs with hzero hten
  · exact iff_of_true rfl hzero
  · exact iff_of_false Nat.toDigits_ne_nil hzero
  · refine iff_of_false (List.ne_nil_of_length_pos ?_) hzero
    rw [length_padStart_toDigits (by decide) (by omega)]
    decide

/-- The raw text of an amount is digits and a point. -/
theorem digitsAnd_rawText : DigitsAnd ['.'] (rawText hundredths) := by
  rw [rawText, rawAmount]
  split_ifs
  · exact digitsAnd_toDigits _ _
  · rw [digitsAnd_append_iff, DigitsAnd, DigitsAnd, List.forall_mem_cons]
    exact ⟨digitsAnd_toDigits _ _, .inr List.mem_cons_self, fun c hc =>
      .inl (isDigit_decimalDigits hc)⟩

/-- Digits have no point. -/
theorem point_notMem {digits : Text} (h : ∀ c ∈ digits, c.isDigit = true) : '.' ∉ digits := by
  intro hmem
  cases h '.' hmem

/-- **The amount of the text.** -/
theorem decimalOrNull_rawText (hundredths : ℕ) :
    (decimalOrNull (rawText hundredths)).map decimalValue = some (inUnits hundredths) := by
  have hwhole : '.' ∉ Nat.toDigits 10 (hundredths / 100) :=
    point_notMem fun _ => isDigit_of_mem_toDigits
  have hdecimals : '.' ∉ decimalDigits hundredths := point_notMem fun _ => isDigit_decimalDigits
  have hsplit : hundredths = 100 * (hundredths / 100) + hundredths % 100 := by omega
  rw [rawText, rawAmount]
  split_ifs with hempty
  · rw [decimalOrNull_whole hwhole Nat.toDigits_ne_nil, Nat.ofDigitChars_ten_toDigits,
      Option.map_some, decimalValue, inUnits, pow_zero, div_one, Option.some_inj,
      eq_div_iff (by norm_num)]
    have hzero : hundredths % 100 = 0 := decimalDigits_eq_nil_iff.mp (List.isEmpty_iff.mp hempty)
    exact_mod_cast (by omega : hundredths / 100 * 100 = hundredths)
  · rw [decimalOrNull_append hwhole hdecimals (by simp [Nat.toDigits_ne_nil]), Option.map_some,
      decimalValue, inUnits, Option.some_inj]
    rw [decimalDigits] at hempty ⊢
    split_ifs at hempty ⊢ with hzero hten
    · cases hempty rfl
    · -- one digit
      have hlt : hundredths % 100 / 10 < 10 ^ 1 := by omega
      have hpad : Nat.toDigits 10 (hundredths % 100 / 10) =
          padStart (Nat.toDigits 10 (hundredths % 100 / 10)) 1 '0' := by
        rw [Nat.toDigits_of_lt_base (by omega)]
        rfl
      rw [hpad, ofDigitChars_append_padStart _ (by decide) hlt, length_padStart_toDigits
        (by decide) hlt, Nat.ofDigitChars_ten_toDigits, div_eq_div_iff (by norm_num) (by norm_num)]
      exact_mod_cast (by omega :
        (10 ^ 1 * (hundredths / 100) + hundredths % 100 / 10) * 100 = hundredths * 10 ^ 1)
    · have hlt : hundredths % 100 < 10 ^ 2 := by omega
      rw [ofDigitChars_append_padStart _ (by decide) hlt, length_padStart_toDigits (by decide) hlt,
        Nat.ofDigitChars_ten_toDigits, div_eq_div_iff (by norm_num) (by norm_num)]
      exact_mod_cast (by omega :
        (10 ^ 2 * (hundredths / 100) + hundredths % 100) * 100 = hundredths * 10 ^ 2)

/-- Exact amounts in minor units. -/
theorem wholeMinorUnits_of_decimalValue {amount : Decimal}
    (h : decimalValue amount = inUnits hundredths) : wholeMinorUnits amount = hundredths := by
  rw [decimalValue, inUnits, div_eq_div_iff (by positivity) (by norm_num)] at h
  have hproduct : amount.unscaled * 100 = hundredths * 10 ^ amount.scale := by exact_mod_cast h
  rw [wholeMinorUnits, hproduct, Nat.mul_div_cancel _ (by positivity)]

end RawText

namespace Ios

namespace CurrencyTextField

variable {currency : Text} {hundredths : ℕ}

/-- `formatNumber`, exactly. -/
def exactFormatNumber (currency number : Text) : Text :=
  match doubleOrNil number with
  | none => number
  | some doubleValue => string currency (.finite (decimalValue doubleValue))

/-- What `formatInput` writes to the field, exactly. -/
def exactFormatted (currency input : Text) : FieldState :=
  { displayValue :=
      if (integerPart currency input).isEmpty then []
      else exactFormatNumber currency (formatInput currency input)
    value := formatInput currency input }

/-- How an amount is shown. -/
def display (currency : Text) (hundredths : ℕ) : Text :=
  string currency (.finite (inUnits hundredths))

/-- The separator stands before decimals only. -/
theorem decimals_eq (separator : Char) (hundredths : ℕ) :
    decimals separator hundredths =
      if (decimalDigits hundredths).isEmpty then []
      else separator :: decimalDigits hundredths := by
  by_cases hzero : hundredths % 100 = 0
  · rw [decimalDigits_eq_nil_iff.mpr hzero, decimals, if_pos hzero]
    rfl
  · have hne : ¬ (decimalDigits hundredths).isEmpty := by
      rwa [List.isEmpty_iff, decimalDigits_eq_nil_iff]
    rw [if_neg hne, decimals, decimalDigits, if_neg hzero, if_neg hzero]
    split_ifs
    · rfl
    · rfl

/-- What the exact field displays, in its two parts. -/
theorem display_eq (currency : Text) (hundredths : ℕ) :
    display currency hundredths =
      grouped (groupingSeparator currency) (Nat.toDigits 10 (hundredths / 100)) ++
        decimals (decimalSeparator currency) hundredths := by
  have hround : roundHalfEven (inUnits hundredths * 100) = (hundredths : ℤ) := by
    rw [inUnits, div_mul_cancel₀ _ (by norm_num), ← roundHalfEven_intCast (hundredths : ℤ)]
    norm_cast
  rw [display, string, hround, Int.toNat_natCast]

/-- Decimals behind a whole number are kept. -/
theorem parts_append_decimals {t decs : Text} (h : DigitsAnd [groupingSeparator currency] t)
    (hne : t ≠ []) (hdecs : ∀ c ∈ decs, c.isDigit = true) (hlength : decs.length ≤ 2) :
    integerPart currency (t ++ decimalSeparator currency :: decs) = t.filter Char.isDigit ∧
      formatInput currency (t ++ decimalSeparator currency :: decs) =
        rawAmount (t.filter Char.isDigit) decs := by
  have hclean : cleanedAmount (t ++ decimalSeparator currency :: decs) =
      t ++ decimalSeparator currency :: decs := by
    apply cleanedAmount_eq_self
    rw [List.forall_mem_append, List.forall_mem_cons]
    exact ⟨kept_of_digitsAnd h, .inr (decimalSeparator_cases currency),
      fun c hc => .inl (hdecs c hc)⟩
  have hpos := bne_decimalSeparator (decimalSeparator_notMem h)
  have hdrop : (t ++ decimalSeparator currency :: decs).dropWhile
      (· == decimalSeparator currency) = t ++ decimalSeparator currency :: decs := by
    obtain ⟨c, rest, rfl⟩ := List.exists_cons_of_ne_nil hne
    exact List.dropWhile_cons_of_neg (by simpa using hpos c List.mem_cons_self)
  have hbefore : (t ++ decimalSeparator currency :: decs).takeWhile
      (· != decimalSeparator currency) = t := by
    rw [List.takeWhile_append_of_pos hpos, List.takeWhile_cons_of_neg (by simp), List.append_nil]
  have hbehind : ((t ++ decimalSeparator currency :: decs).dropWhile
      (· != decimalSeparator currency)).drop 1 = decs := by
    rw [List.dropWhile_append_of_pos hpos, List.dropWhile_cons_of_neg (by simp)]
    rfl
  have hinteger : integerPart currency (t ++ decimalSeparator currency :: decs) =
      t.filter Char.isDigit := by
    rw [integerPart, hclean, hdrop, hbefore, filter_eq_filter_isDigit h]
  refine ⟨hinteger, ?_⟩
  calc formatInput currency (t ++ decimalSeparator currency :: decs) =
        rawAmount (integerPart currency (t ++ decimalSeparator currency :: decs))
          (((((cleanedAmount (t ++ decimalSeparator currency :: decs)).dropWhile
            (· == decimalSeparator currency)).dropWhile
              (· != decimalSeparator currency)).drop 1).take 2) := rfl
    _ = rawAmount (t.filter Char.isDigit) decs := by
        rw [hinteger, hclean, hdrop, hbehind, List.take_of_length_le hlength]

/-- Something is shown for every number. -/
theorem shown_ne_nil (currency : Text) (n : ℕ) : (shown currency n).displayValue ≠ [] := by
  intro hnil
  have hfilter := @filter_shown currency n
  rw [hnil] at hfilter
  exact Nat.toDigits_ne_nil hfilter.symm

/-- **What is shown is read** as the text of the amount. -/
theorem parts_display (currency : Text) (hundredths : ℕ) :
    integerPart currency (display currency hundredths) = Nat.toDigits 10 (hundredths / 100) ∧
      formatInput currency (display currency hundredths) = rawText hundredths := by
  have hwhole : DigitsAnd [groupingSeparator currency]
      (grouped (groupingSeparator currency) (Nat.toDigits 10 (hundredths / 100))) :=
    digitsAnd_shown (hundredths / 100)
  have hfilter := @filter_shown currency (hundredths / 100)
  rw [shown] at hfilter
  rw [display_eq, decimals_eq]
  split_ifs with hempty
  · obtain ⟨hinteger, hvalue⟩ := parts_append (.inl rfl) hwhole
    rw [hinteger, hvalue, hfilter, rawText, rawAmount, if_pos hempty]
    exact ⟨rfl, rfl⟩
  · obtain ⟨hinteger, hvalue⟩ := parts_append_decimals hwhole (shown_ne_nil currency _)
      (fun _ => isDigit_decimalDigits) length_decimalDigits
    rw [hinteger, hvalue, hfilter]
    exact ⟨rfl, rfl⟩

/-- The exact field displays a text by the amount it denotes. -/
theorem exactFormatNumber_of_decimalValue {number : Text}
    (h : (doubleOrNil number).map decimalValue = some (inUnits hundredths)) :
    exactFormatNumber currency number = display currency hundredths := by
  obtain ⟨amount, hamount, hvalue⟩ := Option.map_eq_some_iff.mp h
  rw [exactFormatNumber, hamount]
  dsimp only
  rw [hvalue]
  rfl

/-- The raw text denotes its amount. -/
theorem doubleOrNil_rawText (hundredths : ℕ) :
    (doubleOrNil (rawText hundredths)).map decimalValue = some (inUnits hundredths) := by
  rw [doubleOrNil, if_neg (digitsAnd_rawText.not_mem (by decide)), decimalOrNull_rawText]

/-- **Formatting what is shown** changes nothing. -/
theorem exactFormatted_display (currency : Text) (hundredths : ℕ) :
    exactFormatted currency (display currency hundredths) =
      { displayValue := display currency hundredths
        value := rawText hundredths } := by
  obtain ⟨hinteger, hvalue⟩ := parts_display currency hundredths
  rw [exactFormatted, hinteger, hvalue, if_neg (by simp [Nat.toDigits_ne_nil]),
    exactFormatNumber_of_decimalValue (doubleOrNil_rawText hundredths)]

end CurrencyTextField

end Ios

end SpendCraft
