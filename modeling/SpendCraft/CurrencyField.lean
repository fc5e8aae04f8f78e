import SpendCraft.Ios.ExactAmounts

/-!
# Typing an Amount on Android

The field of the amount parses its text after every keystroke, and writes the amount that it
reads in groups of digits. A separator at the end has no decimals behind it yet, so that the
text is written without it, and the decimals that are typed next belong to the whole number.

Amounts are read and written exactly here.

## Conventions

The field has the text it shows and the value it hands on (`Field`). A keystroke appends a
character, formats the text, and runs the effect that writes the value again if it differs. Only
typing at the end of the text is modelled. `formatNumber` is the pattern `#,##0.##` with its
symbols put in, and writes at most two decimals, without trailing zeros.

What the property asks for is the value, the minor units that the button hands on, and that
formatting a text of the amount yields the amount again.

## Proof

The invariant over the keystrokes is `Holds`: the field shows and holds a whole number. A digit
makes it ten times larger and adds the digit, and a comma leaves it, because the text without
decimals is written without the comma. So the decimals of an amount are typed behind the whole
part, as further digits of it, and the amount survives just if it has none or is zero.

## Main results

* `formatInput_formatNumber`: what is written is read as the same amount.
* `holds_typed`: what typing an amount ends with.
* `yieldsTyped_iff`: when it ends with the amount.
-/

namespace SpendCraft

open Kotlin Binary64

/-- The amount that the button for saving hands on. -/
def IOSAddTransactionScreen.amountMinor (amount : Text) : Int64 :=
  ((decimalOrNull (amount.map fun c => if c = ',' then '.' else c)).map exactMinorUnits).getD 0

/-- The button hands this amount on. -/
theorem IOSAddTransactionScreen.save_eq (screen : IOSAddTransactionScreen) (draws : SaveDraws)
    (store : Store) :
    screen.save draws store =
      AppNavHost.onSave draws (amountMinor screen.amount)
        (if screen.note.isEmpty then none else some screen.note)
        (screen.selectedCategory.bind Category.id) screen.isIncome store := rfl

namespace CurrencyTextField

/-! ### The field -/

/-- `DecimalFormat("#,##0.##").format`, with a point between groups and a comma before the
decimals. -/
def format (x : ℚ) : Text :=
  let hundredths := (roundHalfEven (x * 100)).toNat
  Ios.CurrencyTextField.grouped '.' (Nat.toDigits 10 (hundredths / 100)) ++
    Ios.CurrencyTextField.decimals ',' hundredths

/-- `formatNumber`: the number is formatted, and a text that is no number stays as it is. -/
def formatNumber (number : Text) : Text :=
  if number.isEmpty then []
  else
    match decimalOrNull number with
    | none => number
    | some doubleValue => format (decimalValue doubleValue)

/-- The part before the comma, without the points. -/
def integerPart (input : Text) : Text :=
  ((cleanedAmount input).takeWhile (· != ',')).filter (· != '.')

/-- The text shown and the value handed on. -/
structure Field where
  text : Text
  value : Text
  deriving DecidableEq, Repr

namespace Field

/-- The field as the form opens. -/
def empty : Field :=
  { text := []
    value := [] }

/-- What `formatInput` writes to the field. -/
def formatted (input : Text) : Field :=
  { text := if (integerPart input).isEmpty then [] else formatNumber (formatInput input)
    value := formatInput input }

/-- `LaunchedEffect(value)` -/
def launchedEffect (field : Field) : Field :=
  if !field.value.isEmpty && field.text != formatNumber field.value then
    { field with text := formatNumber field.value }
  else field

/-- A character is appended to the text that is shown. -/
def type (field : Field) (c : Char) : Field :=
  (formatted (field.text ++ [c])).launchedEffect

end Field

/-- An amount as it is typed, with all of its decimals. -/
def decimalText (amount : Decimal) : Text :=
  Nat.toDigits 10 (amount.unscaled / 10 ^ amount.scale) ++
    if amount.scale = 0 then []
    else ',' :: padStart (Nat.toDigits 10 (amount.unscaled % 10 ^ amount.scale)) amount.scale '0'

/-- The field after the amount was typed. -/
def typed (amount : Decimal) : Field :=
  (decimalText amount).foldl Field.type .empty

/-- **Typing an amount yields the amount**, which is the one that the button for saving hands on,
and formatting a text of it yields it again. -/
structure YieldsTyped (amount : Decimal) : Prop where
  read : (decimalOrNull (typed amount).value).map decimalValue = some (decimalValue amount)
  passed : ((IOSAddTransactionScreen.amountMinor (typed amount).value).toInt : ℚ) =
    decimalValue amount * 100
  saved : ∀ (screen : IOSAddTransactionScreen) (draws : SaveDraws) (store : Store),
    screen.amount = (typed amount).value →
      screen.save draws store =
        AppNavHost.onSave draws (IOSAddTransactionScreen.amountMinor (typed amount).value)
          (if screen.note.isEmpty then none else some screen.note)
          (screen.selectedCategory.bind Category.id) screen.isIncome store
  stable : ∀ raw, (decimalOrNull raw).map decimalValue = some (decimalValue amount) →
    (decimalOrNull (formatInput (formatNumber raw))).map decimalValue =
      some (decimalValue amount)

/-! ### The field of the iOS app -/

/-- The two fields format numbers in the same way. -/
theorem format_eq (x : ℚ) :
    format x = Ios.CurrencyTextField.string "TRY".toList (.finite x) := rfl

/-- They read texts in the same way, unless they start with a comma. -/
theorem parts_eq {input : Text} (h : (cleanedAmount input).head? ≠ some ',') :
    integerPart input = Ios.CurrencyTextField.integerPart "TRY".toList input ∧
      formatInput input = Ios.CurrencyTextField.formatInput "TRY".toList input := by
  have hdrop : (cleanedAmount input).dropWhile (· == ',') = cleanedAmount input := by
    cases hclean : cleanedAmount input with
    | nil => rfl
    | cons c cs =>
        rw [hclean, List.head?_cons, ne_eq, Option.some_inj] at h
        exact List.dropWhile_cons_of_neg (by simpa using h)
  have hcommas : ((cleanedAmount input).takeWhile (· != ',')).filter (· != '.') =
      ((cleanedAmount input).takeWhile (· != ',')).filter fun c => c != '.' && c != ',' := by
    apply List.filter_congr
    intro c hc
    have hne := List.mem_takeWhile_imp hc
    rw [hne, Bool.and_true]
  have hseparator : Ios.CurrencyTextField.decimalSeparator "TRY".toList = ',' := rfl
  refine ⟨?_, ?_⟩
  · rw [integerPart, Ios.CurrencyTextField.integerPart, hseparator, hdrop, hcommas]
  · rw [formatInput, Ios.CurrencyTextField.formatInput, if_pos rfl, hdrop, hcommas]

variable {hundredths n : ℕ}

/-- A number is displayed as the lira amount it denotes. -/
theorem formatNumber_of_decimalValue {raw : Text}
    (h : (decimalOrNull raw).map decimalValue = some (inUnits hundredths)) :
    formatNumber raw = Ios.CurrencyTextField.display "TRY".toList hundredths := by
  obtain ⟨amount, hamount, hvalue⟩ := Option.map_eq_some_iff.mp h
  have hne : ¬ raw.isEmpty := by
    rw [List.isEmpty_iff]
    rintro rfl
    cases hamount
  rw [formatNumber, if_neg hne, hamount]
  dsimp only
  rw [hvalue]
  rfl

/-- A text that starts with a number does not start with a comma. -/
theorem head?_cleanedAmount {t : Text} (h : DigitsAnd ['.'] t) (hne : t ≠ []) (rest : Text) :
    (cleanedAmount (t ++ rest)).head? ≠ some ',' := by
  obtain ⟨c, t, rfl⟩ := List.exists_cons_of_ne_nil hne
  obtain hdigit | hpoint := h c List.mem_cons_self
  · rw [cleanedAmount, List.cons_append, List.filter_cons_of_pos (by simp [hdigit])]
    rintro ⟨⟩
    cases hdigit
  · rw [List.mem_singleton] at hpoint
    subst hpoint
    rw [cleanedAmount, List.cons_append, List.filter_cons_of_pos rfl]
    rintro ⟨⟩

/-- **Formatting an amount of minor units** and reading it again. -/
theorem formatInput_formatNumber {raw : Text}
    (h : (decimalOrNull raw).map decimalValue = some (inUnits hundredths)) :
    formatInput (formatNumber raw) = rawText hundredths := by
  have hhead := head?_cleanedAmount
    (@Ios.CurrencyTextField.digitsAnd_shown "TRY".toList (hundredths / 100))
    (Ios.CurrencyTextField.shown_ne_nil _ _) (Ios.CurrencyTextField.decimals ',' hundredths)
  have hdisplay := Ios.CurrencyTextField.display_eq "TRY".toList hundredths
  obtain ⟨-, hread⟩ := Ios.CurrencyTextField.parts_display "TRY".toList hundredths
  rw [formatNumber_of_decimalValue h, ← hread]
  refine (parts_eq ?_).2
  rw [hdisplay]
  exact hhead

/-! ### Keystrokes -/

/-- The text shows a whole number; the empty text shows none. -/
def Shows (text : Text) (n : ℕ) : Prop :=
  DigitsAnd ['.'] text ∧ Nat.ofDigitChars 10 (text.filter Char.isDigit) 0 = n

/-- The field shows and holds a whole number. -/
structure Holds (field : Field) (n : ℕ) : Prop where
  shows : Shows field.text n
  digits : field.text.filter Char.isDigit ≠ []
  comma : ',' ∉ field.value
  value : (decimalOrNull field.value).map decimalValue = some (n : ℚ)

/-- A text of digits and points, with or without a comma at the end, is read without both. -/
theorem formatted_of_digitsAnd {t tail : Text} (h : DigitsAnd ['.'] t)
    (htail : tail = [] ∨ tail = [',']) (hdigits : t.filter Char.isDigit ≠ []) :
    (Field.formatted (t ++ tail)).launchedEffect =
      { text := formatNumber (t.filter Char.isDigit)
        value := t.filter Char.isDigit } := by
  have hne : t ≠ [] := by
    rintro rfl
    exact hdigits rfl
  obtain ⟨hinteger, hvalue⟩ := parts_eq (head?_cleanedAmount h hne tail)
  obtain ⟨hinteger', hvalue'⟩ :=
    @Ios.CurrencyTextField.parts_append "TRY".toList t tail htail h
  rw [Field.formatted, hinteger, hvalue, hinteger', hvalue', if_neg (by rwa [List.isEmpty_iff]),
    Field.launchedEffect, if_neg (by simp)]

/-- What is shown for digits. -/
theorem holds_formatNumber {w : Text} (hdigits : ∀ c ∈ w, c.isDigit = true) (hne : w ≠ []) :
    Holds { text := formatNumber w, value := w } (Nat.ofDigitChars 10 w 0) := by
  have hpoint : '.' ∉ w := point_notMem hdigits
  have hcomma : ',' ∉ w := by
    intro hmem
    cases hdigits ',' hmem
  have hvalue : (decimalOrNull w).map decimalValue = some ((Nat.ofDigitChars 10 w 0 : ℕ) : ℚ) := by
    rw [decimalOrNull_whole hpoint hne, Option.map_some, decimalValue, pow_zero, div_one]
  have htext : formatNumber w =
      (Ios.CurrencyTextField.shown "TRY".toList (Nat.ofDigitChars 10 w 0)).displayValue := by
    rw [formatNumber, if_neg (by rwa [List.isEmpty_iff]), decimalOrNull_whole hpoint hne]
    dsimp only
    rw [decimalValue, pow_zero, div_one, format_eq, Ios.CurrencyTextField.string_natCast]
  rw [htext]
  have hfilter := @Ios.CurrencyTextField.filter_shown "TRY".toList (Nat.ofDigitChars 10 w 0)
  refine ⟨⟨?_, ?_⟩, ?_, hcomma, hvalue⟩
  · exact @Ios.CurrencyTextField.digitsAnd_shown "TRY".toList _
  · rw [hfilter, Nat.ofDigitChars_ten_toDigits]
  · rw [hfilter]
    exact Nat.toDigits_ne_nil

/-- **A digit** is written behind the number. -/
theorem Shows.type {field : Field} (h : Shows field.text n) {c : Char} (hc : c.isDigit = true) :
    Holds (field.type c) (Nat.ofDigitChars 10 [c] n) := by
  obtain ⟨hmarks, hn⟩ := h
  have hfilter : (field.text ++ [c]).filter Char.isDigit =
      field.text.filter Char.isDigit ++ [c] := by
    rw [List.filter_append, List.filter_cons_of_pos hc, List.filter_nil]
  have hmarks' : DigitsAnd ['.'] (field.text ++ [c]) := by
    rw [digitsAnd_append_iff, DigitsAnd, DigitsAnd, List.forall_mem_singleton]
    exact ⟨hmarks, .inl hc⟩
  have hne : (field.text ++ [c]).filter Char.isDigit ≠ [] := by
    rw [hfilter]
    exact List.append_ne_nil_of_right_ne_nil _ (List.cons_ne_nil c [])
  have hformatted := formatted_of_digitsAnd hmarks' (.inl rfl) hne
  rw [List.append_nil] at hformatted
  have hholds := holds_formatNumber (fun d hd => (List.mem_filter.mp hd).2) hne
  rw [Field.type, hformatted]
  rwa [hfilter, Nat.ofDigitChars_append, hn, ← hfilter] at hholds

/-- **A comma** is lost. -/
theorem Holds.type_comma {field : Field} (h : Holds field n) : Holds (field.type ',') n := by
  obtain ⟨hmarks, hn⟩ := h.shows
  have hholds := holds_formatNumber (fun d hd => (List.mem_filter.mp hd).2) h.digits
  rw [Field.type, formatted_of_digitsAnd hmarks (.inr rfl) h.digits]
  rwa [hn] at hholds

/-- Digits are written behind the number. -/
theorem Shows.foldl_type {field : Field} (h : Shows field.text n) {digits : Text}
    (hdigits : ∀ c ∈ digits, c.isDigit = true) (hne : digits ≠ []) :
    Holds (digits.foldl Field.type field) (Nat.ofDigitChars 10 digits n) := by
  induction digits generalizing field n with
  | nil => exact absurd rfl hne
  | cons c digits ih =>
      rw [List.forall_mem_cons] at hdigits
      obtain ⟨hc, hdigits⟩ := hdigits
      have hfirst := h.type hc
      rw [List.foldl_cons]
      obtain rfl | hrest := eq_or_ne digits []
      · exact hfirst
      · exact ih hfirst.shows hdigits hrest

/-- **Typing an amount** ends with the number of all of its digits. -/
theorem holds_typed (amount : Decimal) : Holds (typed amount) amount.unscaled := by
  have hwhole : Holds ((Nat.toDigits 10 (amount.unscaled / 10 ^ amount.scale)).foldl Field.type
      .empty) (amount.unscaled / 10 ^ amount.scale) := by
    have hempty : Shows Field.empty.text 0 := ⟨nofun, rfl⟩
    have hfold := hempty.foldl_type (fun _ => isDigit_of_mem_toDigits)
      (@Nat.toDigits_ne_nil (amount.unscaled / 10 ^ amount.scale) 10)
    rwa [Nat.ofDigitChars_ten_toDigits] at hfold
  rw [typed, decimalText, List.foldl_append]
  split_ifs with hscale
  · simpa [hscale] using hwhole
  · -- the comma is lost, and the decimals are digits behind the whole number
    have hlt : amount.unscaled % 10 ^ amount.scale < 10 ^ amount.scale :=
      Nat.mod_lt _ (by positivity)
    have hpos := Nat.pos_of_ne_zero hscale
    have hdecimals : padStart (Nat.toDigits 10 (amount.unscaled % 10 ^ amount.scale)) amount.scale
        '0' ≠ [] := by
      apply List.ne_nil_of_length_pos
      rwa [length_padStart_toDigits hpos hlt]
    have hfold := hwhole.type_comma.shows.foldl_type (fun _ => isDigit_of_mem_padStart) hdecimals
    have hvalue := ofDigitChars_append_padStart
      (Nat.toDigits 10 (amount.unscaled / 10 ^ amount.scale)) hpos hlt
    rw [Nat.ofDigitChars_append, Nat.ofDigitChars_ten_toDigits, Nat.div_add_mod] at hvalue
    rwa [hvalue] at hfold

/-- The amount that is saved is the number that was typed. -/
theorem toInt_amountMinor_typed (amount : Decimal) :
    (IOSAddTransactionScreen.amountMinor (typed amount).value).toInt =
      min (2 ^ 63 - 1) ((amount.unscaled * 100 : ℕ) : ℤ) := by
  have hholds := holds_typed amount
  obtain ⟨read, hread, hvalue⟩ := Option.map_eq_some_iff.mp hholds.value
  have hcommas : ((typed amount).value.map fun c => if c = ',' then '.' else c) =
      (typed amount).value := map_replace_of_not_mem hholds.comma
  have hminor : wholeMinorUnits read = amount.unscaled * 100 := by
    apply wholeMinorUnits_of_decimalValue
    rw [hvalue, inUnits]
    push_cast
    rw [mul_div_cancel_right₀ _ (by norm_num)]
  rw [IOSAddTransactionScreen.amountMinor, hcommas, hread, Option.map_some, Option.getD_some,
    toInt_exactMinorUnits, hminor]

/-- Digits behind the comma change an amount, unless it is zero. -/
theorem eq_decimalValue_iff (amount : Decimal) :
    (amount.unscaled : ℚ) = decimalValue amount ↔ amount.scale = 0 ∨ amount.unscaled = 0 := by
  rw [decimalValue, eq_div_iff (by positivity)]
  constructor
  · intro heq
    have hnat : amount.unscaled * 10 ^ amount.scale = amount.unscaled := by exact_mod_cast heq
    obtain hzero | hpos := Nat.eq_zero_or_pos amount.unscaled
    · exact .inr hzero
    · left
      by_contra hscale
      have hgrow := Nat.mul_lt_mul_of_pos_left (Nat.one_lt_pow hscale (by decide : 1 < 10)) hpos
      omega
  · rintro (hscale | hzero)
    · rw [hscale, pow_zero, mul_one]
    · rw [hzero, Nat.cast_zero, zero_mul]

/-- **When typing an amount yields the amount**: no decimals are typed, but for those of zero, and
the minor units fit. -/
theorem yieldsTyped_iff (amount : Decimal) :
    YieldsTyped amount ↔
      (amount.scale = 0 ∨ amount.unscaled = 0) ∧ decimalValue amount * 100 < 2 ^ 63 := by
  have hread := (holds_typed amount).value
  have hminor := toInt_amountMinor_typed amount
  rw [← eq_decimalValue_iff]
  constructor
  · intro h
    have heq : (amount.unscaled : ℚ) = decimalValue amount :=
      Option.some.inj (hread.symm.trans h.read)
    have hpassed := h.passed
    rw [← heq, hminor] at hpassed
    refine ⟨heq, ?_⟩
    have hint : min (2 ^ 63 - 1) ((amount.unscaled * 100 : ℕ) : ℤ) =
        ((amount.unscaled * 100 : ℕ) : ℤ) := by
      exact_mod_cast hpassed
    rw [← heq]
    exact_mod_cast (by omega : amount.unscaled * 100 < 2 ^ 63)
  · rintro ⟨heq, hfits⟩
    rw [← heq] at hfits
    have hlt : amount.unscaled * 100 < 2 ^ 63 := by exact_mod_cast hfits
    have hunits : decimalValue amount = inUnits (amount.unscaled * 100) := by
      rw [← heq, inUnits]
      push_cast
      rw [mul_div_cancel_right₀ _ (by norm_num)]
    refine ⟨by rw [hread, heq], ?_, ?_, ?_⟩
    · rw [hminor, min_eq_right (by omega), ← heq]
      push_cast
      ring
    · intro screen draws store hamount
      rw [IOSAddTransactionScreen.save_eq, hamount]
    · intro raw hraw
      rw [hunits] at hraw ⊢
      rw [formatInput_formatNumber hraw, decimalOrNull_rawText]

/-- Typing 12,5 ends with 125, and hands on 125.00. -/
theorem not_yieldsTyped :
    (typed { unscaled := 125, scale := 1 }).value = "125".toList ∧
      IOSAddTransactionScreen.amountMinor (typed { unscaled := 125, scale := 1 }).value = 12500 ∧
      ¬ YieldsTyped { unscaled := 125, scale := 1 } := by
  refine ⟨by decide +kernel, by decide +kernel, ?_⟩
  intro h
  have hread := h.read
  rw [(holds_typed _).value] at hread
  obtain hscale | hzero := (eq_decimalValue_iff _).mp (Option.some.inj hread)
  · cases hscale
  · cases hzero

end CurrencyTextField

end SpendCraft
