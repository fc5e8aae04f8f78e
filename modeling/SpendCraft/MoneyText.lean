import SpendCraft.Ios.BudgetAgreement
import SpendCraft.Ios.CurrencyField

/-!
# Amounts on the Screens

Both apps show an amount with two decimals, in groups of three digits, with the marks of the
chosen currency: `CurrencyFormatter.format` takes minor units and puts the symbol behind liras and
before everything else; `formatCurrency` of the iOS app takes a double, drops its sign and always
puts the symbol behind.

A double is the rational number it stands for. The formatters round it half to even.

## Conventions

The number formats of both platforms are written out for two fraction digits: the separators of
the two locales, groups of three digits, and rounding half to even. The symbol of a code is looked
up in the same table by both apps, and a code that is not in it has the symbol of the lira.
`readAmount` takes the digits of a text and its minus sign.

## Proof

The text of an amount is taken apart by filtering its digits, since neither the separators nor the
symbols have any. So `readAmount` gives the minor units back, and two texts of different amounts
differ. What else may differ is the place of the symbol and the sign: the comparison of the first
and the last characters leaves the lira and a positive amount.

## Main results

* `CurrencyFormatter.readAmount_format`: the text tells the amount.
* `CurrencyFormatter.format_eq_formatCurrency_iff`: when the two apps show the same.
-/

namespace SpendCraft

open Kotlin Binary64 Ios.CurrencyTextField
open Ios (majorUnits)

/-- A number of hundredths with exactly two decimals. -/
def hundredthsText (currency : Text) (hundredths : ℕ) : Text :=
  grouped (groupingSeparator currency) (Nat.toDigits 10 (hundredths / 100)) ++
    decimalSeparator currency :: padStart (Nat.toDigits 10 (hundredths % 100)) 2 '0'

namespace CurrencyFormatter

/-- `currencies`: the codes with their symbols. -/
def currencies : List (Text × Text) :=
  [("TRY".toList, "₺".toList), ("USD".toList, "$".toList), ("EUR".toList, "€".toList),
    ("GBP".toList, "£".toList), ("JPY".toList, "¥".toList), ("CHF".toList, "Fr".toList),
    ("CAD".toList, "C$".toList), ("AUD".toList, "A$".toList), ("CNY".toList, "¥".toList),
    ("RUB".toList, "₽".toList), ("SAR".toList, "﷼".toList), ("AED".toList, "د.إ".toList)]

/-- `getCurrencySymbol`: an unknown code has the symbol of the lira. -/
def getCurrencySymbol (code : Text) : Text :=
  (currencies.lookup code).getD "₺".toList

/-- `NumberFormat` with two fraction digits: `tr_TR` for liras, `en_US` for the others. -/
def numberFormat (code : Text) (x : ℚ) : Text :=
  (if x < 0 then ['-'] else []) ++ hundredthsText code (roundHalfEven (|x| * 100)).toNat

/-- `format`: the lira is written behind the amount, any other symbol in front of it. -/
def format (selectedCurrency : Text) (amountMinor : ℤ) : Text :=
  let symbol := getCurrencySymbol selectedCurrency
  let formattedAmount := numberFormat selectedCurrency (majorUnits amountMinor)
  if selectedCurrency = "TRY".toList then formattedAmount ++ ' ' :: symbol
  else symbol ++ formattedAmount

end CurrencyFormatter

/-- The function of the iOS app. -/
def Ios.formatCurrency (selectedCurrency selectedSymbol : Text) (amount : ℚ) : Text :=
  hundredthsText selectedCurrency (roundHalfEven (|amount| * 100)).toNat ++ ' ' :: selectedSymbol

namespace CurrencyFormatter

/-- The amount in a text: its digits, and whether it has a minus sign. -/
def readAmount (text : Text) : ℤ :=
  (if '-' ∈ text then -1 else 1) * Nat.ofDigitChars 10 (text.filter Char.isDigit) 0

variable {code : Text} {m m' : ℤ} {n : ℕ}

/-! ### Digits -/

/-- A separator is no digit. -/
theorem isDigit_decimalSeparator (code : Text) : (decimalSeparator code).isDigit = false := by
  obtain ⟨h, -⟩ | ⟨h, -⟩ := separators_cases code
  · rw [h]; decide
  · rw [h]; decide

/-- The digits of an amount of hundredths. -/
theorem filter_hundredthsText :
    (hundredthsText code n).filter Char.isDigit =
      Nat.toDigits 10 (n / 100) ++ padStart (Nat.toDigits 10 (n % 100)) 2 '0' := by
  rw [hundredthsText, List.filter_append, filter_grouped (isDigit_groupingSeparator code)
    fun c hc => isDigit_of_mem_toDigits hc, List.filter_cons_of_neg
    (by rw [isDigit_decimalSeparator]; decide), List.filter_eq_self.mpr]
  intro c hc
  exact isDigit_of_mem_padStart hc

/-- The digits are those of the number. -/
theorem ofDigitChars_hundredthsText :
    Nat.ofDigitChars 10 ((hundredthsText code n).filter Char.isDigit) 0 = n := by
  have hlt : n % 100 < 10 ^ 2 := Nat.mod_lt n (by decide)
  rw [filter_hundredthsText, ofDigitChars_append_padStart _ (by decide) hlt,
    Nat.ofDigitChars_ten_toDigits]
  omega

/-- An amount of hundredths has no sign. -/
theorem minus_notMem_hundredthsText : '-' ∉ hundredthsText code n := by
  have hwhole : DigitsAnd [groupingSeparator code] (grouped (groupingSeparator code)
      (Nat.toDigits 10 (n / 100))) := digitsAnd_grouped (digitsAnd_toDigits _ _)
  intro h
  rw [hundredthsText, List.mem_append, List.mem_cons] at h
  obtain h | h | h := h
  · obtain hdigit | hmark := hwhole '-' h
    · exact absurd hdigit (by decide)
    · obtain ⟨-, hsep⟩ | ⟨-, hsep⟩ := separators_cases code
      · rw [hsep] at hmark; exact absurd hmark (by decide)
      · rw [hsep] at hmark; exact absurd hmark (by decide)
  · obtain ⟨hsep, -⟩ | ⟨hsep, -⟩ := separators_cases code
    · rw [hsep] at h; exact absurd h (by decide)
    · rw [hsep] at h; exact absurd h (by decide)
  · exact absurd (isDigit_of_mem_padStart h) (by decide)

/-- Grouping keeps the last digit in its place. -/
theorem getLast?_groupedReversed (mark : Char) (digits : Text) :
    (groupedReversed mark digits).getLast? = digits.getLast? := by
  fun_induction groupedReversed mark digits with
  | case1 a b c d rest ih => simp only [List.getLast?_cons, ih]; rfl
  | case2 digits => rfl

/-- A text of hundredths starts with a digit. -/
theorem exists_head?_hundredthsText :
    ∃ c, (hundredthsText code n).head? = some c ∧ c.isDigit = true := by
  have hhead : (grouped (groupingSeparator code) (Nat.toDigits 10 (n / 100))).head? =
      (Nat.toDigits 10 (n / 100)).head? := by
    rw [grouped, List.head?_reverse, getLast?_groupedReversed, List.getLast?_reverse]
  cases hdigits : Nat.toDigits 10 (n / 100) with
  | nil => exact absurd hdigits Nat.toDigits_ne_nil
  | cons c rest =>
      rw [hdigits, List.head?_cons] at hhead
      refine ⟨c, ?_, isDigit_of_mem_toDigits (hdigits ▸ List.mem_cons_self)⟩
      rw [hundredthsText, List.head?_append, hdigits, hhead]
      rfl

/-! ### Symbols -/

/-- A symbol is one of the table or that of the lira. -/
theorem getCurrencySymbol_mem (code : Text) :
    getCurrencySymbol code ∈ "₺".toList :: currencies.map Prod.snd := by
  rw [getCurrencySymbol]
  cases h : currencies.lookup code with
  | none => exact List.mem_cons_self
  | some symbol =>
      obtain ⟨before, after, heq, -⟩ := List.lookup_eq_some_iff.mp h
      exact List.mem_cons_of_mem _ (List.mem_map.mpr ⟨(code, symbol), by simp [heq], rfl⟩)

/-- A symbol has neither a digit nor a sign, and starts with no digit. -/
theorem filter_getCurrencySymbol (code : Text) :
    (getCurrencySymbol code).filter Char.isDigit = [] ∧ '-' ∉ getCurrencySymbol code ∧
      ∃ c, (getCurrencySymbol code).head? = some c ∧ c.isDigit = false := by
  have hall : (("₺".toList :: currencies.map Prod.snd).all fun symbol =>
      (symbol.filter Char.isDigit).isEmpty && !symbol.contains '-' &&
        symbol.head?.any fun c => !c.isDigit) = true := by decide
  simp only [List.all_eq_true, Bool.and_eq_true, List.isEmpty_iff, Bool.not_eq_true',
    Option.any_eq_true] at hall
  obtain ⟨⟨hdigits, hminus⟩, c, hc, hdigit⟩ := hall _ (getCurrencySymbol_mem code)
  exact ⟨hdigits, by simpa using hminus, c, hc, by simpa using hdigit⟩

/-! ### Amounts -/

/-- What is within a half of an integer is rounded to it. -/
theorem roundHalfEven_eq {x : ℚ} {k : ℤ} (h : |x - k| < 1 / 2) : roundHalfEven x = k := by
  have hround := abs_le.mp (abs_roundHalfEven_sub_le x)
  obtain ⟨hlower, hupper⟩ := abs_lt.mp h
  have hlt : (roundHalfEven x : ℚ) < k + 1 := by linarith
  have hgt : (k : ℚ) - 1 < roundHalfEven x := by linarith
  have hlt' : roundHalfEven x < k + 1 := by exact_mod_cast hlt
  have hgt' : k - 1 < roundHalfEven x := by exact_mod_cast hgt
  omega

/-- The double of an amount is close enough to tell it. -/
theorem abs_majorUnits_mul_sub_lt (h : |m| ≤ 2 ^ 50) : |majorUnits m * 100 - m| < 1 / 2 := by
  have hm : |(m : ℚ)| ≤ 2 ^ 50 := by exact_mod_cast h
  have herror := abs_le.mp (Ios.abs_majorUnits_sub_le (n := m) (by omega))
  rw [abs_lt]
  constructor
  · linarith [herror.1]
  · linarith [herror.2]

/-- Below the bound, an amount is negative in major units exactly if it is in minor units. -/
theorem majorUnits_neg_iff (h : |m| ≤ 2 ^ 50) : majorUnits m < 0 ↔ m < 0 := by
  constructor
  · intro hneg
    by_contra hm
    have hm' : (0 : ℚ) ≤ signedRounded m := signedRounded_nonneg (by exact_mod_cast not_lt.mp hm)
    exact absurd (signedRounded_nonneg (div_nonneg hm' (by norm_num))) (not_le.mpr hneg)
  · intro hneg
    have hle : (m : ℚ) ≤ -1 := by exact_mod_cast Int.le_sub_one_of_lt hneg
    obtain ⟨-, hupper⟩ := abs_lt.mp (abs_majorUnits_mul_sub_lt h)
    linarith

/-- The hundredths that are shown of a number near them. -/
theorem roundHalfEven_of_near {x : ℚ} {k : ℤ} (h : |x * 100 - k| < 1 / 2) :
    (roundHalfEven (|x| * 100)).toNat = k.natAbs := by
  have hclose : |(|x| * 100) - ((|k| : ℤ) : ℚ)| < 1 / 2 := by
    rw [Int.cast_abs]
    calc abs (|x| * 100 - |(k : ℚ)|)
        = abs (|x * 100| - |(k : ℚ)|) := by
          rw [abs_mul, abs_of_pos (show (0 : ℚ) < 100 by norm_num)]
      _ ≤ |x * 100 - k| := abs_abs_sub_abs_le _ _
      _ < 1 / 2 := h
  rw [roundHalfEven_eq hclose, Int.abs_eq_natAbs, Int.toNat_natCast]

/-- Below the bound, the major units are printed as the minor units they come from. -/
theorem roundHalfEven_majorUnits (h : |m| ≤ 2 ^ 50) :
    (roundHalfEven (|majorUnits m| * 100)).toNat = m.natAbs :=
  roundHalfEven_of_near (abs_majorUnits_mul_sub_lt h)

/-- **The text tells the amount.** -/
theorem readAmount_format (code : Text) (h : |m| ≤ 2 ^ 50) : readAmount (format code m) = m := by
  obtain ⟨hsymbol, hminus, -⟩ := filter_getCurrencySymbol code
  have hdigits : (format code m).filter Char.isDigit =
      (hundredthsText code m.natAbs).filter Char.isDigit := by
    have hsign : ((if majorUnits m < 0 then ['-'] else []) : Text).filter Char.isDigit = [] := by
      split <;> decide
    have hspace : Char.isDigit ' ' = false := by decide
    rw [format]
    split <;>
      simp only [numberFormat, roundHalfEven_majorUnits h, List.filter_append, hsign, hsymbol,
        List.nil_append, List.append_nil, List.filter_cons, hspace, Bool.false_eq_true, if_false]
  have hsign : '-' ∈ format code m ↔ m < 0 := by
    rw [← majorUnits_neg_iff h, format]
    have hspace : ('-' : Char) ≠ ' ' := by decide
    split <;>
      simp only [numberFormat, List.mem_append, List.mem_cons, minus_notMem_hundredthsText,
        hminus, hspace, or_false, false_or] <;>
      split <;> simp [*]
  rw [readAmount, hdigits, ofDigitChars_hundredthsText]
  by_cases hneg : m < 0
  · rw [if_pos (hsign.mpr hneg)]
    omega
  · rw [if_neg (mt hsign.mp hneg)]
    omega

/-- The iOS app does not tell the sign. -/
theorem readAmount_formatCurrency (code : Text) {x : ℚ} (h : |x * 100 - m| < 1 / 2) :
    readAmount (Ios.formatCurrency code (getCurrencySymbol code) x) = |m| := by
  obtain ⟨hsymbol, hminus, -⟩ := filter_getCurrencySymbol code
  have hspace : Char.isDigit ' ' = false := by decide
  have hdash : ('-' : Char) ≠ ' ' := by decide
  rw [readAmount, Ios.formatCurrency, roundHalfEven_of_near h, if_neg, List.filter_append,
    List.filter_cons, hspace, if_neg Bool.false_ne_true, hsymbol, List.append_nil,
    ofDigitChars_hundredthsText]
  · rw [one_mul, Int.natCast_natAbs]
  · simp [minus_notMem_hundredthsText, hminus, hdash]

/-- The two apps show the same text just for liras, and where the amount of the Android app is
that of the iOS app without its sign. -/
theorem format_eq_formatCurrency_iff (code : Text) (h : |m| ≤ 2 ^ 50) (h' : |m'| ≤ 2 ^ 50) :
    format code m = Ios.formatCurrency code (getCurrencySymbol code) (majorUnits m') ↔
      code = "TRY".toList ∧ m = |m'| := by
  constructor
  · intro heq
    have hamount : m = |m'| := by
      rw [← readAmount_format code h, heq,
        readAmount_formatCurrency code (abs_majorUnits_mul_sub_lt h')]
    refine ⟨?_, hamount⟩
    by_contra hcode
    -- The one text starts with the symbol, the other with a digit.
    obtain ⟨-, -, c, hc, hdigit⟩ := filter_getCurrencySymbol code
    obtain ⟨d, hd, hdigit'⟩ :
        ∃ d, (hundredthsText code m'.natAbs).head? = some d ∧ d.isDigit = true :=
      exists_head?_hundredthsText
    have hheads := congrArg List.head? heq
    rw [format, if_neg hcode, Ios.formatCurrency, roundHalfEven_majorUnits h', List.head?_append,
      List.head?_append, hc, hd, Option.some_or, Option.some_or, Option.some_inj] at hheads
    rw [hheads, hdigit'] at hdigit
    exact absurd hdigit (by decide)
  · rintro ⟨rfl, rfl⟩
    have hnonneg : ¬ majorUnits |m'| < 0 := by
      rw [majorUnits_neg_iff h]
      exact not_lt.mpr (abs_nonneg m')
    rw [format, if_pos rfl, numberFormat, if_neg hnonneg, Ios.formatCurrency,
      roundHalfEven_majorUnits h, roundHalfEven_majorUnits h', Int.natAbs_abs, List.nil_append]

/-- An expense of 1234.56 liras on the one side is an amount of as much on the other. -/
theorem format_eq_formatCurrency_expense :
    format "TRY".toList 123456 =
      Ios.formatCurrency "TRY".toList (getCurrencySymbol "TRY".toList) (majorUnits (-123456)) :=
  (format_eq_formatCurrency_iff "TRY".toList (by decide) (by decide)).mpr ⟨rfl, by decide⟩

end CurrencyFormatter

end SpendCraft
