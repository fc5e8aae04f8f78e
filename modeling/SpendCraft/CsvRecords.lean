import SpendCraft.CsvParser
import SpendCraft.Lib.Binary64

/-!
# What the Records of an Import Say

The records that `CsvParser.parseTransactions` returns, against the texts of the columns
they come from. Amounts are read as doubles here.

A text is compared with what it denotes: `NumberText` is a number with or without
thousands separators, in either style, and `DateText` a date in one of the formats.

## Conventions

`numberStyles` has two styles, with a comma for the decimals and points between groups, and the
other way round. `AmountRead` says three things of an amount: it is zero where the cleaned text is
no number in either style, it is near a number without groups and without a minus sign, and it is
exact for multiples of a quarter. Nothing is said of numbers with groups or with a minus sign,
which the parser reads as something else.

`DateRead` says which format decides: the first one that reads the text, and the clock if none
does. A day past the end of its month counts for the last day, as the parser resolves it.

## Proof

For dates the parser is taken apart by the theorem about texts that are parsed
(`JavaTime.parse_eq_some`). For amounts the errors of two roundings and one cut are added up
(`Binary64.toLong_times_bounds`). A record is then put together from its line, column by column.

## Main results

* `dateRead_parseDate`: which day a date text gives, and when it is the time of the import.
* `amountRead_parseAmount`: how far an amount is from the number in its text.
* `records_accounted`: each record, and each line that gives none.
* `not_inventsNothing_someday`: a line without a date is imported.
-/

namespace SpendCraft

open Kotlin Calendar JavaTime CsvParser

/-- The number that a decimal stands for. -/
def decimalValue (amount : Decimal) : ℚ :=
  amount.unscaled / 10 ^ amount.scale

/-- `(amount * 100).toLong()` for the double that is nearest to a decimal. -/
def binary64MinorUnits (amount : Decimal) : Int64 :=
  Int64.ofInt ((Binary64.nearest (decimalValue amount)).times 100).toLong

namespace CsvParser

/-! ### Numbers as text -/

/-- The separators of a way to write numbers. -/
structure NumberStyle where
  thousands : Char
  decimal : Char

/-- `1.234,56` and `1,234.56`. -/
def numberStyles : List NumberStyle :=
  [{ thousands := '.', decimal := ',' }, { thousands := ',', decimal := '.' }]

/-- One group of digits, or several: all but the first have three of them. -/
def Grouped : List Text → Prop
  | [] => False
  | [_] => True
  | first :: groups => 1 ≤ first.length ∧ first.length ≤ 3 ∧ ∀ group ∈ groups, group.length = 3

/-- The text of an unsigned number: the groups of its whole part, and its decimals. -/
structure NumberText (style : NumberStyle) (groups : List Text) (fraction s : Text) : Prop where
  isDigit : ∀ c ∈ groups.flatten ++ fraction, c.isDigit = true
  ne_nil : groups.flatten ++ fraction ≠ []
  grouped : Grouped groups
  text : (s = [style.thousands].intercalate groups ∧ fraction = []) ∨
    s = [style.thousands].intercalate groups ++ style.decimal :: fraction

/-- The number that digits in groups and a fraction denote. -/
def numberValue (groups : List Text) (fraction : Text) : ℚ :=
  Nat.ofDigitChars 10 (groups.flatten ++ fraction) 0 / 10 ^ fraction.length

/-- The text denotes the number, in one of the styles. -/
def AmountDenotes (amountStr : Text) (value : ℚ) : Prop :=
  ∃ style ∈ numberStyles, ∃ groups fraction s, NumberText style groups fraction s ∧
    (((amountStr = s ∨ amountStr = '+' :: s) ∧ value = numberValue groups fraction) ∨
      (amountStr = '-' :: s ∧ value = -numberValue groups fraction))

/-! ### Amounts -/

/-- **The amount of a record**, against its text. Only the digits and separators of the
text count; without a number in them the amount is zero. An ungrouped number is rounded
twice and then cut off; whole quarters are exact. -/
structure AmountRead (amountStr : Text) (amount : Int64) : Prop where
  zero : (∀ style ∈ numberStyles, ∀ groups fraction,
    ¬ NumberText style groups fraction (cleanAmount amountStr)) → amount = 0
  near : '-' ∉ amountStr → ∀ style ∈ numberStyles, ∀ whole fraction,
    NumberText style [whole] fraction (cleanAmount amountStr) →
      numberValue [whole] fraction * 100 ≤ 2 ^ 50 →
        numberValue [whole] fraction * 100 - 3 / 2 < amount.toInt ∧
          amount.toInt < numberValue [whole] fraction * 100 + 1 / 2
  exact : '-' ∉ amountStr → ∀ style ∈ numberStyles, ∀ whole fraction,
    NumberText style [whole] fraction (cleanAmount amountStr) →
      numberValue [whole] fraction * 100 ≤ 2 ^ 50 →
        (∃ quarters : ℕ, numberValue [whole] fraction * 4 = quarters) →
          (amount.toInt : ℚ) = numberValue [whole] fraction * 100

/-- A number without a sign is not negative. -/
theorem decimalValue_nonneg (amount : Decimal) : 0 ≤ decimalValue amount :=
  div_nonneg (Nat.cast_nonneg _) (pow_nonneg (by norm_num) _)

/-- The double, a hundredfold and cut off. -/
theorem toInt_binary64MinorUnits {amount : Decimal} (h : decimalValue amount * 100 ≤ 2 ^ 50) :
    (binary64MinorUnits amount).toInt =
      ((Binary64.nearest (decimalValue amount)).times 100).toLong := by
  have hnonneg := decimalValue_nonneg amount
  have hbounds := @Binary64.toLong_times_bounds _ 100 hnonneg (by norm_num) (by norm_num)
    (by exact_mod_cast h)
  rw [binary64MinorUnits]
  generalize ((Binary64.nearest (decimalValue amount)).times 100).toLong = n at hbounds
  push_cast at hbounds
  have hlow : (-2 : ℚ) < n := by linarith [hbounds.1]
  have hhigh : (n : ℚ) < 2 ^ 51 := by linarith [hbounds.2]
  have hlow' : -2 < n := by exact_mod_cast hlow
  have hhigh' : n < 2 ^ 51 := by exact_mod_cast hhigh
  exact Int64.toInt_ofInt_of_le (by omega) (by omega)

/-- The stored amount is the cut product of a `Double`, so it is close to the exact one. -/
theorem binary64MinorUnits_bounds {amount : Decimal} (h : decimalValue amount * 100 ≤ 2 ^ 50) :
    decimalValue amount * 100 - 3 / 2 < (binary64MinorUnits amount).toInt ∧
      (binary64MinorUnits amount).toInt < decimalValue amount * 100 + 1 / 2 := by
  have hbounds := @Binary64.toLong_times_bounds _ 100 (decimalValue_nonneg amount) (by norm_num)
    (by norm_num) (by exact_mod_cast h)
  rw [toInt_binary64MinorUnits h]
  exact_mod_cast hbounds

/-- Quarters are `Double`s, so nothing is lost on them. -/
theorem binary64MinorUnits_of_quarters {amount : Decimal} {quarters : ℕ}
    (h : decimalValue amount * 100 ≤ 2 ^ 50) (hquarters : decimalValue amount * 4 = quarters) :
    ((binary64MinorUnits amount).toInt : ℚ) = decimalValue amount * 100 := by
  have hvalue : decimalValue amount = quarters * 2 ^ (-2 : ℤ) := by
    rw [← hquarters, zpow_neg]
    norm_num
    ring
  have hbound : quarters * 25 ≤ 2 ^ 50 := by
    have hcast : (quarters : ℚ) * 25 ≤ 2 ^ 50 := by
      rw [← hquarters]
      linarith
    exact_mod_cast hcast
  have hlong := @Binary64.toLong_times_of_zpow quarters 100 (quarters * 25) (-2) (by omega)
    (by norm_num) (by norm_num) (by norm_num) hbound (by rw [zpow_neg]; push_cast; norm_num; ring)
  rw [toInt_binary64MinorUnits h, hvalue, hlong, ← hvalue]
  push_cast
  linarith

/-- Nothing to read is zero. -/
theorem binary64MinorUnits_zero : binary64MinorUnits { unscaled := 0, scale := 0 } = 0 := by
  have hvalue : decimalValue { unscaled := 0, scale := 0 } = 0 := by
    rw [decimalValue, Nat.cast_zero, zero_div]
  have hexact := @binary64MinorUnits_of_quarters { unscaled := 0, scale := 0 } 0
    (by rw [hvalue]; norm_num) (by rw [hvalue]; norm_num)
  rw [hvalue, zero_mul] at hexact
  apply Int64.toInt_inj.mp
  exact_mod_cast hexact

/-- An ungrouped number, as the parser splits it at its separator. -/
theorem numberText_cases {style : NumberStyle} (hstyle : style ∈ numberStyles)
    {whole fraction s : Text} (h : NumberText style [whole] fraction s) :
    (s = whole ∧ fraction = []) ∨
      ∃ separator, (separator = '.' ∨ separator = ',') ∧ s = whole ++ separator :: fraction := by
  have htext := h.text
  rw [List.intercalate_singleton] at htext
  rcases htext with hwhole | hpoint
  · exact Or.inl hwhole
  · refine Or.inr ⟨style.decimal, ?_, hpoint⟩
    simp only [numberStyles, List.mem_cons, List.not_mem_nil, or_false] at hstyle
    rcases hstyle with rfl | rfl
    · exact Or.inr rfl
    · exact Or.inl rfl

/-- A decimal comma becomes a point, a decimal point stays. -/
theorem normalizedAmount_append {whole fraction : Text} {separator : Char}
    (hseparator : separator = '.' ∨ separator = ',') (hwhole : ',' ∉ whole)
    (hfraction : ',' ∉ fraction) :
    normalizedAmount (whole ++ separator :: fraction) = whole ++ '.' :: fraction := by
  have hsplit : normalizedAmount (whole ++ separator :: fraction) =
      normalizedAmount whole ++
        (if separator = ',' then '.' else separator) :: normalizedAmount fraction := by
    rw [normalizedAmount, List.map_append, List.map_cons]
    rfl
  rw [hsplit, normalizedAmount_eq_self hwhole, normalizedAmount_eq_self hfraction]
  rcases hseparator with rfl | rfl <;> rfl

/-- A normalised amount has no comma. -/
theorem comma_not_mem_normalizedAmount (s : Text) : ',' ∉ normalizedAmount s := by
  intro hmem
  obtain ⟨c, -, hc⟩ := List.mem_map.mp hmem
  by_cases hcomma : c = ','
  · rw [if_pos hcomma] at hc
    cases hc
  · rw [if_neg hcomma] at hc
    exact hcomma hc

/-- A text without points is no changed one. -/
theorem eq_of_normalizedAmount_eq {s t : Text} (h : normalizedAmount s = t) (ht : '.' ∉ t) :
    s = t := by
  have hcomma : ',' ∉ s := by
    intro hmem
    apply ht
    rw [← h]
    exact List.mem_map.mpr ⟨',', hmem, rfl⟩
  rw [← h, normalizedAmount_eq_self hcomma]

/-- **An ungrouped number** is read, whichever separator it has. -/
theorem decimalOrNull_of_numberText {style : NumberStyle} (hstyle : style ∈ numberStyles)
    {whole fraction s : Text} (h : NumberText style [whole] fraction s) :
    ∃ amount, decimalOrNull (normalizedAmount s) = some amount ∧
      decimalValue amount = numberValue [whole] fraction := by
  have hflat : [whole].flatten = whole := by simp
  have hdigit := h.isDigit
  have hne := h.ne_nil
  rw [hflat] at hdigit hne
  have hdigits : DigitsAnd [] (whole ++ fraction) := fun c hc => Or.inl (hdigit c hc)
  have hnotMem : ∀ c, c.isDigit = false → c ∉ whole ∧ c ∉ fraction := by
    intro c hc
    rw [← not_or, ← List.mem_append]
    exact hdigits.not_mem ⟨hc, List.not_mem_nil⟩
  obtain ⟨hcomma, hcomma'⟩ := hnotMem ',' rfl
  obtain ⟨hpoint, hpoint'⟩ := hnotMem '.' rfl
  rw [numberValue, hflat]
  rcases numberText_cases hstyle h with ⟨rfl, rfl⟩ | ⟨separator, hseparator, rfl⟩
  · rw [List.append_nil] at hne
    rw [normalizedAmount_eq_self hcomma, decimalOrNull_whole hpoint hne, List.append_nil]
    exact ⟨_, rfl, rfl⟩
  · rw [normalizedAmount_append hseparator hcomma hcomma', decimalOrNull_append hpoint hpoint' hne]
    exact ⟨_, rfl, rfl⟩

/-- The separator that became the point. -/
theorem exists_separator {s whole fraction : Text} (hwhole : '.' ∉ whole)
    (hfraction : '.' ∉ fraction) (h : normalizedAmount s = whole ++ '.' :: fraction) :
    ∃ separator, (separator = '.' ∨ separator = ',') ∧ s = whole ++ separator :: fraction := by
  obtain ⟨left, right, rfl, hleft, hright⟩ := List.map_eq_append_iff.mp h
  obtain ⟨separator, right', rfl, hsep, hright'⟩ := List.map_eq_cons_iff.mp hright
  refine ⟨separator, ?_, ?_⟩
  · by_cases hcomma : separator = ','
    · exact Or.inr hcomma
    · rw [if_neg hcomma] at hsep
      exact Or.inl hsep
  · rw [eq_of_normalizedAmount_eq hleft hwhole, eq_of_normalizedAmount_eq hright' hfraction]

/-- A text of digits, with its only separator. -/
theorem numberText_of_separator {separator : Char} (h : separator = '.' ∨ separator = ',')
    {whole fraction s : Text} (hdigit : ∀ c ∈ whole ++ fraction, c.isDigit = true)
    (hne : whole ++ fraction ≠ [])
    (htext : (s = whole ∧ fraction = []) ∨ s = whole ++ separator :: fraction) :
    ∃ style ∈ numberStyles, NumberText style [whole] fraction s := by
  have hflat : [whole].flatten = whole := by simp
  have hstyle : ∀ style : NumberStyle, style.decimal = separator →
      NumberText style [whole] fraction s := by
    intro style hdecimal
    refine ⟨by rwa [hflat], by rwa [hflat], trivial, ?_⟩
    rw [List.intercalate_singleton, hdecimal]
    exact htext
  rcases h with rfl | rfl
  · exact ⟨{ thousands := ',', decimal := '.' }, by simp [numberStyles], hstyle _ rfl⟩
  · exact ⟨{ thousands := '.', decimal := ',' }, by simp [numberStyles], hstyle _ rfl⟩

/-- Only ungrouped numbers are read. -/
theorem numberText_of_isSome {amountStr : Text}
    (h : (decimalOrNull (normalizedAmount (cleanAmount amountStr))).isSome = true) :
    ∃ style ∈ numberStyles, ∃ whole fraction,
      NumberText style [whole] fraction (cleanAmount amountStr) := by
  obtain ⟨whole, fraction, htext, hpoint, hne⟩ := decimalOrNull_isSome h
  have hclean := digitsAnd_cleanAmount amountStr
  have hcomma := comma_not_mem_normalizedAmount (cleanAmount amountStr)
  rcases htext with ⟨hwhole, rfl⟩ | hsplit
  · rw [List.append_nil] at hpoint hne
    rw [hwhole] at hcomma
    rw [eq_of_normalizedAmount_eq hwhole hpoint] at hclean ⊢
    have hdigit := hclean.isDigit (by simp [hpoint, hcomma])
    obtain ⟨style, hstyle, hnumber⟩ := @numberText_of_separator '.' (Or.inl rfl) whole [] whole
      (by rwa [List.append_nil]) (by rwa [List.append_nil]) (Or.inl ⟨rfl, rfl⟩)
    exact ⟨style, hstyle, whole, [], hnumber⟩
  · have hpoint' := hpoint
    rw [List.mem_append, not_or] at hpoint'
    obtain ⟨separator, hseparator, hcut⟩ := exists_separator hpoint'.1 hpoint'.2 hsplit
    rw [hsplit, List.mem_append, List.mem_cons, not_or, not_or] at hcomma
    have hdigits : DigitsAnd ['.', ','] (whole ++ fraction) := by
      rw [hcut, digitsAnd_append_iff, DigitsAnd, DigitsAnd, List.forall_mem_cons] at hclean
      exact digitsAnd_append_iff.mpr ⟨hclean.1, hclean.2.2⟩
    have hdigit := hdigits.isDigit (by simp [hpoint'.1, hpoint'.2, hcomma.1, hcomma.2.2])
    obtain ⟨style, hstyle, hnumber⟩ := numberText_of_separator hseparator hdigit hne (Or.inr hcut)
    exact ⟨style, hstyle, whole, fraction, hnumber⟩

/-- **What the parser makes of an amount text.** -/
theorem amountRead_parseAmount (amountStr : Text) :
    AmountRead amountStr (parseAmount binary64MinorUnits amountStr) where
  zero hnone := by
    have hread : decimalOrNull (normalizedAmount (cleanAmount amountStr)) = none := by
      by_contra hsome
      obtain ⟨style, hstyle, whole, fraction, htext⟩ :=
        numberText_of_isSome (Option.isSome_iff_ne_none.mpr hsome)
      exact hnone style hstyle [whole] fraction htext
    rw [parseAmount, hread]
    exact binary64MinorUnits_zero
  near _ style hstyle whole fraction htext hle := by
    obtain ⟨amount, hread, hvalue⟩ := decimalOrNull_of_numberText hstyle htext
    rw [← hvalue] at hle ⊢
    rw [parseAmount, hread]
    exact binary64MinorUnits_bounds hle
  exact _ style hstyle whole fraction htext hle hquarters := by
    obtain ⟨amount, hread, hvalue⟩ := decimalOrNull_of_numberText hstyle htext
    obtain ⟨quarters, hquarters⟩ := hquarters
    rw [← hvalue] at hle hquarters ⊢
    rw [parseAmount, hread]
    exact binary64MinorUnits_of_quarters hle hquarters

/-! ### Dates -/

/-- The text is that of no date of the common era whose start is a `Long`. -/
def NoDate (formatter : List PatternItem) (s : Text) : Prop :=
  ∀ d : LocalDate, 1 ≤ d.year → d.year ≤ 999999999 → (startOfDayMillis d).isSome = true →
    format formatter d ≠ s

/-- The text follows the format, and `d` is the date that it gives: a day that its month
does not have stands for the last one. -/
def GivesDate (formatter : List PatternItem) (s : Text) (d : LocalDate) : Prop :=
  1 ≤ d.year ∧ ∃ day, 1 ≤ day ∧ day ≤ 31 ∧ d.day = min day (daysInMonth d.year d.month) ∧
    DateText formatter d.year d.month day s

/-- **The date of a record**, against its text: the start of the date in the first format
that reads it, or else the clock. -/
def DateRead (now : ℤ) (dateStr : Text) (date : ℤ) : Prop :=
  (∃ earlier formatter later d, formatters = earlier ++ formatter :: later ∧
    GivesDate formatter (trim dateStr) d ∧ date = atStartOfDay d ∧
      ∀ other ∈ earlier, NoDate other (trim dateStr)) ∨
  (date = now ∧ ∀ formatter ∈ formatters, NoDate formatter (trim dateStr))

/-- Every format that is tried is one of a date. -/
theorem datePattern_of_mem_formatters :
    ∀ formatter ∈ formatters, DatePattern formatter := by
  decide

/-- A day that is accepted is its first instant in UTC. -/
theorem startOfDayMillis_eq_some {d : LocalDate} {date : ℤ} (h : startOfDayMillis d = some date) :
    date = atStartOfDay d := by
  rw [startOfDayMillis] at h
  split at h
  next => exact (Option.some.inj h).symm
  next => cases h

/-- A format that does not read a text does not write it. -/
theorem noDate_of_eq_none {formatter : List PatternItem} (hmem : formatter ∈ formatters)
    {s : Text} (h : (parse formatter s).bind startOfDayMillis = none) : NoDate formatter s := by
  rintro d hyear hyear' hstart rfl
  rw [parse_format (datePattern_of_mem_formatters formatter hmem) d hyear hyear',
    Option.bind_some] at h
  rw [h] at hstart
  cases hstart

/-- **What the parser makes of a date text.** -/
theorem dateRead_parseDate (now : ℤ) (dateStr : Text) :
    DateRead now dateStr (parseDate now dateStr) := by
  rw [parseDate]
  cases hread : formatters.findSome? fun formatter =>
      (parse formatter (trim dateStr)).bind startOfDayMillis with
  | none =>
      rw [List.findSome?_eq_none_iff] at hread
      exact Or.inr ⟨rfl, fun formatter hmem => noDate_of_eq_none hmem (hread formatter hmem)⟩
  | some date =>
      obtain ⟨earlier, formatter, later, hsplit, hdate, hearlier⟩ :=
        List.findSome?_eq_some_iff.mp hread
      obtain ⟨d, hparse, hstart⟩ := Option.bind_eq_some_iff.mp hdate
      have hmem : formatter ∈ formatters := by
        rw [hsplit]
        simp
      obtain ⟨hyear, -, hday⟩ := parse_eq_some (datePattern_of_mem_formatters formatter hmem) hparse
      refine Or.inl ⟨earlier, formatter, later, d, hsplit, ⟨hyear, hday⟩,
        startOfDayMillis_eq_some hstart, ?_⟩
      intro other hother
      refine noDate_of_eq_none ?_ (hearlier other hother)
      rw [hsplit]
      exact List.mem_append_left _ hother

/-! ### Records -/

/-- The amount of a line, under either of two names. -/
def amountColumn (header values : List Text) : Option Text :=
  column header values "amount".toList <|> column header values "Amount".toList

/-- The date of a line, under either of two names. -/
def dateColumn (header values : List Text) : Option Text :=
  column header values "date".toList <|> column header values "Date".toList

/-- The line has as many values as the header has names, an amount and a date among
them. -/
def Importable (header : List Text) (line : Text) : Prop :=
  (parseCsvLine line).length = header.length ∧
    (amountColumn header (parseCsvLine line)).isSome = true ∧
      (dateColumn header (parseCsvLine line)).isSome = true

/-- Whether a line can be imported is decided by its columns. -/
instance (header : List Text) (line : Text) : Decidable (Importable header line) := by
  rw [Importable]
  infer_instance

/-- A record, against the line that it comes from. -/
def RecordOf (header : List Text) (now : ℤ) (line : Text) (t : CsvTransaction) : Prop :=
  ∃ amountStr dateStr, amountColumn header (parseCsvLine line) = some amountStr ∧
    dateColumn header (parseCsvLine line) = some dateStr ∧ AmountRead amountStr t.amount ∧
      DateRead now dateStr t.date

/-- A line with an amount and a date is a record with these, as they are parsed. -/
theorem parseTransactionLine_of_columns {minorUnits : Decimal → Int64} {header : List Text}
    {line amountStr dateStr : Text} (hlength : (parseCsvLine line).length = header.length)
    (hamount : amountColumn header (parseCsvLine line) = some amountStr)
    (hdate : dateColumn header (parseCsvLine line) = some dateStr) (now : ℤ) :
    ∃ t, parseTransactionLine minorUnits now line header = some t ∧
      t.amount = parseAmount minorUnits amountStr ∧ t.date = parseDate now dateStr := by
  rw [amountColumn] at hamount
  rw [dateColumn] at hdate
  simp only [parseTransactionLine]
  rw [if_neg (not_not_intro hlength), hamount, hdate]
  exact ⟨_, rfl, rfl, rfl⟩

/-- **Importable lines** have a record. -/
theorem parseTransactionLine_of_importable {header : List Text} {line : Text}
    (h : Importable header line) (now : ℤ) :
    ∃ t, parseTransactionLine binary64MinorUnits now line header = some t ∧
      RecordOf header now line t := by
  obtain ⟨hlength, hamount, hdate⟩ := h
  obtain ⟨amountStr, hamount⟩ := Option.isSome_iff_exists.mp hamount
  obtain ⟨dateStr, hdate⟩ := Option.isSome_iff_exists.mp hdate
  obtain ⟨t, ht, htamount, htdate⟩ :=
    @parseTransactionLine_of_columns binary64MinorUnits _ _ _ _ hlength hamount hdate now
  refine ⟨t, ht, amountStr, dateStr, hamount, hdate, ?_, ?_⟩
  · rw [htamount]
    exact amountRead_parseAmount amountStr
  · rw [htdate]
    exact dateRead_parseDate now dateStr

/-- The others are skipped. -/
theorem parseTransactionLine_of_not_importable {minorUnits : Decimal → Int64}
    {header : List Text} {line : Text} (h : ¬ Importable header line) (now : ℤ) :
    parseTransactionLine minorUnits now line header = none := by
  simp only [parseTransactionLine]
  split
  next => rfl
  next hlength =>
    have hcolumns : amountColumn header (parseCsvLine line) = none ∨
        dateColumn header (parseCsvLine line) = none := by
      by_contra hboth
      rw [not_or] at hboth
      exact h ⟨not_not.mp hlength, Option.isSome_iff_ne_none.mpr hboth.1,
        Option.isSome_iff_ne_none.mpr hboth.2⟩
    rw [amountColumn, dateColumn] at hcolumns
    rcases hcolumns with hamount | hdate
    · rw [hamount, Option.bind_none]
    · rw [hdate]
      exact Option.bind_fun_none _

/-- A filtered map, element by element. -/
theorem forall₂_filter_filterMap {α β : Type*} {p : α → Prop} [DecidablePred p] {f : α → Option β}
    {R : α → β → Prop} (hsome : ∀ a, p a → ∃ b, f a = some b ∧ R a b)
    (hnone : ∀ a, ¬ p a → f a = none) (l : List α) :
    List.Forall₂ R (l.filter p) (l.filterMap f) := by
  induction l with
  | nil => exact List.Forall₂.nil
  | cons a l ih =>
      by_cases ha : p a
      · obtain ⟨b, hb, hab⟩ := hsome a ha
        rw [List.filter_cons_of_pos (by simpa using ha), List.filterMap_cons_some hb]
        exact List.Forall₂.cons hab ih
      · rw [List.filter_cons_of_neg (by simpa using ha), List.filterMap_cons_none (hnone a ha)]
        exact ih

/-- The records are those of the importable lines, in order. -/
def RecordsAccounted (now : ℕ → ℤ) (csvContent : Text) : Prop :=
  ∃ header dataLines, contentLines csvContent = header :: dataLines ∧
    List.Forall₂ (fun line t => RecordOf (headerNames header) (now line.2) line.1 t)
      (dataLines.zipIdx.filter fun line => Importable (headerNames header) line.1)
      (parseTransactions binary64MinorUnits now csvContent)

/-- **Every record is accounted for**: the importable lines give one each, with the amount
and the date of their texts, and the other lines give none. -/
theorem records_accounted (now : ℕ → ℤ) (csvContent : Text) : RecordsAccounted now csvContent := by
  obtain ⟨header, dataLines, hlines⟩ := List.exists_cons_of_ne_nil
    (List.splitOn_ne_nil '\n' (trim csvContent))
  refine ⟨header, dataLines, hlines, ?_⟩
  have hrecords : parseTransactions binary64MinorUnits now csvContent =
      dataLines.zipIdx.filterMap fun line =>
        parseTransactionLine binary64MinorUnits (now line.2) line.1 (headerNames header) := by
    rw [parseTransactions, contentLines, hlines]
  rw [hrecords]
  exact forall₂_filter_filterMap
    (fun line hline => parseTransactionLine_of_importable hline (now line.2))
    (fun line hline => parseTransactionLine_of_not_importable hline (now line.2)) _

/-! ### Invented data -/

/-- A record comes from a line whose texts denote its amount and its day. -/
def InventsNothing (now : ℕ → ℤ) (csvContent : Text) : Prop :=
  ∀ t ∈ parseTransactions binary64MinorUnits now csvContent,
    ∃ header dataLines i line amountStr dateStr, contentLines csvContent = header :: dataLines ∧
      dataLines[i]? = some line ∧
      parseTransactionLine binary64MinorUnits (now i) line (headerNames header) = some t ∧
      amountColumn (headerNames header) (parseCsvLine line) = some amountStr ∧
      dateColumn (headerNames header) (parseCsvLine line) = some dateStr ∧
      AmountDenotes amountStr (t.amount.toInt / 100) ∧
      ∃ formatter ∈ formatters, ∃ d, format formatter d = trim dateStr ∧ t.date = atStartOfDay d

/-- A line without a date is imported, with the time of the import for its date. -/
theorem not_inventsNothing_someday :
    ¬ InventsNothing (fun _ => 1700000000000) "Date,Amount\nsomeday,1".toList := by
  intro h
  have hlines : contentLines "Date,Amount\nsomeday,1".toList =
      ["Date,Amount".toList, "someday,1".toList] := by decide
  have hdate : dateColumn (headerNames "Date,Amount".toList) (parseCsvLine "someday,1".toList) =
      some "someday".toList := by decide
  have hamount : amountColumn (headerNames "Date,Amount".toList)
      (parseCsvLine "someday,1".toList) = some "1".toList := by decide
  obtain ⟨t, ht, -, -⟩ := @parseTransactionLine_of_columns binary64MinorUnits _ _ _ _ (by decide)
    hamount hdate 1700000000000
  obtain ⟨header, dataLines, i, line, amountStr, dateStr, hlines', hline, -, -, hdate', -,
    formatter, hformatter, d, hformat, -⟩ :=
    h t (mem_parseTransactions.mpr ⟨_, _, 0, _, hlines, rfl, ht⟩)
  rw [hlines, List.cons.injEq] at hlines'
  obtain ⟨rfl, rfl⟩ := hlines'
  obtain rfl : line = "someday,1".toList := List.mem_singleton.mp (List.mem_of_getElem? hline)
  obtain rfl : "someday".toList = dateStr := Option.some.inj (hdate.symm.trans hdate')
  have hmarks : ∀ formatter ∈ formatters, ∀ c, .literal c ∈ formatter → c ∈ ['+', '-', '/'] := by
    simp [formatters]
  have hdigits := digitsAnd_format (by simp) (hmarks formatter hformatter) d
  rw [hformat] at hdigits
  exact hdigits.not_mem ⟨rfl, by decide⟩ (by decide : 's' ∈ trim "someday".toList)

end CsvParser

end SpendCraft
