import SpendCraft.Lib.JavaTime
import SpendCraft.Model

/-!
# The CSV Exporter

`CsvExporter.exportTransactions` writes a header and one line per transaction, joined by
line feeds. The note and the category are quoted when they contain a comma, a quote or a
line feed; the date, the amount and the type are written as they are. The amount goes
through `String.format("%.2f", …)` of a double, whose decimal separator is the one of the
device's locale.

## Conventions

What `String.format` makes of a double is a parameter, `AmountFormat`: the separator of the
locale, and the printed number of hundredths, for each amount. So nothing is assumed of the
rounding unless a theorem asks for `AmountFormat.exact`. The category of a line is the text of its
id, or `Diğer`, and the type is one of two words. The date is that of UTC.

## Proof

The characters that can occur in the fields without quotes are bounded first, by the set
`DigitsAnd` of `Lib.KotlinNumber`; with that, the commas and the line feeds of a line are known to
be those that separate, or to stand in a quoted field. The module `CsvRoundTrip` uses these
lemmas, and nothing else about the writer.

## Main results

* `escapeCsvField_eq_self`, `escapeCsvField_eq_quoted`: what is left as it is and what is
  quoted.
* `digitsAnd_amountText`, `digitsAnd_formatDate`: the characters of the fields that are
  never quoted.
* `trimmed_formatTransactionForCsv`, `newline_mem_formatTransactionForCsv_iff`: the ends of a
  line, and the line feeds in it.
-/

namespace SpendCraft

open Kotlin

/-- The decimal separator of a locale. -/
inductive DecimalSeparator
  | point
  | comma
  deriving DecidableEq, Repr

/-- The character of the separator. -/
def DecimalSeparator.toChar : DecimalSeparator → Char
  | .point => '.'
  | .comma => ','

/-- What `String.format("%.2f", amountMinor / 100.0)` depends on: the separator of the
locale, and the printed value, in hundredths, for each amount. -/
structure AmountFormat where
  decimalSeparator : DecimalSeparator
  hundredths : ℤ → ℤ

/-- Exact decimal arithmetic. -/
def AmountFormat.exact (decimalSeparator : DecimalSeparator) : AmountFormat :=
  { decimalSeparator := decimalSeparator, hundredths := id }

namespace CsvExporter

/-- The first line of the file. -/
def header : Text :=
  "Date,Amount,Description,Category,Type".toList

/-- `formatDate`: the ISO date of the day in UTC. -/
def formatDate (timestampMillis : ℤ) : Text :=
  JavaTime.format JavaTime.isoPattern (JavaTime.utcDate timestampMillis)

/-- A number of hundredths with two decimals. -/
def amountText (decimalSeparator : DecimalSeparator) (hundredths : ℤ) : Text :=
  (if hundredths < 0 then ['-'] else []) ++ (Nat.toDigits 10 (hundredths.natAbs / 100) ++
    decimalSeparator.toChar :: padStart (Nat.toDigits 10 (hundredths.natAbs % 100)) 2 '0')

/-- `formatAmount`: the amount in major units with two decimals, as the format of the locale
writes it. -/
def formatAmount (fmt : AmountFormat) (amountMinor : Int64) : Text :=
  amountText fmt.decimalSeparator (fmt.hundredths amountMinor.toInt)

/-- `String.replace` of a quote by two. -/
def doubleQuotes (field : Text) : Text :=
  field.flatMap fun c => if c = '"' then ['"', '"'] else [c]

/-- `escapeCsvField`: a field with a comma, a quote or a line break is quoted. -/
def escapeCsvField (field : Text) : Text :=
  if contains field [','] || contains field ['"'] || contains field ['\n'] then
    '"' :: (doubleQuotes field ++ ['"'])
  else field

/-- The column of the category: its id, not its name. -/
def categoryText (transaction : Transaction) : Text :=
  match transaction.categoryId with
  | some categoryId => intText categoryId
  | none => "Diğer".toList

/-- The column of the type. -/
def typeText (type : TransactionType) : Text :=
  if type = .income then "Gelir".toList else "Gider".toList

/-- `formatTransactionForCsv`: date, amount and type are written as they are, the other two
columns escaped. -/
def formatTransactionForCsv (fmt : AmountFormat) (transaction : Transaction) : Text :=
  let date := formatDate transaction.timestampUtcMillis
  let amount := formatAmount fmt transaction.amount.minorUnits
  let description := escapeCsvField (transaction.note.getD [])
  let category := escapeCsvField (categoryText transaction)
  let type := typeText transaction.type
  date ++ ',' :: (amount ++ ',' :: (description ++ ',' :: (category ++ ',' :: type)))

/-- `exportTransactions`: the header and a line for each transaction, without a line break at the
end. -/
def exportTransactions (fmt : AmountFormat) (transactions : List Transaction) : Text :=
  ['\n'].intercalate (header :: transactions.map (formatTransactionForCsv fmt))

/-! ### The fields -/

/-- A field without quotes has none to double. -/
theorem doubleQuotes_eq_self {field : Text} (h : '"' ∉ field) : doubleQuotes field = field := by
  induction field with
  | nil => rfl
  | cons c field ih =>
      rw [List.mem_cons, not_or] at h
      rw [doubleQuotes, List.flatMap_cons, if_neg (Ne.symm h.1), List.singleton_append]
      exact congrArg (c :: ·) (ih h.2)

/-- A field without comma, quote and line feed is written as it is. -/
theorem escapeCsvField_eq_self {field : Text} (hcomma : ',' ∉ field) (hquote : '"' ∉ field)
    (hline : '\n' ∉ field) : escapeCsvField field = field := by
  rw [escapeCsvField, if_neg]
  simp only [Bool.or_eq_true, contains_singleton_iff]
  rintro ((h | h) | h)
  · exact hcomma h
  · exact hquote h
  · exact hline h

/-- A field with one of the three is quoted. -/
theorem escapeCsvField_eq_quoted {field : Text}
    (h : ',' ∈ field ∨ '"' ∈ field ∨ '\n' ∈ field) :
    escapeCsvField field = '"' :: (doubleQuotes field ++ ['"']) := by
  rw [escapeCsvField, if_pos]
  simp only [Bool.or_eq_true, contains_singleton_iff]
  exact or_assoc.mpr h

/-- Quoting adds and removes no other character. -/
theorem mem_escapeCsvField {field : Text} {c : Char} (hc : c ≠ '"') :
    c ∈ escapeCsvField field ↔ c ∈ field := by
  rw [escapeCsvField]
  split
  next =>
    simp only [doubleQuotes, List.mem_cons, List.mem_append, List.mem_flatMap, hc, false_or,
      List.not_mem_nil, or_false]
    constructor
    · rintro ⟨d, hd, hmem⟩
      split at hmem
      next => simp [hc] at hmem
      next =>
        rw [List.mem_singleton] at hmem
        rw [hmem]
        exact hd
    · intro hmem
      exact ⟨c, hmem, by simp [hc]⟩
  next => rfl

/-- A sign is a minus or nothing. -/
theorem digitsAnd_sign {marks : Text} (hminus : '-' ∈ marks) (n : ℤ) :
    DigitsAnd marks (if n < 0 then ['-'] else []) := by
  split
  next => exact digitsAnd_of_subset (by simpa using hminus)
  next => exact List.forall_mem_nil _

/-- An amount is written with digits, a minus and the separator. -/
theorem digitsAnd_amountText (sep : DecimalSeparator) (hundredths : ℤ) :
    DigitsAnd ['-', sep.toChar] (amountText sep hundredths) := by
  rw [amountText, digitsAnd_append_iff, digitsAnd_append_iff]
  refine ⟨digitsAnd_sign (by simp) _, digitsAnd_toDigits _ _, ?_⟩
  rw [DigitsAnd, List.forall_mem_cons]
  exact ⟨Or.inr (by simp), digitsAnd_padStart _ _ _⟩

/-- The text of an amount that is not negative reads as the amount. -/
theorem decimalOrNull_amountText (n : ℕ) :
    decimalOrNull (amountText .point n) = some { unscaled := n, scale := 2 } := by
  have htext : amountText .point n =
      Nat.toDigits 10 (n / 100) ++ '.' :: padStart (Nat.toDigits 10 (n % 100)) 2 '0' := by
    rw [amountText, if_neg (by omega), Int.natAbs_natCast, List.nil_append]
    rfl
  have hwhole := @digitsAnd_toDigits [] (n / 100)
  have hfraction := @digitsAnd_padStart [] (n % 100) 2
  have hlt : n % 100 < 10 ^ 2 := Nat.mod_lt n (by decide)
  have hvalue : Nat.ofDigitChars 10 (Nat.toDigits 10 (n / 100) ++
      padStart (Nat.toDigits 10 (n % 100)) 2 '0') 0 = n := by
    rw [ofDigitChars_append_padStart _ (by decide) hlt, Nat.ofDigitChars_ten_toDigits]
    exact Nat.div_add_mod n 100
  have hne : Nat.toDigits 10 (n / 100) ++ padStart (Nat.toDigits 10 (n % 100)) 2 '0' ≠ [] :=
    List.append_ne_nil_of_left_ne_nil Nat.toDigits_ne_nil _
  rw [htext, decimalOrNull_append (hwhole.not_mem (by decide)) (hfraction.not_mem (by decide)) hne,
    hvalue, length_padStart_toDigits (by decide) hlt]

/-- A date is written with digits and signs. -/
theorem digitsAnd_formatDate (timestampMillis : ℤ) :
    DigitsAnd ['-', '+'] (formatDate timestampMillis) :=
  JavaTime.digitsAnd_format (by simp) (by simp [JavaTime.isoPattern]) _

/-- Numbers and dates are not quoted. -/
theorem escapeCsvField_of_digitsAnd {marks field : Text} (h : DigitsAnd marks field)
    (hmarks : ',' ∉ marks ∧ '"' ∉ marks ∧ '\n' ∉ marks) : escapeCsvField field = field :=
  escapeCsvField_eq_self (h.not_mem ⟨rfl, hmarks.1⟩) (h.not_mem ⟨rfl, hmarks.2.1⟩)
    (h.not_mem ⟨rfl, hmarks.2.2⟩)

/-! ### Lines -/

/-- A date has no blanks around it. -/
theorem trimmed_formatDate (timestampMillis : ℤ) : Trimmed (formatDate timestampMillis) :=
  (digitsAnd_formatDate timestampMillis).trimmed (by decide)

/-- An amount has no blanks around it. -/
theorem trimmed_amountText (sep : DecimalSeparator) (hundredths : ℤ) :
    Trimmed (amountText sep hundredths) :=
  (digitsAnd_amountText sep hundredths).trimmed (by cases sep <;> decide)

/-- The category column has no blanks around it. -/
theorem trimmed_categoryText (transaction : Transaction) : Trimmed (categoryText transaction) := by
  rw [categoryText]
  split
  next => exact (@digitsAnd_intText ['-'] (by simp) _).trimmed (by decide)
  next => decide

/-- The type column is a word. -/
theorem trimmed_typeText (type : TransactionType) :
    Trimmed (typeText type) ∧ typeText type ≠ [] := by
  cases type <;> decide

/-- A date is never empty. -/
theorem formatDate_ne_nil (timestampMillis : ℤ) : formatDate timestampMillis ≠ [] := by
  simp [formatDate, JavaTime.format, JavaTime.isoPattern, JavaTime.printItem]

/-- A line neither begins nor ends with white space. -/
theorem trimmed_formatTransactionForCsv (fmt : AmountFormat) (transaction : Transaction) :
    Trimmed (formatTransactionForCsv fmt transaction) ∧
      formatTransactionForCsv fmt transaction ≠ [] := by
  obtain ⟨htype, htypene⟩ := trimmed_typeText transaction.type
  have hdate := trimmed_formatDate transaction.timestampUtcMillis
  have hdatene := formatDate_ne_nil transaction.timestampUtcMillis
  have htrim := trimmed_append hdate hdatene htype htypene
    (',' :: (formatAmount fmt transaction.amount.minorUnits ++ ',' ::
      (escapeCsvField (transaction.note.getD []) ++ ',' ::
        (escapeCsvField (categoryText transaction) ++ [',']))))
  refine ⟨?_, by simp [formatTransactionForCsv, hdatene]⟩
  simpa [formatTransactionForCsv] using htrim

/-- The category column is on one line. -/
theorem newline_not_mem_categoryText (transaction : Transaction) :
    '\n' ∉ categoryText transaction := by
  rw [categoryText]
  split
  next => exact (@digitsAnd_intText ['-'] (by simp) _).not_mem (by decide)
  next => decide

/-- A line feed can only come from the note. -/
theorem newline_mem_formatTransactionForCsv_iff (fmt : AmountFormat) (transaction : Transaction) :
    '\n' ∈ formatTransactionForCsv fmt transaction ↔ '\n' ∈ transaction.note.getD [] := by
  have hdate : '\n' ∉ formatDate transaction.timestampUtcMillis :=
    (digitsAnd_formatDate _).not_mem (by decide)
  have hamount : '\n' ∉ formatAmount fmt transaction.amount.minorUnits :=
    (digitsAnd_amountText _ _).not_mem (by cases fmt.decimalSeparator <;> decide)
  have hcategory : '\n' ∉ escapeCsvField (categoryText transaction) := by
    rw [mem_escapeCsvField (by decide)]
    exact newline_not_mem_categoryText transaction
  have htype : '\n' ∉ typeText transaction.type := by
    cases transaction.type <;> decide
  simp only [formatTransactionForCsv, List.mem_append, List.mem_cons, hdate, hamount, hcategory,
    htype, mem_escapeCsvField (c := '\n') (by decide), false_or, or_false, Char.reduceEq]

end CsvExporter

end SpendCraft
