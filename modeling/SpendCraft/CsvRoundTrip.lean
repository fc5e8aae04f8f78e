import SpendCraft.CsvExporter
import SpendCraft.CsvParser
import Mathlib.Data.List.Forall2

/-!
# Exporting and Parsing Again

The exporter and the parser of the CSV format are written independently of each other.
This module runs the one behind the other: first the structure of the text (lines and
values), then its content.

## Conventions

The structure of a content is its lines and the number of values in each; its content is the
amount, the note, the type and the day of every record, in the order of the transactions. The
structure is treated for any `AmountFormat`, since a decimal comma already splits a line, whatever
number is printed. The content is treated with exact arithmetic on both sides, so that what is
lost is lost by the format and not by rounding, and for transactions that can be written down at
all (`Exportable`).

## Proof

The line automaton is the inverse of the quoting, by induction on the list of fields
(`parseCsvLine_intercalate`). The content is then a comparison of one line with one transaction:
the column `Type` of the exporter is not one of the names that the parser looks for, and years of
the era have no sign.

## Main results

* `parseCsvLine_intercalate`: the line automaton inverts the quoting of fields, up to the
  trimming of each value; `parseCsvLine_escaped`: it does so where there is nothing to trim.
* `structureSurvives_iff`: the lines and their values survive exactly when no note has a
  line feed and the decimal separator is a point.
* `contentSurvives_iff`: with exact arithmetic, the content survives exactly when there
  are only expenses, of the years from 1 on.
-/

namespace SpendCraft

open Kotlin Calendar JavaTime CsvExporter CsvParser

/-! ### Fields -/

namespace CsvParser

/-- A field with its quotes doubled is read back inside quotes. -/
theorem parseFields_doubleQuotes (field current rest : Text) :
    parseFields true false current (doubleQuotes field ++ rest) =
      parseFields true false (current ++ field) rest := by
  induction field generalizing current with
  | nil => rw [List.append_nil]; rfl
  | cons c field ih =>
      rw [doubleQuotes, List.flatMap_cons]
      by_cases hc : c = '"'
      · rw [if_pos hc, hc]
        rw [List.append_assoc, List.cons_append, List.singleton_append, parseFields_doubled]
        exact (ih _).trans (by rw [List.append_assoc, List.singleton_append])
      · rw [if_neg hc, List.append_assoc, List.singleton_append,
          parseFields_cons hc (Or.inr rfl)]
        exact (ih _).trans (by rw [List.append_assoc, List.singleton_append])

/-- **An escaped field** is read as the field, whatever follows except a quote. -/
theorem parseFields_escapeCsvField (field : Text) {rest : Text} (hrest : rest.head? ≠ some '"') :
    parseFields false false [] (escapeCsvField field ++ rest) =
      parseFields false false field rest := by
  by_cases h : ',' ∈ field ∨ '"' ∈ field ∨ '\n' ∈ field
  · rw [escapeCsvField_eq_quoted h, List.cons_append, parseFields_opening, List.append_assoc,
      parseFields_doubleQuotes, List.nil_append, List.singleton_append,
      parseFields_closing hrest]
  · simp only [not_or] at h
    rw [escapeCsvField_eq_self h.1 h.2.1 h.2.2, parseFields_plain h.2.1 h.1, List.nil_append]

/-- **The line automaton inverts the quoting**, up to trimming. -/
theorem parseCsvLine_intercalate {fields : List Text} (hne : fields ≠ []) :
    parseCsvLine ([','].intercalate (fields.map escapeCsvField)) = fields.map trim := by
  obtain ⟨field, fields, rfl⟩ := List.exists_cons_of_ne_nil hne
  rw [parseCsvLine]
  clear hne
  induction fields generalizing field with
  | nil =>
      have hline : parseFields false false [] (escapeCsvField field ++ []) =
          parseFields false false field [] := parseFields_escapeCsvField field (by simp)
      rw [List.append_nil, parseFields] at hline
      simpa using hline
  | cons field₂ fields ih =>
      rw [List.map_cons, List.map_cons, List.intercalate_cons_cons, List.append_assoc,
        parseFields_escapeCsvField field (by simp), List.singleton_append, parseFields_comma,
        ← List.map_cons, ih field₂]
      rfl

/-- **Quoting is inverted** where no field starts or ends with white space, whatever else the
fields contain. -/
theorem parseCsvLine_escaped {fields : List Text} (hne : fields ≠ [])
    (htrimmed : ∀ field ∈ fields, Trimmed field) :
    parseCsvLine ([','].intercalate (fields.map escapeCsvField)) = fields := by
  rw [parseCsvLine_intercalate hne]
  conv_rhs => rw [← List.map_id fields]
  apply List.map_congr_left
  intro field hfield
  exact trim_of_trimmed (htrimmed field hfield)

/-- An empty field, and quotes, commas and line breaks at the ends of fields. -/
theorem parseCsvLine_escaped_ends :
    parseCsvLine ([','].intercalate
        (["\"\"".toList, [], ",a\nb,".toList, "say \"no\"".toList].map escapeCsvField)) =
      ["\"\"".toList, [], ",a\nb,".toList, "say \"no\"".toList] :=
  parseCsvLine_escaped (List.cons_ne_nil _ _) (by decide)

end CsvParser

/-! ### The structure -/

/-- A date needs no quotes. -/
theorem escapeCsvField_formatDate (timestampMillis : ℤ) :
    escapeCsvField (formatDate timestampMillis) = formatDate timestampMillis :=
  escapeCsvField_of_digitsAnd (digitsAnd_formatDate timestampMillis) (by decide)

/-- A type needs no quotes. -/
theorem escapeCsvField_typeText (type : TransactionType) :
    escapeCsvField (typeText type) = typeText type := by
  cases type <;> decide

/-- With a decimal point, a line has five fields. -/
theorem formatTransactionForCsv_point {fmt : AmountFormat} (hsep : fmt.decimalSeparator = .point)
    (transaction : Transaction) :
    formatTransactionForCsv fmt transaction =
      [','].intercalate ([formatDate transaction.timestampUtcMillis,
        formatAmount fmt transaction.amount.minorUnits, transaction.note.getD [],
        categoryText transaction, typeText transaction.type].map escapeCsvField) := by
  have hamount : escapeCsvField (formatAmount fmt transaction.amount.minorUnits) =
      formatAmount fmt transaction.amount.minorUnits := by
    rw [formatAmount, hsep]
    exact escapeCsvField_of_digitsAnd (digitsAnd_amountText .point _) (by decide)
  simp only [List.map_cons, List.map_nil, escapeCsvField_formatDate, hamount,
    escapeCsvField_typeText, List.intercalate_cons_cons, List.intercalate_singleton,
    List.append_assoc, List.singleton_append, formatTransactionForCsv]

/-- With a decimal comma, the amount falls into two fields. -/
theorem formatTransactionForCsv_comma {fmt : AmountFormat} (hsep : fmt.decimalSeparator = .comma)
    (transaction : Transaction) :
    ∃ whole fraction, formatTransactionForCsv fmt transaction =
      [','].intercalate ([formatDate transaction.timestampUtcMillis, whole, fraction,
        transaction.note.getD [], categoryText transaction,
        typeText transaction.type].map escapeCsvField) := by
  generalize hh : fmt.hundredths transaction.amount.minorUnits.toInt = h
  refine ⟨(if h < 0 then ['-'] else []) ++ Nat.toDigits 10 (h.natAbs / 100),
    padStart (Nat.toDigits 10 (h.natAbs % 100)) 2 '0', ?_⟩
  have hwhole : escapeCsvField ((if h < 0 then ['-'] else []) ++
      Nat.toDigits 10 (h.natAbs / 100)) =
        (if h < 0 then ['-'] else []) ++ Nat.toDigits 10 (h.natAbs / 100) := by
    exact escapeCsvField_of_digitsAnd (digitsAnd_append_iff.mpr ⟨digitsAnd_sign (by simp) _,
      digitsAnd_toDigits ['-'] _⟩) (by decide)
  have hfraction : escapeCsvField (padStart (Nat.toDigits 10 (h.natAbs % 100)) 2 '0') =
      padStart (Nat.toDigits 10 (h.natAbs % 100)) 2 '0' :=
    escapeCsvField_of_digitsAnd (digitsAnd_padStart [] _ _) (by decide)
  simp only [List.map_cons, List.map_nil, escapeCsvField_formatDate, hwhole, hfraction,
    escapeCsvField_typeText, List.intercalate_cons_cons, List.intercalate_singleton,
    List.append_assoc, List.singleton_append, formatTransactionForCsv, formatAmount, amountText,
    hsep, hh, DecimalSeparator.toChar]
  simp only [List.cons_append]

/-- The number of values of an exported line. -/
theorem length_parseCsvLine_format (fmt : AmountFormat) (transaction : Transaction) :
    (parseCsvLine (formatTransactionForCsv fmt transaction)).length =
      match fmt.decimalSeparator with
      | .point => 5
      | .comma => 6 := by
  cases hsep : fmt.decimalSeparator with
  | point =>
      rw [formatTransactionForCsv_point hsep, parseCsvLine_intercalate (List.cons_ne_nil _ _)]
      rfl
  | comma =>
      obtain ⟨whole, fraction, hline⟩ := formatTransactionForCsv_comma hsep transaction
      rw [hline, parseCsvLine_intercalate (List.cons_ne_nil _ _)]
      rfl

/-- The header has five names. -/
theorem length_headerNames : (headerNames CsvExporter.header).length = 5 := by
  decide

/-- The outer trimming does not touch an exported text. -/
theorem trim_exportTransactions (fmt : AmountFormat) (transactions : List Transaction) :
    trim (exportTransactions fmt transactions) = exportTransactions fmt transactions := by
  apply trim_of_trimmed
  rw [exportTransactions]
  refine (trimmed_intercalate ?_).1
  intro line hline
  rcases List.mem_cons.mp hline with rfl | hline
  · decide
  · obtain ⟨transaction, -, rfl⟩ := List.mem_map.mp hline
    exact trimmed_formatTransactionForCsv fmt transaction

/-- The lines of the exported text are the header and one line per transaction, as long as
no note has a line feed. -/
theorem contentLines_exportTransactions {fmt : AmountFormat} {transactions : List Transaction}
    (h : ∀ transaction ∈ transactions, '\n' ∉ transaction.note.getD []) :
    contentLines (exportTransactions fmt transactions) =
      CsvExporter.header :: transactions.map (formatTransactionForCsv fmt) := by
  rw [contentLines, trim_exportTransactions, exportTransactions]
  refine List.splitOn_intercalate '\n' ?_ (List.cons_ne_nil _ _)
  intro line hline
  rcases List.mem_cons.mp hline with rfl | hline
  · decide
  · obtain ⟨transaction, hmem, rfl⟩ := List.mem_map.mp hline
    rw [newline_mem_formatTransactionForCsv_iff]
    exact h transaction hmem

/-- Parsing finds the lines that were exported, each with a value for each name of the
header. -/
def StructureSurvives (fmt : AmountFormat) (transactions : List Transaction) : Prop :=
  contentLines (exportTransactions fmt transactions) =
      CsvExporter.header :: transactions.map (formatTransactionForCsv fmt) ∧
    ∀ transaction ∈ transactions,
      (parseCsvLine (formatTransactionForCsv fmt transaction)).length =
        (headerNames CsvExporter.header).length

/-- **The structure survives exactly when no note has a line feed and the locale has a
decimal point** (or there is nothing to export). -/
theorem structureSurvives_iff (fmt : AmountFormat) (transactions : List Transaction) :
    StructureSurvives fmt transactions ↔
      (∀ transaction ∈ transactions, '\n' ∉ transaction.note.getD []) ∧
        (transactions = [] ∨ fmt.decimalSeparator = .point) := by
  constructor
  · rintro ⟨hlines, hvalues⟩
    refine ⟨?_, ?_⟩
    · intro transaction hmem hnote
      have hline : formatTransactionForCsv fmt transaction ∈
          contentLines (exportTransactions fmt transactions) := by
        rw [hlines]
        exact List.mem_cons_of_mem _ (List.mem_map_of_mem hmem)
      exact not_mem_of_mem_splitOn hline
        ((newline_mem_formatTransactionForCsv_iff fmt transaction).mpr hnote)
    · rcases List.eq_nil_or_concat transactions with rfl | ⟨init, transaction, rfl⟩
      · exact Or.inl rfl
      · have hlen := hvalues transaction (by simp)
        rw [length_parseCsvLine_format, length_headerNames] at hlen
        cases hsep : fmt.decimalSeparator with
        | point => exact Or.inr rfl
        | comma =>
            rw [hsep] at hlen
            cases hlen
  · rintro ⟨hnotes, hsep⟩
    refine ⟨contentLines_exportTransactions hnotes, ?_⟩
    intro transaction hmem
    rcases hsep with rfl | hsep
    · cases hmem
    · rw [length_parseCsvLine_format, length_headerNames, hsep]

/-- In a locale with a decimal comma, the line of the simplest transaction has six values
under five names. -/
theorem not_structureSurvives_comma :
    ¬ StructureSurvives (.exact .comma)
      [{ id := some 1, amount := { minorUnits := 100 }, timestampUtcMillis := 0, note := none,
         categoryId := none, accountId := none, type := .expense }] := by
  rintro ⟨-, hvalues⟩
  have hlen := hvalues _ List.mem_cons_self
  rw [length_parseCsvLine_format, length_headerNames] at hlen
  cases hlen

/-! ### The content -/

/-- `(amount * 100).toLong()` in exact arithmetic. -/
def exactMinorUnits (amount : Decimal) : Int64 :=
  Int64.ofInt (min (2 ^ 63 - 1) (amount.unscaled * 100 / 10 ^ amount.scale : ℕ))

/-- A nonnegative amount is read back from its text. -/
theorem parseAmount_amountText {amountMinor : Int64} (h : 0 ≤ amountMinor) :
    parseAmount exactMinorUnits (amountText .point amountMinor.toInt) = amountMinor := by
  rw [Int64.le_iff_toInt_le, Int64.toInt_zero] at h
  have hlt : amountMinor.toInt < 2 ^ 63 := amountMinor.toInt_lt
  obtain ⟨n, hint⟩ : ∃ n : ℕ, amountMinor.toInt = n := ⟨amountMinor.toInt.natAbs, by omega⟩
  have hkind : DigitsAnd ['.'] (amountText .point n) := by
    rw [amountText, if_neg (by omega), List.nil_append, digitsAnd_append_iff]
    refine ⟨digitsAnd_toDigits _ _, ?_⟩
    rw [DigitsAnd, List.forall_mem_cons]
    exact ⟨Or.inr (by decide), digitsAnd_padStart _ _ _⟩
  rw [parseAmount, hint, cleanAmount_eq_self (hkind.mono (by simp)),
    normalizedAmount_eq_self (hkind.not_mem (by decide)), decimalOrNull_amountText]
  have hminor : min (2 ^ 63 - 1) ((n * 100 / 10 ^ 2 : ℕ) : ℤ) = amountMinor.toInt := by
    have hcancel : n * 100 / 10 ^ 2 = n := Nat.mul_div_cancel n (by decide)
    rw [hcancel, min_eq_right (by omega), hint]
  simp only [exactMinorUnits]
  rw [hminor, Int64.ofInt_toInt]

/-- The day numbers of the common era up to the year 9999 are far from the ends of a
`Long`. -/
theorem toEpochDay_bounds {d : LocalDate} (h1 : 1 ≤ d.year) (h2 : d.year ≤ 9999) :
    -800000 ≤ d.toEpochDay ∧ d.toEpochDay ≤ 3000000 := by
  have hm1 := d.one_le_month
  have hm2 := d.month_le
  have hd1 := d.one_le_day
  have hd2 := d.day_le
  have hbound := daysInMonth_bounds d.year d.month
  rw [LocalDate.toEpochDay]
  split_ifs <;> omega

/-- A date of these years is found by the first format. -/
theorem parseDate_of_parse {s : Text} {d : LocalDate} (htrim : Trimmed s)
    (hparse : parse isoPattern s = some d) (h1 : 1 ≤ d.year) (h2 : d.year ≤ 9999) (now : ℤ) :
    parseDate now s = atStartOfDay d := by
  have hbounds := toEpochDay_bounds h1 h2
  have hmillis : startOfDayMillis d = some (atStartOfDay d) := by
    rw [startOfDayMillis, if_pos]
    rw [atStartOfDay]
    omega
  have hformatters : formatters = isoPattern :: formatters.tail := rfl
  rw [parseDate, trim_of_trimmed htrim, hformatters, List.findSome?_cons, hparse, Option.bind_some,
    hmillis, Option.getD_some]

/-- The date that is parsed for an exported timestamp: it has the year of the era. -/
theorem parseDate_formatDate {timestampMillis : ℤ}
    (hyear : yearOfEra (utcDate timestampMillis).year ≤ 9999) :
    ∃ d : LocalDate, d.year = yearOfEra (utcDate timestampMillis).year ∧
      (1 ≤ (utcDate timestampMillis).year → d = utcDate timestampMillis) ∧
      ∀ now, parseDate now (formatDate timestampMillis) = atStartOfDay d := by
  have hone := one_le_yearOfEra (utcDate timestampMillis).year
  obtain ⟨d, hd, hdyear⟩ : ∃ d : LocalDate,
      resolveSmart (yearOfEra (utcDate timestampMillis).year) (utcDate timestampMillis).month
        (utcDate timestampMillis).day = some d ∧
      d.year = yearOfEra (utcDate timestampMillis).year := by
    have hday := (utcDate timestampMillis).day_le
    have hbound := daysInMonth_bounds (utcDate timestampMillis).year (utcDate timestampMillis).month
    rw [resolveSmart, dif_pos ⟨hone, by omega, (utcDate timestampMillis).one_le_month,
      (utcDate timestampMillis).month_le, (utcDate timestampMillis).one_le_day, by omega⟩]
    exact ⟨_, rfl, rfl⟩
  have hparse : parse isoPattern (formatDate timestampMillis) = some d := by
    rw [formatDate, parse_format_eq datePattern_isoPattern _ (by omega), hd]
  refine ⟨d, hdyear, ?_, ?_⟩
  · intro h1
    have hyoe : yearOfEra (utcDate timestampMillis).year = (utcDate timestampMillis).year :=
      if_pos h1
    rw [formatDate, parse_format datePattern_isoPattern _ h1 (by omega)] at hparse
    exact (Option.some.inj hparse).symm
  · exact parseDate_of_parse (trimmed_formatDate timestampMillis) hparse (by omega) (by omega)

/-- The start of the day determines the date. -/
theorem atStartOfDay_injective {d e : LocalDate} (h : atStartOfDay d = atStartOfDay e) : d = e := by
  have hday : d.toEpochDay = e.toEpochDay := by
    rw [atStartOfDay, atStartOfDay] at h
    omega
  rw [← LocalDate.ofEpochDay_toEpochDay d, hday, LocalDate.ofEpochDay_toEpochDay]

/-- The record of an exported transaction has its amount, its note, its type and the day
of its timestamp. -/
def Preserves (transaction : Transaction) (record : CsvTransaction) : Prop :=
  record.amount = transaction.amount.minorUnits ∧
    record.description = transaction.note.getD [] ∧
    (record.isIncome = true ↔ transaction.type = .income) ∧
    record.date = atStartOfDay (utcDate transaction.timestampUtcMillis)

/-- Every exported transaction comes back as one record, in order, with its content. -/
def ContentSurvives (now : ℕ → ℤ) (transactions : List Transaction) : Prop :=
  List.Forall₂ Preserves transactions
    (parseTransactions exactMinorUnits now (exportTransactions (.exact .point) transactions))

/-- What the round trip is asked for: nonnegative amounts, years 0 to 9999, and notes
without line feeds and without outer white space. -/
structure Exportable (transaction : Transaction) : Prop where
  amount_nonneg : 0 ≤ transaction.amount.minorUnits
  year_nonneg : 0 ≤ (utcDate transaction.timestampUtcMillis).year
  year_le : (utcDate transaction.timestampUtcMillis).year ≤ 9999
  newline_not_mem : '\n' ∉ transaction.note.getD []
  trimmed : Trimmed (transaction.note.getD [])

/-- **An exported line**, parsed under the exporter's header: every value comes back except
for the type, which is always that of an expense. -/
theorem parseTransactionLine_point {fmt : AmountFormat} (hsep : fmt.decimalSeparator = .point)
    {minorUnits : Decimal → Int64} {now : ℤ} (transaction : Transaction) :
    parseTransactionLine minorUnits now (formatTransactionForCsv fmt transaction)
        (headerNames CsvExporter.header) =
      some
        { amount := parseAmount minorUnits (formatAmount fmt transaction.amount.minorUnits)
          description := trim (transaction.note.getD [])
          category := categoryText transaction
          date := parseDate now (formatDate transaction.timestampUtcMillis)
          isIncome := false } := by
  have hnames : headerNames CsvExporter.header = ["Date".toList, "Amount".toList,
      "Description".toList, "Category".toList, "Type".toList] := by decide
  have hvalues : parseCsvLine (formatTransactionForCsv fmt transaction) =
      [formatDate transaction.timestampUtcMillis,
        formatAmount fmt transaction.amount.minorUnits, trim (transaction.note.getD []),
        categoryText transaction, typeText transaction.type] := by
    rw [formatTransactionForCsv_point hsep, parseCsvLine_intercalate (List.cons_ne_nil _ _)]
    simp only [List.map_cons, List.map_nil, trim_of_trimmed (trimmed_formatDate _),
      trim_of_trimmed (trimmed_categoryText _), trim_of_trimmed (trimmed_typeText _).1]
    rw [formatAmount, trim_of_trimmed (trimmed_amountText _ _)]
  rw [hnames, parseTransactionLine_five hvalues]

/-- The record that an exported line is parsed into. -/
theorem parseTransactionLine_format {transaction : Transaction} (h : Exportable transaction) :
    ∃ record : CsvTransaction,
      (∀ now, parseTransactionLine exactMinorUnits now
        (formatTransactionForCsv (.exact .point) transaction)
          (headerNames CsvExporter.header) = some record) ∧
      (Preserves transaction record ↔
        transaction.type = .expense ∧ 1 ≤ (utcDate transaction.timestampUtcMillis).year) := by
  obtain ⟨hamount, hyear0, hyear, -, htrim⟩ := h
  have hyoe : yearOfEra (utcDate transaction.timestampUtcMillis).year ≤ 9999 := by
    rw [yearOfEra]
    split_ifs <;> omega
  obtain ⟨d, hdyear, hd, hdate⟩ := parseDate_formatDate hyoe
  have hamountText : formatAmount (.exact .point) transaction.amount.minorUnits =
      amountText .point transaction.amount.minorUnits.toInt := rfl
  refine ⟨{ amount := transaction.amount.minorUnits
            description := transaction.note.getD []
            category := categoryText transaction
            date := atStartOfDay d
            isIncome := false }, ?_, ?_⟩
  · intro now
    rw [parseTransactionLine_point rfl, hamountText, parseAmount_amountText hamount, hdate,
      trim_of_trimmed htrim]
  · rw [Preserves]
    constructor
    · rintro ⟨-, -, htype, hday⟩
      refine ⟨?_, ?_⟩
      · cases ht : transaction.type with
        | income => exact absurd (htype.mpr ht) Bool.false_ne_true
        | expense => rfl
      · have hone := one_le_yearOfEra (utcDate transaction.timestampUtcMillis).year
        rw [← atStartOfDay_injective hday]
        omega
    · rintro ⟨htype, h1⟩
      refine ⟨rfl, rfl, ?_, by rw [hd h1]⟩
      rw [htype]
      exact iff_of_false Bool.false_ne_true (by decide)

/-- The records of the data lines, one for each line that is parsed. -/
theorem filterMap_zipIdx_map {α β γ : Type*} {f : α × ℕ → Option β} {g : γ → α}
    {r : γ → ℕ → β} {l : List γ} (h : ∀ x ∈ l, ∀ i, f (g x, i) = some (r x i)) (k : ℕ) :
    ((l.map g).zipIdx k).filterMap f = (l.zipIdx k).map fun x => r x.1 x.2 := by
  induction l generalizing k with
  | nil => rfl
  | cons x l ih =>
      rw [List.map_cons, List.zipIdx_cons, List.filterMap_cons_some (h x List.mem_cons_self k),
        List.zipIdx_cons, List.map_cons, ih fun y hy => h y (List.mem_cons_of_mem x hy)]

/-- **The content survives exactly when there are only expenses, of the years from 1
on**: the parser finds no type under the exporter's `Type`, and the year 0 is printed as
the year 1 of its era. -/
theorem contentSurvives_iff (now : ℕ → ℤ) {transactions : List Transaction}
    (hexport : ∀ transaction ∈ transactions, Exportable transaction) :
    ContentSurvives now transactions ↔
      ∀ transaction ∈ transactions, transaction.type = .expense ∧
        1 ≤ (utcDate transaction.timestampUtcMillis).year := by
  have hlines : contentLines (exportTransactions (.exact .point) transactions) =
      CsvExporter.header :: transactions.map (formatTransactionForCsv (.exact .point)) :=
    contentLines_exportTransactions fun transaction hmem =>
      (hexport transaction hmem).newline_not_mem
  choose! record hrecord using fun transaction hmem =>
    parseTransactionLine_format (hexport transaction hmem)
  have hparse : parseTransactions exactMinorUnits now
      (exportTransactions (.exact .point) transactions) = transactions.map record := by
    rw [parseTransactions, hlines]
    calc _ = (transactions.zipIdx 0).map fun x => record x.1 :=
          filterMap_zipIdx_map (r := fun transaction _ => record transaction)
            (fun transaction hmem i => (hrecord transaction hmem).1 (now i)) 0
      _ = ((transactions.zipIdx 0).map Prod.fst).map record := by rw [List.map_map]; rfl
      _ = transactions.map record := by rw [List.zipIdx_map_fst]
  rw [ContentSurvives, hparse, List.forall₂_map_right_iff, List.forall₂_same]
  exact forall₂_congr fun transaction hmem => (hrecord transaction hmem).2

/-- An expense with a quoted note. -/
theorem contentSurvives_expense :
    ContentSurvives (fun _ => 0)
      [{ id := some 1, amount := { minorUnits := 2550 }, timestampUtcMillis := 1705320000000,
         note := some "Coffee, \"black\"".toList, categoryId := some 3, accountId := none,
         type := .expense }] := by
  refine (contentSurvives_iff (fun _ => 0) ?_).mpr ?_
  · rw [List.forall_mem_singleton]
    exact ⟨by decide, by decide, by decide, by decide, by decide⟩
  · rw [List.forall_mem_singleton]
    decide

/-- An income is parsed as an expense. -/
theorem not_contentSurvives_income :
    ¬ ContentSurvives (fun _ => 0)
      [{ id := some 2, amount := { minorUnits := 300000 }, timestampUtcMillis := 1705406400000,
         note := some "Salary".toList, categoryId := none, accountId := none,
         type := .income }] := by
  have hparse : parseTransactions exactMinorUnits (fun _ => 0)
      (exportTransactions (.exact .point)
        [{ id := some 2, amount := { minorUnits := 300000 }, timestampUtcMillis := 1705406400000,
           note := some "Salary".toList, categoryId := none, accountId := none,
           type := .income }]) =
      [{ amount := 300000, description := "Salary".toList, category := "Diğer".toList,
         date := 1705363200000, isIncome := false }] := by
    decide
  rw [ContentSurvives, hparse, List.forall₂_cons]
  rintro ⟨⟨-, -, htype, -⟩, -⟩
  exact absurd (htype.mpr rfl) Bool.false_ne_true

end SpendCraft
