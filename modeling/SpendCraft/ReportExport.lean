import SpendCraft.CsvExporter
import SpendCraft.CsvRecords
import SpendCraft.Lib.PlainCsv
import SpendCraft.Recurring

/-!
# The Report File

`ExportService.exportToCsv` writes the transactions of a date range as lines of five fields,
without quotes. The amounts go through `String.format("%.2f", …)` in the locale of the device, and
the dates through a `SimpleDateFormat` for `dd/MM/yyyy`.

The report goes to a file whose writing does not fail. The range is counted back from the clock
by `java.util.Calendar`, and ends at a second reading of the clock.

## The locale of the device

A `ReportLocale` has a text for every instant and a printed value for every amount, and nothing is
asked of either: what is proved about the report page and about the importer holds for all of
them. Reading a report back does depend on the text of a date. `ReportLocale.ofCalendar` prints it
as a `SimpleDateFormat` does, from the fields of any calendar and with the digits `0` to `9`.

## Proof

The text is the plain text of its fields (`Lib.PlainCsv`), so it reads back just when no field
needs quotes. Amounts, dates and types are fields whose characters are bounded, by `DigitsAnd`:
the only question left is the decimal separator, which a decimal comma turns into one more field.
The name of the category and the note are free texts and asked about as they are, with the
carriage return at the end of a note as a case of its own, since the line feed of the line would
take it.

For the importer it is enough that no name of the header is one it looks for: then no line gives a
record, whatever is in it.

## Main results

* `readsBack_iff`: the reports that a spreadsheet reads as what was exported, when the dates are
  those of a calendar.
* `parseTransactions_exportToCsv`: the importer of the app finds nothing in a report, whatever the
  locale.
-/

namespace SpendCraft

open Kotlin Rfc4180

/-! ### Date ranges -/

/-- The ranges that the screen of the reports offers. -/
inductive DateRange
  | lastWeek
  | lastMonth
  | last3Months
  | lastYear
  | custom
  deriving DecidableEq, Repr

namespace ExportService

variable (add : CalendarField → ℤ → ℤ → ℤ)

/-- The start and the end of a range; `add field amount` is that of a `Calendar`, `now` its
reading of the clock, and `later` that of `System.currentTimeMillis()` after it. -/
def times (dateRange : DateRange) (customStart customEnd now later : ℤ) : ℤ × ℤ :=
  match dateRange with
  | .lastWeek => (add .weekOfYear (-1) now, later)
  | .lastMonth => (add .month (-1) now, later)
  | .last3Months => (add .month (-3) now, later)
  | .lastYear => (add .year (-1) now, later)
  | .custom => (customStart, customEnd)

/-- The transactions from the start of the range to its end, both included. -/
def filterTransactionsByDateRange (transactions : List Transaction) (dateRange : DateRange)
    (customStart customEnd now later : ℤ) : List Transaction :=
  let (startTime, endTime) := times add dateRange customStart customEnd now later
  transactions.filter fun transaction =>
    decide (startTime ≤ transaction.timestampUtcMillis) &&
      decide (transaction.timestampUtcMillis ≤ endTime)

end ExportService

/-! ### The text of a report -/

/-- What the locale and the time zone of the device decide. -/
structure ReportLocale where
  amountFormat : AmountFormat
  /-- `SimpleDateFormat("dd/MM/yyyy", Locale.getDefault())`. -/
  date : ℤ → Text

/-- The fields of a `java.util.Calendar` that a date is printed from. The month counts from zero,
and the year is that of the era. -/
structure CalendarFields where
  year : ℕ
  month : ℕ
  dayOfMonth : ℕ
  deriving DecidableEq, Repr

namespace SimpleDateFormat

open JavaTime

/-- An item of a pattern: a number has at least as many digits as the item has letters, and a year
that needs more is printed without a sign. -/
def printItem (calendar : CalendarFields) : PatternItem → Text
  | .yyyy => padStart (Nat.toDigits 10 calendar.year) 4 '0'
  | .MM => padStart (Nat.toDigits 10 (calendar.month + 1)) 2 '0'
  | .dd => padStart (Nat.toDigits 10 calendar.dayOfMonth) 2 '0'
  | .literal c => [c]

/-- `SimpleDateFormat.format`, once the calendar has its fields. -/
def format (pattern : List PatternItem) (calendar : CalendarFields) : Text :=
  pattern.flatMap (printItem calendar)

/-- The pattern `dd/MM/yyyy`. -/
def dayPattern : List PatternItem :=
  [.dd, .literal '/', .MM, .literal '/', .yyyy]

/-- The characters of a date: digits, and those of the pattern. -/
theorem digitsAnd_format {marks : Text} {pattern : List PatternItem}
    (hliteral : ∀ c, .literal c ∈ pattern → c ∈ marks) (calendar : CalendarFields) :
    DigitsAnd marks (format pattern calendar) := by
  intro c h
  obtain ⟨item, hitem, hc⟩ := List.mem_flatMap.mp h
  cases item with
  | yyyy => exact digitsAnd_padStart marks _ _ c hc
  | MM => exact digitsAnd_padStart marks _ _ c hc
  | dd => exact digitsAnd_padStart marks _ _ c hc
  | literal e =>
      rw [printItem, List.mem_singleton] at hc
      rw [hc]
      exact Or.inr (hliteral e hitem)

end SimpleDateFormat

/-- The locale that prints the date of a calendar in the digits `0` to `9`; `calendar` has the
fields of each instant in the time zone of the device. -/
def ReportLocale.ofCalendar (amountFormat : AmountFormat) (calendar : ℤ → CalendarFields) :
    ReportLocale :=
  { amountFormat := amountFormat
    date := fun millis => SimpleDateFormat.format SimpleDateFormat.dayPattern (calendar millis) }

/-- A day is written with digits and slashes. -/
theorem ReportLocale.digitsAnd_date_ofCalendar (amountFormat : AmountFormat)
    (calendar : ℤ → CalendarFields) (millis : ℤ) :
    DigitsAnd ['/'] ((ReportLocale.ofCalendar amountFormat calendar).date millis) :=
  SimpleDateFormat.digitsAnd_format (by simp [SimpleDateFormat.dayPattern]) (calendar millis)

namespace ExportService

/-- The names of the columns. -/
def headerFields : List Text :=
  ["Tarih".toList, "Tür".toList, "Kategori".toList, "Miktar".toList, "Açıklama".toList]

/-- The first line of a report. -/
def header : Text := "Tarih,Tür,Kategori,Miktar,Açıklama".toList

/-- The name of the first category with the identifier of the transaction. -/
def categoryName (categories : List Category) (transaction : Transaction) : Text :=
  ((categories.find? fun category => category.id == transaction.categoryId).map
    Category.name).getD "Bilinmeyen".toList

/-- The word for the type of a transaction. -/
def typeText (type : TransactionType) : Text :=
  if type = .income then "Gelir".toList else "Gider".toList

/-- The fields of a line. -/
def fields (locale : ReportLocale) (categories : List Category) (transaction : Transaction) :
    List Text :=
  [locale.date transaction.timestampUtcMillis, typeText transaction.type,
    categoryName categories transaction,
    CsvExporter.formatAmount locale.amountFormat transaction.amount.minorUnits,
    transaction.note.getD []]

/-- A line as it is written: the five fields and a comma after each but the last. -/
def line (locale : ReportLocale) (categories : List Category) (transaction : Transaction) : Text :=
  locale.date transaction.timestampUtcMillis ++ ',' :: (typeText transaction.type ++
    ',' :: (categoryName categories transaction ++
      ',' :: (CsvExporter.formatAmount locale.amountFormat transaction.amount.minorUnits ++
        ',' :: transaction.note.getD [])))

variable (add : CalendarField → ℤ → ℤ → ℤ)

/-- The text that is written to the file. -/
def exportToCsv (locale : ReportLocale) (transactions : List Transaction)
    (categories : List Category) (dateRange : DateRange)
    (customStart customEnd now later : ℤ) : Text :=
  let filteredTransactions :=
    filterTransactionsByDateRange add transactions dateRange customStart customEnd now later
  header ++ '\n' :: filteredTransactions.flatMap fun transaction =>
    line locale categories transaction ++ ['\n']

variable {lone : LoneReturn} {locale : ReportLocale} {categories : List Category}
  {transaction : Transaction}

/-! ### Reading a report -/

/-- The line needs no quotes: the locale writes a decimal point, the name of the category and the
note have only characters that stand for themselves, and the line feed after the note is not taken
together with a carriage return at its end. -/
structure Writable (lone : LoneReturn) (locale : ReportLocale) (categories : List Category)
    (transaction : Transaction) : Prop where
  separator : locale.amountFormat.decimalSeparator = .point
  category : ∀ c ∈ categoryName categories transaction, IsData lone c
  note : ∀ c ∈ transaction.note.getD [], IsData lone c
  last : (transaction.note.getD []).getLast? ≠ some '\r'

/-- A report is the header and the fields of its transactions, written without quotes. -/
theorem exportToCsv_eq (transactions : List Transaction) (dateRange : DateRange)
    (customStart customEnd now later : ℤ) :
    exportToCsv add locale transactions categories dateRange customStart customEnd now later =
      plainText (headerFields ::
        (filterTransactionsByDateRange add transactions dateRange customStart customEnd now
          later).map (fields locale categories)) := by
  have hline : ∀ tx, [','].intercalate (fields locale categories tx) =
      line locale categories tx := by
    intro tx
    simp [fields, line, List.intercalate]
  have hheader : [','].intercalate headerFields = header := by decide
  rw [plainText, List.flatMap_cons, List.flatMap_map, hheader, exportToCsv]
  simp [hline]

/-- Digits stand for themselves, and so does a text of them and of such marks. -/
theorem isData_of_digitsAnd {marks s : Text} (h : DigitsAnd marks s)
    (hmarks : ∀ c ∈ marks, IsData lone c) : ∀ c ∈ s, IsData lone c := by
  intro c hc
  obtain hdigit | hmark := h c hc
  · refine ⟨?_, ?_, ?_, ?_⟩
    all_goals
      rintro rfl
      exact absurd hdigit (by decide)
  · exact hmarks c hmark

/-- The word for the type needs no quotes. -/
theorem isData_typeText (type : TransactionType) : ∀ c ∈ typeText type, IsData lone c := by
  cases type <;> simp [typeText, IsData]

/-- An amount has two decimals, so its text always has the separator. -/
theorem separator_mem_formatAmount (fmt : AmountFormat) (amount : Int64) :
    fmt.decimalSeparator.toChar ∈ CsvExporter.formatAmount fmt amount := by
  simp [CsvExporter.formatAmount, CsvExporter.amountText]

/-- An amount is split in two just when the locale writes a decimal comma. -/
theorem isData_formatAmount_iff (fmt : AmountFormat) (amount : Int64) :
    (∀ c ∈ CsvExporter.formatAmount fmt amount, IsData lone c) ↔
      fmt.decimalSeparator = .point := by
  have hdigits := CsvExporter.digitsAnd_amountText fmt.decimalSeparator
    (fmt.hundredths amount.toInt)
  constructor
  · intro h
    cases hseparator : fmt.decimalSeparator with
    | point => rfl
    | comma =>
        have hmem := separator_mem_formatAmount fmt amount
        rw [hseparator] at hmem
        exact absurd rfl (h ',' hmem).1
  · intro h
    rw [h] at hdigits
    rw [CsvExporter.formatAmount, h]
    exact isData_of_digitsAnd hdigits (by simp [DecimalSeparator.toChar, IsData])

/-- The fields of a transaction need no quotes, if the date has none of the characters that do,
just when the line is writable. -/
theorem plain_fields_iff
    (hdate : ∀ c ∈ locale.date transaction.timestampUtcMillis, IsData lone c) :
    Plain lone (fields locale categories transaction) ↔
      Writable lone locale categories transaction := by
  have hamount : (∀ c ∈ CsvExporter.formatAmount locale.amountFormat
      transaction.amount.minorUnits, IsData lone c) ↔
        locale.amountFormat.decimalSeparator = .point :=
    isData_formatAmount_iff locale.amountFormat transaction.amount.minorUnits
  constructor
  · intro h
    refine ⟨hamount.mp (h.data _ ?_), h.data _ ?_, h.data _ ?_, h.last _ rfl⟩
    · simp [fields]
    · simp [fields]
    · simp [fields]
  · intro h
    refine ⟨?_, fun field hfield => ?_⟩
    · simp only [fields, List.forall_mem_cons, List.not_mem_nil, false_implies, implies_true,
        and_true]
      exact ⟨hdate, isData_typeText _, h.category, hamount.mpr h.separator, h.note⟩
    · obtain rfl : transaction.note.getD [] = field := Option.some.inj hfield
      exact h.last

/-- The names of the columns need no quotes. -/
theorem plain_headerFields : Plain lone headerFields where
  data field hfield c hc := by
    have hall : (headerFields.all fun field => field.all fun c =>
        c != ',' && c != '"' && c != '\n' && c != '\r') = true := by decide
    simp only [List.all_eq_true, Bool.and_eq_true, bne_iff_ne] at hall
    obtain ⟨⟨⟨hcomma, hquote⟩, hline⟩, hreturn⟩ := hall field hfield c hc
    exact ⟨hcomma, hquote, hline, fun h => absurd h hreturn⟩
  last field hfield := by
    obtain rfl : "Açıklama".toList = field := Option.some.inj hfield
    decide

/-- A reader of comma separated values gets the header and five fields for each transaction of
the range, just when for each of these the locale writes a decimal point, and neither the note nor
the name of the category has a character that needs quotes. -/
theorem readsBack_iff (lone : LoneReturn) (amountFormat : AmountFormat)
    (calendar : ℤ → CalendarFields) (transactions : List Transaction) (categories : List Category)
    (dateRange : DateRange) (customStart customEnd now later : ℤ) :
    let locale := ReportLocale.ofCalendar amountFormat calendar
    let filtered :=
      filterTransactionsByDateRange add transactions dateRange customStart customEnd now later
    read lone (exportToCsv add locale transactions categories dateRange customStart customEnd now
        later) = some (headerFields :: filtered.map (fields locale categories)) ↔
      ∀ transaction ∈ filtered, Writable lone locale categories transaction := by
  intro locale filtered
  have hplain : ∀ transaction : Transaction,
      Plain lone (fields locale categories transaction) ↔
        Writable lone locale categories transaction :=
    fun transaction => plain_fields_iff (isData_of_digitsAnd
      (ReportLocale.digitsAnd_date_ofCalendar amountFormat calendar _) (by simp [IsData]))
  rw [exportToCsv_eq, read_plainText_iff]
  · simp only [List.forall_mem_cons, List.forall_mem_map, hplain]
    exact and_iff_right plain_headerFields
  · simp [headerFields, fields]

/-- The rent of a day in November 2023. -/
def rent : Transaction :=
  { id := some 1, amount := ⟨150000⟩, timestampUtcMillis := 1700000000000,
    note := some "Kira".toList, categoryId := none, accountId := none, type := .expense }

/-- A device whose calendar always shows the 14th of November 2023. -/
def november (decimalSeparator : DecimalSeparator) : ReportLocale :=
  ReportLocale.ofCalendar (AmountFormat.exact decimalSeparator) fun _ =>
    { year := 2023, month := 10, dayOfMonth := 14 }

/-- The rent is read back where the locale writes a decimal point, and where it writes a comma it
is not. -/
theorem readsBack_rent :
    read .refused (exportToCsv (fun _ _ now => now) (november .point) [rent] [] .custom 0
        1800000000000 0 0) =
      some [headerFields, ["14/11/2023".toList, "Gider".toList, "Bilinmeyen".toList,
        "1500.00".toList, "Kira".toList]] ∧
    read .refused (exportToCsv (fun _ _ now => now) (november .comma) [rent] [] .custom 0
        1800000000000 0 0) ≠
      some [headerFields, ["14/11/2023".toList, "Gider".toList, "Bilinmeyen".toList,
        "1500,00".toList, "Kira".toList]] := by
  constructor
  · refine (readsBack_iff (fun _ _ now => now) .refused (AmountFormat.exact .point) _ [rent] []
      .custom 0 1800000000000 0 0).mpr fun transaction htx => ?_
    obtain rfl : transaction = rent := List.mem_singleton.mp htx
    exact ⟨rfl, by simp [categoryName, IsData], by simp [rent, IsData], by decide⟩
  · intro h
    have hwritable := (readsBack_iff (fun _ _ now => now) .refused (AmountFormat.exact .comma) _
      [rent] [] .custom 0 1800000000000 0 0).mp h
    exact absurd (hwritable rent (List.mem_singleton.mpr rfl)).separator (by decide)

/-! ### The importer -/

/-- Trimming a text on the right stops at a character in front that stays. -/
theorem exists_rdropWhile_append {p : Char → Bool} {u v : Text} {c : Char}
    (hlast : u.getLast? = some c) (hc : p c = false) :
    ∃ w, w <+: v ∧ (u ++ v).rdropWhile p = u ++ w := by
  induction v using List.reverseRecOn with
  | nil =>
      refine ⟨[], List.prefix_rfl, ?_⟩
      rw [List.append_nil, List.rdropWhile_eq_self_iff]
      intro hne
      rw [List.getLast?_eq_some_getLast hne, Option.some_inj] at hlast
      simp [hlast, hc]
  | append_singleton v d ih =>
      rw [← List.append_assoc]
      by_cases hd : p d = true
      · obtain ⟨w, hprefix, heq⟩ := ih
        rw [List.rdropWhile_concat_pos p _ _ hd]
        exact ⟨w, hprefix.trans (List.prefix_append v [d]), heq⟩
      · rw [List.rdropWhile_concat_neg p _ _ hd]
        exact ⟨v ++ [d], List.prefix_rfl, List.append_assoc u v [d]⟩

/-- A text that starts with a header has it as its first line. -/
theorem exists_contentLines {header : Text} (hline : '\n' ∉ header)
    (hfirst : ∃ c, header.head? = some c ∧ isWhitespace c = false)
    (hlast : ∃ c, header.getLast? = some c ∧ isWhitespace c = false) (rest : Text) :
    ∃ dataLines, CsvParser.contentLines (header ++ '\n' :: rest) = header :: dataLines := by
  obtain ⟨c, hc, hspace⟩ := hlast
  obtain ⟨w, hprefix, htrim⟩ := exists_rdropWhile_append hc hspace (v := '\n' :: rest)
  have hstart : (header ++ '\n' :: rest).dropWhile isWhitespace = header ++ '\n' :: rest := by
    obtain ⟨d, hd, hspace'⟩ := hfirst
    obtain ⟨tail, rfl⟩ := List.head?_eq_some_iff.mp hd
    exact List.dropWhile_cons_of_neg (by rw [hspace']; decide)
  rw [CsvParser.contentLines, trim, hstart, htrim]
  obtain rfl | ⟨w', rfl, -⟩ := List.prefix_cons_iff.mp hprefix
  · exact ⟨[], by rw [List.append_nil, List.splitOn_eq_singleton hline]⟩
  · exact ⟨_, List.splitOn_append_cons_self_of_not_mem hline w'⟩

/-- No column has the name of an amount. -/
theorem not_importable {header : Text} (h : "amount".toList ∉ CsvParser.headerNames header)
    (h' : "Amount".toList ∉ CsvParser.headerNames header) (line : Text) :
    ¬ CsvParser.Importable (CsvParser.headerNames header) line := by
  rintro ⟨-, hamount, -⟩
  have hcolumn : ∀ (values : List Text) (key : Text), key ∉ CsvParser.headerNames header →
      CsvParser.column (CsvParser.headerNames header) values key = none := by
    intro values key hkey
    rw [CsvParser.column, List.lookup_eq_none_iff]
    rintro ⟨name, value⟩ hmem
    have hname := (List.of_mem_zip (List.mem_reverse.mp hmem)).1
    exact bne_iff_ne.mpr fun heq => hkey (heq ▸ hname)
  rw [CsvParser.amountColumn, hcolumn _ _ h, hcolumn _ _ h'] at hamount
  simp at hamount

/-- A text whose header has no amounts is read as nothing. -/
theorem parseTransactions_eq_nil {header : Text} (hline : '\n' ∉ header)
    (hfirst : ∃ c, header.head? = some c ∧ isWhitespace c = false)
    (hlast : ∃ c, header.getLast? = some c ∧ isWhitespace c = false)
    (hnames : "amount".toList ∉ CsvParser.headerNames header)
    (hnames' : "Amount".toList ∉ CsvParser.headerNames header) (minorUnits : Decimal → Int64)
    (clock : ℕ → ℤ) (rest : Text) :
    CsvParser.parseTransactions minorUnits clock (header ++ '\n' :: rest) = [] := by
  rw [List.eq_nil_iff_forall_not_mem]
  intro t ht
  obtain ⟨firstLine, dataLines, i, line, hlines, -, hread⟩ := CsvParser.mem_parseTransactions.mp ht
  obtain ⟨others, hheader⟩ := exists_contentLines hline hfirst hlast rest
  rw [hheader] at hlines
  obtain ⟨rfl, -⟩ := List.cons.inj hlines
  rw [CsvParser.parseTransactionLine_of_not_importable (not_importable hnames hnames' line)]
    at hread
  exact absurd hread (by simp)

/-- The importer of the app makes nothing of a report: it knows the columns by other names. -/
theorem parseTransactions_exportToCsv (minorUnits : Decimal → Int64) (clock : ℕ → ℤ)
    (locale : ReportLocale) (transactions : List Transaction) (categories : List Category)
    (dateRange : DateRange) (customStart customEnd now later : ℤ) :
    CsvParser.parseTransactions minorUnits clock
      (exportToCsv add locale transactions categories dateRange customStart customEnd now later) =
        [] :=
  parseTransactions_eq_nil (by decide) ⟨'T', rfl, by decide⟩ ⟨'a', rfl, by decide⟩ (by decide)
    (by decide) minorUnits clock _

end ExportService

end SpendCraft
