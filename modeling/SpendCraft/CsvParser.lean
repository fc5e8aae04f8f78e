import SpendCraft.Lib.JavaTime
import SpendCraft.Model

/-!
# The CSV Parser

`CsvParser.parseTransactions` trims the content, splits it at line feeds, takes the first
line for the header and parses each further line: `parseCsvLine` is a two-state automaton
over the characters of the line, the values are found by the names of the header, and the
amount, the date and the type are decoded from their texts. A line is skipped when it has
another number of values than the header has names, or when the amount or the date column
is missing.

The amount is read as a double; `minorUnits` is what `(amount * 100).toLong()` makes of
the decimal in the text. An unreadable date falls back to the clock, which is read once
for each such line.

## Conventions

A value is trimmed when its field ends, whether or not it was quoted. The columns are found by a
map from names to values, in which the last column of a name counts, and each of the two columns
that must be there has two names. The conversion of a decimal to minor units is a parameter, so
that exact arithmetic and the doubles of the source can both be put in, and so is the clock, by
the number of the line. A date is tried in several formats, one after the other, and trimmed
before that.

## Proof

The automaton is followed on a line that is assembled from pieces: plain text grows the current
field, a doubled quote inside quotes adds one quote, and an opening or closing quote adds nothing.
What becomes of the records is a filter over the lines with their numbers
(`mem_parseTransactions`).

## Main results

* `parseFields_plain`, `parseFields_doubled`, `parseFields_opening`, `parseFields_closing`:
  what the automaton does with plain text and with quotes.
* `mem_parseTransactions`: where the records come from.
-/

namespace SpendCraft

open Kotlin Calendar JavaTime

/-- A parsed data line. -/
structure CsvTransaction where
  amount : Int64
  description : Text
  category : Text
  date : ℤ
  isIncome : Bool
  deriving DecidableEq, Inhabited, Repr

/-- `CsvTransaction.toTransaction`. -/
def CsvTransaction.toTransaction (t : CsvTransaction) : Transaction :=
  { id := none
    amount := { minorUnits := t.amount }
    timestampUtcMillis := t.date
    note := some t.description
    categoryId := none
    accountId := none
    type := if t.isIncome then .income else .expense }

namespace CsvParser

/-! ### Values -/

/-- The loop of `parseCsvLine`, from a position of the line on: `inQuotes` and `current`
are its variables, `skipNext` says that the last pass advanced the index twice, and the
values are those added to `result` from there on. -/
def parseFields (inQuotes skipNext : Bool) (current : Text) : Text → List Text
  | [] => [trim current]
  | c :: rest =>
      if skipNext then parseFields inQuotes false current rest
      else if c = '"' then
        if inQuotes && rest.head? == some '"' then
          parseFields inQuotes true (current ++ ['"']) rest
        else parseFields (!inQuotes) false current rest
      else if c = ',' && !inQuotes then trim current :: parseFields inQuotes false [] rest
      else parseFields inQuotes false (current ++ [c]) rest

/-- `parseCsvLine`: the state of the loop is whether it is inside quotes, whether a quote is to be
skipped, and the field so far. -/
def parseCsvLine (line : Text) : List Text :=
  parseFields false false [] line

/-! ### Fields -/

/-- `Regex("[^0-9.,]")` is removed. -/
def cleanAmount (amountStr : Text) : Text :=
  amountStr.filter fun c => ('0' ≤ c && c ≤ '9') || c == '.' || c == ','

/-- Commas are made points. -/
def normalizedAmount (cleanAmount : Text) : Text :=
  cleanAmount.map fun c => if c = ',' then '.' else c

/-- The characters that are kept. -/
theorem isKept_iff (c : Char) :
    (('0' ≤ c && c ≤ '9') || c == '.' || c == ',') = true ↔ c.isDigit = true ∨ c ∈ ['.', ','] := by
  have hrange : (decide ('0' ≤ c) && decide (c ≤ '9')) = c.isDigit := rfl
  rw [hrange]
  simp [or_assoc]

/-- What is left of an amount after cleaning is digits and separators. -/
theorem digitsAnd_cleanAmount (amountStr : Text) :
    DigitsAnd ['.', ','] (cleanAmount amountStr) := by
  intro c hc
  have hkeep := List.of_mem_filter hc
  exact (isKept_iff c).mp hkeep

/-- A text of digits and separators is left as it is. -/
theorem cleanAmount_eq_self {s : Text} (h : DigitsAnd ['.', ','] s) : cleanAmount s = s := by
  rw [cleanAmount, List.filter_eq_self]
  exact fun c hc => (isKept_iff c).mpr (h c hc)

/-- Without a comma there is nothing to normalise. -/
theorem normalizedAmount_eq_self {s : Text} (h : ',' ∉ s) : normalizedAmount s = s :=
  map_replace_of_not_mem h

/-- `parseAmount`: a text that is no number counts as zero. -/
def parseAmount (minorUnits : Decimal → Int64) (amountStr : Text) : Int64 :=
  match decimalOrNull (normalizedAmount (cleanAmount amountStr)) with
  | some amount => minorUnits amount
  | none => minorUnits { unscaled := 0, scale := 0 }

/-- The formats that are tried, one after the other. -/
def formatters : List (List PatternItem) :=
  [[.yyyy, .literal '-', .MM, .literal '-', .dd],
    [.dd, .literal '/', .MM, .literal '/', .yyyy],
    [.MM, .literal '/', .dd, .literal '/', .yyyy],
    [.dd, .literal '-', .MM, .literal '-', .yyyy],
    [.yyyy, .literal '/', .MM, .literal '/', .dd]]

/-- `Instant.toEpochMilli` of the start of a day; far dates do not fit into a `Long`. -/
def startOfDayMillis (d : LocalDate) : Option ℤ :=
  if -2 ^ 63 ≤ atStartOfDay d ∧ atStartOfDay d < 2 ^ 63 then some (atStartOfDay d) else none

/-- The first format that reads the text decides; otherwise it is the current time. -/
def parseDate (now : ℤ) (dateStr : Text) : ℤ :=
  (formatters.findSome? fun formatter =>
    (parse formatter (trim dateStr)).bind startOfDayMillis).getD now

/-- Lower case letters can only come from their capitals, so ASCII case is enough to
recognise these words. -/
def parseBoolean (value : Text) : Bool :=
  ["true".toList, "1".toList, "yes".toList, "income".toList, "gelir".toList].contains
    (trim (value.map Char.toLower))

/-! ### Lines -/

/-- `header.zip(values).toMap()[key]`: the last column of a name wins. -/
def column (header values : List Text) (key : Text) : Option Text :=
  (header.zip values).reverse.lookup key

/-- `parseTransactionLine`: a line with another number of fields than the header is dropped, and
so is one without an amount or a date. The other columns have defaults. -/
def parseTransactionLine (minorUnits : Decimal → Int64) (now : ℤ) (line : Text)
    (header : List Text) : Option CsvTransaction :=
  let values := parseCsvLine line
  if values.length ≠ header.length then none
  else
    let data := column header values
    (data "amount".toList <|> data "Amount".toList).bind fun amountStr =>
      (data "date".toList <|> data "Date".toList).map fun dateStr =>
        { amount := parseAmount minorUnits amountStr
          description :=
            (data "description".toList <|> data "Description".toList <|> data "note".toList <|>
              data "Note".toList).getD []
          category := (data "category".toList <|> data "Category".toList).getD "Diğer".toList
          date := parseDate now dateStr
          isIncome := parseBoolean
            ((data "isIncome".toList <|> data "is_income".toList <|> data "type".toList).getD
              "false".toList) }

/-- The names of the header line. -/
def headerNames (line : Text) : List Text :=
  (line.splitOn ',').map fun name => removeSurrounding (trim name) ['"']

/-- The lines of a content. -/
def contentLines (csvContent : Text) : List Text :=
  (trim csvContent).splitOn '\n'

/-- `now i` is the clock reading when the data line `i` is parsed. -/
def parseTransactions (minorUnits : Decimal → Int64) (now : ℕ → ℤ) (csvContent : Text) :
    List CsvTransaction :=
  match contentLines csvContent with
  | [] => []
  | header :: dataLines =>
      dataLines.zipIdx.filterMap fun line =>
        parseTransactionLine minorUnits (now line.2) line.1 (headerNames header)

/-! ### The line automaton -/

section Automaton

variable {c : Char} {inQuotes : Bool} {current field rest : Text}

/-- Characters other than quotes and commas are taken over. -/
theorem parseFields_cons (hquote : c ≠ '"') (hcomma : c ≠ ',' ∨ inQuotes = true) :
    parseFields inQuotes false current (c :: rest) =
      parseFields inQuotes false (current ++ [c]) rest := by
  rw [parseFields, if_neg Bool.false_ne_true, if_neg hquote, if_neg]
  rcases hcomma with h | h <;> simp [h]

/-- A comma outside quotes ends the field. -/
theorem parseFields_comma :
    parseFields false false current (',' :: rest) =
      trim current :: parseFields false false [] rest := by
  rw [parseFields, if_neg Bool.false_ne_true, if_neg (by decide), if_pos (by decide)]

/-- A doubled quote inside quotes is one quote of the field. -/
theorem parseFields_doubled :
    parseFields true false current ('"' :: '"' :: rest) =
      parseFields true false (current ++ ['"']) rest := by
  rw [parseFields, if_neg Bool.false_ne_true, if_pos rfl, if_pos (by simp), parseFields,
    if_pos rfl]

/-- A quote outside quotes opens a quoted part. -/
theorem parseFields_opening :
    parseFields false false current ('"' :: rest) = parseFields true false current rest := by
  rw [parseFields, if_neg Bool.false_ne_true, if_pos rfl, if_neg (by simp)]
  rfl

/-- A single quote inside quotes closes it. -/
theorem parseFields_closing (hrest : rest.head? ≠ some '"') :
    parseFields true false current ('"' :: rest) = parseFields false false current rest := by
  rw [parseFields, if_neg Bool.false_ne_true, if_pos rfl, if_neg (by simpa using hrest)]
  rfl

/-- A stretch without quotes and commas. -/
theorem parseFields_plain (hquote : '"' ∉ field) (hcomma : ',' ∉ field) :
    parseFields false false current (field ++ rest) =
      parseFields false false (current ++ field) rest := by
  induction field generalizing current with
  | nil => rw [List.nil_append, List.append_nil]
  | cons c field ih =>
      rw [List.mem_cons, not_or] at hquote hcomma
      rw [List.cons_append, parseFields_cons (Ne.symm hquote.1) (Or.inl (Ne.symm hcomma.1)),
        ih hquote.2 hcomma.2, List.append_assoc, List.singleton_append]

end Automaton

/-! ### The exporter's header -/

/-- The five columns of a line, as the names of the exporter select them: no name of the
exporter selects a type. -/
theorem parseTransactionLine_five {minorUnits : Decimal → Int64} {now : ℤ} {line : Text}
    {date amount description category type : Text}
    (h : parseCsvLine line = [date, amount, description, category, type]) :
    parseTransactionLine minorUnits now line
        ["Date".toList, "Amount".toList, "Description".toList, "Category".toList,
          "Type".toList] =
      some
        { amount := parseAmount minorUnits amount
          description := description
          category := category
          date := parseDate now date
          isIncome := false } := by
  rw [parseTransactionLine, h]
  rfl

/-! ### The records of a content -/

/-- A record comes from a data line, parsed under the header. -/
theorem mem_parseTransactions {minorUnits : Decimal → Int64} {now : ℕ → ℤ} {csvContent : Text}
    {t : CsvTransaction} :
    t ∈ parseTransactions minorUnits now csvContent ↔
      ∃ header dataLines i line, contentLines csvContent = header :: dataLines ∧
        dataLines[i]? = some line ∧
        parseTransactionLine minorUnits (now i) line (headerNames header) = some t := by
  rw [parseTransactions]
  split
  next h => simp [h]
  next header dataLines h =>
    simp only [List.mem_filterMap, List.mem_zipIdx_iff_getElem?, h, List.cons.injEq, Prod.exists]
    constructor
    · rintro ⟨line, i, hline, ht⟩
      exact ⟨header, dataLines, i, line, ⟨rfl, rfl⟩, hline, ht⟩
    · rintro ⟨_, _, i, line, ⟨rfl, rfl⟩, hline, ht⟩
      exact ⟨line, i, hline, ht⟩

end CsvParser

end SpendCraft
