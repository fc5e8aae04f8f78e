import SpendCraft.CsvExporter
import SpendCraft.Ios.Recurring

/-!
# CSV Files of the iOS App

`ExportManager.exportToCSV` writes a row for each transaction, `importFromCSV` reads the
rows of a file and creates a transaction for each row that it can read. The writer takes
the commas out of notes, but not out of the names of categories, and leaves line breaks as
they are. The reader splits at every line break and every comma, and takes the first
category where it does not know a name.

What the rows need from the `DateFormatter`, from `Double` and from its arithmetic is a
`CsvFormat`.

## Conventions

A `CsvFormat` is the formatter of dates, the number that a text reads as, and the product of such
a number with a hundred; a number may be infinite or none at all. `CsvFormat.Exact` is what a
standard device gives: the text of a date is read as a date and has no separators, and the text of
an amount is read as that amount. Theorems name it as their hypothesis where they need it, and the
counterexamples are about `noonFormat`, which is an instance.

A row is empty, has failed, ends the app, or is read (`CsvRow`): a conversion of a number that
does not fit ends the app. The draws of an import are a function from rows to numbers.

## Main definitions

* `exportToCSV`, `csvRow`: the file that is written.
* `readRow`, `readRows`: what is read of one.
* `importFromCSV`: the transactions that are created, and the number of the failed rows.
-/

namespace SpendCraft.Ios

open Kotlin

/-- A transaction with the objects that it is related to. -/
structure RelatedTransaction extends TransactionEntity where
  category : Option CategoryEntity
  account : Option AccountEntity
  deriving DecidableEq, Repr

/-- The formatter for `dd/MM/yyyy HH:mm`, the number that a text reads as (which may be
infinite or not a number), and the product of a number and 100. -/
structure CsvFormat where
  dateString : ℤ → Text
  date : Text → Option ℤ
  number : Text → Option (Option ℚ)
  timesHundred : ℚ → ℚ

/-- A time at noon, as the file writes it. -/
def noonText : Text := "15/11/2023 12:00".toList

/-- The formatter at one time, and the numbers without a sign. -/
def noonFormat : CsvFormat :=
  { dateString := fun _ => noonText
    date := fun text => if text = noonText then some 1700049600000 else none
    number := fun text => (decimalOrNull text).map fun decimal =>
      some ((decimal.unscaled : ℚ) / 10 ^ decimal.scale)
    timesHundred := fun amount => amount * 100 }

/-- `String(format: "%.2f", amount)` of an amount in minor units. -/
def decimalText (amountMinor : ℤ) : Text :=
  CsvExporter.amountText .point amountMinor

/-- The text of a date has no comma and no line break, and is read as a date; the text of an
amount is read as the amount; products are exact. -/
structure CsvFormat.Exact (format : CsvFormat) (transactions : List RelatedTransaction) :
    Prop where
  comma : ∀ millis, ',' ∉ format.dateString millis
  newline : ∀ millis, '\n' ∉ format.dateString millis
  date : ∀ transaction ∈ transactions,
    (format.date (format.dateString (dateOfMillis transaction.timestampUtcMillis))).isSome
  number : ∀ transaction ∈ transactions,
    format.number (decimalText transaction.amountMinor) =
      some (some ((transaction.amountMinor : ℚ) / 100))
  timesHundred : ∀ amount, format.timesHundred amount = amount * 100

/-- `CharacterSet.whitespaces` -/
def isWhitespaces (c : Char) : Bool :=
  c == '\t' || c == ' ' || c == '\u00a0' || c == '\u1680' || ('\u2000' ≤ c && c ≤ '\u200a') ||
    c == '\u202f' || c == '\u205f' || c == '\u3000'

/-- `trimmingCharacters(in: .whitespaces)` -/
def trimmingWhitespaces (text : Text) : Text :=
  ((text.dropWhile isWhitespaces).reverse.dropWhile isWhitespaces).reverse

namespace ExportManager

/-! ### Writing -/

/-- The header of the file. -/
def csvHeader : Text := "Tarih,Kategori,Tutar,Not,Tür".toList

/-- The column of the category: its name, or the one that stands for none. -/
def categoryColumn (transaction : RelatedTransaction) : Text :=
  (transaction.category.map CategoryEntity.name).getD "Diğer".toList

/-- The column of the note: commas are replaced, and nothing is quoted. -/
def noteColumn (transaction : RelatedTransaction) : Text :=
  (transaction.note.getD "".toList).map fun c => if c = ',' then ';' else c

/-- The column of the type. -/
def typeColumn (transaction : RelatedTransaction) : Text :=
  if transaction.isIncome then "Gelir".toList else "Gider".toList

/-- A row of the file. -/
def csvRow (format : CsvFormat) (transaction : RelatedTransaction) : Text :=
  format.dateString (dateOfMillis transaction.timestampUtcMillis) ++ ',' ::
    (categoryColumn transaction ++ ',' :: (decimalText transaction.amountMinor ++ ',' ::
      (noteColumn transaction ++ ',' :: typeColumn transaction)))

/-- The transactions in the order of the file, the newest first. -/
def sortedTransactions (transactions : List RelatedTransaction) : List RelatedTransaction :=
  transactions.insertionSort fun a b => a.timestampUtcMillis ≥ b.timestampUtcMillis

/-- `exportToCSV`: every row ends with a line break, so the file ends with one. -/
def exportToCSV (format : CsvFormat) (transactions : List RelatedTransaction) : Text :=
  csvHeader ++ '\n' ::
    (sortedTransactions transactions).flatMap fun transaction => csvRow format transaction ++ ['\n']

/-! ### Reading -/

/-- What is read from a row. -/
structure CsvColumns where
  date : ℤ
  categoryName : Text
  amountMinor : ℤ
  note : Option Text
  isIncome : Bool
  deriving DecidableEq, Repr

/-- A row is empty, or counts as failed, or ends the app, or is read. -/
inductive CsvRow
  | empty
  | failed
  | trapped
  | read (columns : CsvColumns)
  deriving DecidableEq, Repr

/-- `note.isEmpty ? nil : note` -/
def noteOf (note : Text) : Option Text :=
  if note.isEmpty then none else some note

/-- One round of the loop. `Int64(amount * 100)` ends the app when it does not fit. -/
def readRow (format : CsvFormat) (row : Text) : CsvRow :=
  if row.isEmpty then .empty
  else
    match row.splitOn ',' with
    | dateColumn :: categoryName :: amountColumn :: note :: type :: _ =>
        match format.date dateColumn with
        | none => .failed
        | some date =>
            match format.number amountColumn with
            | none => .failed
            | some none => .trapped
            | some (some amount) =>
                let amountMinor := Binary64.truncated (format.timesHundred amount)
                if FitsInt64 amountMinor then
                  .read
                    { date := date
                      categoryName := categoryName
                      amountMinor := amountMinor
                      note := noteOf note
                      isIncome := trimmingWhitespaces type == "Gelir".toList }
                else .trapped
    | _ => .failed

/-- What the rows give, and how many of them have failed; `none` if one ends the app. -/
def readRows (format : CsvFormat) : List Text → Option (List CsvColumns × ℕ)
  | [] => some ([], 0)
  | row :: rows =>
      match readRow format row with
      | .empty => readRows format rows
      | .failed => (readRows format rows).map fun (read, failed) => (read, failed + 1)
      | .trapped => none
      | .read columns => (readRows format rows).map fun (read, failed) => (columns :: read, failed)

/-- The first category of the name, or else the first category. -/
def chooseCategory {C : Type*} (nameOf : C → Text) (categories : List C) (name : Text) :
    Option C :=
  (categories.find? fun category => nameOf category == name).or categories.head?

/-- The transaction that an imported row becomes: its id is drawn, and the account is the first of
the list. -/
def csvTransaction (categories : List CategoryEntity) (accounts : List AccountEntity)
    (randomId : ℤ) (columns : CsvColumns) : RelatedTransaction :=
  let category := chooseCategory CategoryEntity.name categories columns.categoryName
  { id := randomId
    amountMinor := columns.amountMinor
    timestampUtcMillis := columns.date
    note := columns.note
    categoryId := (category.map CategoryEntity.id).getD 0
    accountId := (accounts.head?.map AccountEntity.id).getD 0
    isIncome := columns.isIncome
    category := category
    account := accounts.head? }

/-- The transactions that are created, and the number of the failed rows; `randomIds` are
the numbers drawn from `1...1000000`. -/
def importFromCSV (format : CsvFormat) (categories : List CategoryEntity)
    (accounts : List AccountEntity) (randomIds : ℕ → ℤ) (csvString : Text) :
    Option (List RelatedTransaction × ℕ) :=
  (readRows format ((csvString.splitOn '\n').drop 1)).map fun (read, failed) =>
    (read.zipIdx.map fun (columns, k) => csvTransaction categories accounts (randomIds k) columns,
      failed)

end ExportManager

end SpendCraft.Ios
