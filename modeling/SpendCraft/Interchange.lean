import SpendCraft.CsvRoundTrip
import SpendCraft.Ios.CsvFile
import SpendCraft.ReportExport

/-!
# CSV Files between the Apps

Both apps export their transactions as lines of five fields, and both import such files. The
columns have other names and another order in each app, and the dates another form.

## Conventions

The files are the ones that the two exporters write, for any list on the one side and for any list
without line feeds in the notes on the other. What a `DateFormatter` reads is a parameter,
`CsvFormat`, of which one fact is needed: a text without a slash is not read as a date
(`NeedsSlash`). Nothing is assumed of how it reads or writes any other text, and the categories,
the accounts and the ids that an import draws are arbitrary.

## Proof

In the one direction the header of the file decides: none of its names is one under which the
Android app looks for an amount or a date, so no line gives a record, whatever the notes contain
(`ExportService.parseTransactions_eq_nil`). In the other direction it is each line: its first
field is a date with dashes, so every row fails, and their number is reported.

## Main results

* `not_interchangeable`: neither app reads a transaction from a file of the other.
-/

namespace SpendCraft

open Kotlin Ios.ExportManager

namespace Interchange

/-- A `DateFormatter` for `dd/MM/yyyy HH:mm` reads no text without a slash. -/
def NeedsSlash (format : Ios.CsvFormat) : Prop :=
  ∀ text, '/' ∉ text → format.date text = none

variable {format : Ios.CsvFormat}

/-- A line of the Android app starts with a date that the iOS app does not read. -/
theorem readRow_formatTransactionForCsv (hformat : NeedsSlash format) (fmt : AmountFormat)
    (transaction : Transaction) :
    readRow format (CsvExporter.formatTransactionForCsv fmt transaction) = .failed := by
  have hcomma : ',' ∉ CsvExporter.formatDate transaction.timestampUtcMillis :=
    (CsvExporter.digitsAnd_formatDate _).not_mem (by decide)
  have hslash : '/' ∉ CsvExporter.formatDate transaction.timestampUtcMillis :=
    (CsvExporter.digitsAnd_formatDate _).not_mem (by decide)
  have hempty : (CsvExporter.formatTransactionForCsv fmt transaction).isEmpty = false := by
    rw [List.isEmpty_eq_false_iff]
    exact (CsvExporter.trimmed_formatTransactionForCsv fmt transaction).2
  rw [readRow, hempty, if_neg Bool.false_ne_true, CsvExporter.formatTransactionForCsv,
    List.splitOn_append_cons_self_of_not_mem hcomma]
  split
  · next heq =>
    obtain ⟨rfl, -⟩ := List.cons.inj heq
    rw [hformat _ hslash]
  · rfl

/-- Where every row fails, nothing is read and every row is counted. -/
theorem readRows_of_failed {rows : List Text} (h : ∀ row ∈ rows, readRow format row = .failed) :
    readRows format rows = some ([], rows.length) := by
  induction rows with
  | nil => rfl
  | cons row rows ih =>
      rw [readRows, h row List.mem_cons_self,
        ih fun other hother => h other (List.mem_cons_of_mem _ hother)]
      rfl

/-- **No file of one app is of use to the other.** The Android app finds nothing in an export of
the iOS app. The iOS app counts each line of an export of the Android app as failed, if no note
has a line of its own. -/
theorem not_interchangeable (minorUnits : Decimal → Int64) (clock : ℕ → ℤ)
    (hformat : NeedsSlash format) (entities : List Ios.RelatedTransaction)
    (fmt : AmountFormat) {transactions : List Transaction}
    (hnotes : ∀ transaction ∈ transactions, '\n' ∉ transaction.note.getD [])
    (categories : List Ios.CategoryEntity) (accounts : List Ios.AccountEntity)
    (randomIds : ℕ → ℤ) :
    CsvParser.parseTransactions minorUnits clock (exportToCSV format entities) = [] ∧
      importFromCSV format categories accounts randomIds
        (CsvExporter.exportTransactions fmt transactions) = some ([], transactions.length) := by
  constructor
  · exact ExportService.parseTransactions_eq_nil (by decide) ⟨'T', rfl, by decide⟩
      ⟨'r', rfl, by decide⟩ (by decide) (by decide) minorUnits clock _
  · have hlines : CsvParser.contentLines (CsvExporter.exportTransactions fmt transactions) = _ :=
      contentLines_exportTransactions hnotes
    rw [CsvParser.contentLines, trim_exportTransactions] at hlines
    have hfailed : ∀ row ∈ transactions.map (CsvExporter.formatTransactionForCsv fmt),
        readRow format row = .failed := by
      intro row hrow
      obtain ⟨transaction, -, rfl⟩ := List.mem_map.mp hrow
      exact readRow_formatTransactionForCsv hformat fmt transaction
    rw [importFromCSV, hlines, List.drop_one, List.tail_cons, readRows_of_failed hfailed,
      List.length_map]
    rfl

/-- The format of times at noon needs a slash. -/
theorem needsSlash_noonFormat : NeedsSlash Ios.noonFormat := by
  intro text htext
  have hne : text ≠ Ios.noonText := by
    rintro rfl
    exact htext (by decide)
  exact if_neg hne

/-- A meal in each of the apps. -/
theorem not_interchangeable_meal :
    CsvParser.parseTransactions (fun _ => 0) (fun _ => 0)
        (exportToCSV Ios.noonFormat
          [{ id := 1, amountMinor := 5000, timestampUtcMillis := 1700049600000, note := none,
             categoryId := 1, accountId := 1, isIncome := false, category := none,
             account := none }]) = [] ∧
      importFromCSV Ios.noonFormat [] [] (fun _ => 1) (CsvExporter.exportTransactions
        (AmountFormat.exact .point)
        [{ id := none, amount := ⟨5000⟩, timestampUtcMillis := 1700049600000,
           note := some "Yemek".toList, categoryId := none, accountId := none,
           type := .expense }]) = some ([], 1) :=
  not_interchangeable _ _ needsSlash_noonFormat _ _ (by decide) _ _ _

end Interchange

end SpendCraft
