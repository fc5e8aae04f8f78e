import SpendCraft.CsvExporter
import SpendCraft.Lib.Rfc4180

/-!
# The Export of the Tools Module

The tools module has a CSV exporter of its own: six columns with the ids, the amount in
minor units and the time stamp as plain numbers, and the note, which is quoted when it
contains a comma, a quote or a line feed.

A carriage return is missing from the list. The format has none outside quotes, so a
standard reader ends the record at it, or refuses the text; the writer is still injective,
as a reader that keeps the character recovers everything.

## Conventions

The reader is the one of `Lib.Rfc4180`, for all three ways to treat a carriage return. The
contents of a row are what the file keeps of a transaction: the empty note and no note are the
same text. The texts of the numbers are those of `toString`, and they are read back by the
standard library. A row has as many fields as the header.

## Proof

A row is a record of encoded fields (`Encodes`), and the list of rows is read record by record, by
induction. For the converse, a note with a carriage return outside quotes is followed through the
reader up to that character, where no way of the format keeps it (`head?_of_parse_loneReturn`).
The writer is injective because a reader that keeps the character exists, and gets everything
back.

## Main results

* `readsAs_iff`: what is recovered, for each way to treat a carriage return.
* `readBack_iff`: a standard reader recovers the export exactly when each note with a
  carriage return is quoted for another character; the export is injective in any case.
* `not_readBack_return`: a note of two lines, separated by a carriage return.
-/

namespace SpendCraft

open Kotlin Rfc4180

namespace ToolsCsvExporter

/-- The header of the file. -/
def header : Text :=
  "id,amount_minor,timestamp_utc_millis,note,category_id,type".toList

/-- `escapeCsv`: a carriage return alone is no reason for quotes. -/
def escapeCsv (s : Text) : Text :=
  let needsQuotes := contains s [','] || contains s ['"'] || contains s ['\n']
  let escaped := CsvExporter.doubleQuotes s
  if needsQuotes then '"' :: (escaped ++ ['"']) else escaped

/-- `toString` of an id, or the empty text. -/
def numberText (number : Option ℤ) : Text :=
  (number.map intText).getD []

/-- The text of the type. -/
def typeText (type : TransactionType) : Text :=
  if type = .income then "INCOME".toList else "EXPENSE".toList

/-- A line of the file: the six columns in their order. -/
def row (tx : Transaction) : Text :=
  [','].intercalate [numberText tx.id, intText tx.amount.minorUnits.toInt,
    intText tx.timestampUtcMillis, escapeCsv (tx.note.getD []), numberText tx.categoryId,
    typeText tx.type]

/-- `CsvExporter.export`. -/
def exportText (transactions : List Transaction) : Text :=
  let rows := ['\n'].intercalate (transactions.map row)
  if rows.isEmpty then header else header ++ '\n' :: rows

/-! ### What is recovered -/

/-- The contents of a row; no note and the empty note are one. -/
structure Exported where
  id : Option ℤ
  amount : Money
  timestampUtcMillis : ℤ
  note : Text
  categoryId : Option ℤ
  type : TransactionType
  deriving DecidableEq, Repr

/-- What the file keeps of a transaction: an absent note reads as an empty one, and the account is
not written. -/
def exported (tx : Transaction) : Exported :=
  { id := tx.id
    amount := tx.amount
    timestampUtcMillis := tx.timestampUtcMillis
    note := tx.note.getD []
    categoryId := tx.categoryId
    type := tx.type }

/-- An optional number: the empty text is none. -/
def numberOf (field : Text) : Option (Option ℤ) :=
  if field = [] then some none else (signedValue field).map some

/-- The type that a text is read as. -/
def typeOf (field : Text) : Option TransactionType :=
  if field = "INCOME".toList then some .income
  else if field = "EXPENSE".toList then some .expense
  else none

/-- The contents of a record of six fields. -/
def recordContents : List Text → Option Exported
  | [id, amount, timestamp, note, categoryId, type] => do
      let id ← numberOf id
      let minorUnits ← signedValue amount
      let timestampUtcMillis ← signedValue timestamp
      let categoryId ← numberOf categoryId
      let type ← typeOf type
      pure
        { id := id
          amount := { minorUnits := Int64.ofInt minorUnits }
          timestampUtcMillis := timestampUtcMillis
          note := note
          categoryId := categoryId
          type := type }
  | _ => none

/-- The fields of the header. -/
def headerFields : List Text :=
  ["id".toList, "amount_minor".toList, "timestamp_utc_millis".toList, "note".toList,
    "category_id".toList, "type".toList]

/-- The fields of a row, as they should be read. -/
def fields (tx : Transaction) : List Text :=
  [numberText tx.id, intText tx.amount.minorUnits.toInt, intText tx.timestampUtcMillis,
    tx.note.getD [], numberText tx.categoryId, typeText tx.type]

/-- An optional number is read back from its text. -/
theorem numberOf_numberText (number : Option ℤ) :
    numberOf (numberText number) = some number := by
  cases number with
  | none => rfl
  | some n =>
      have hvalue := signedValue_intText n
      have hne : intText n ≠ [] := by
        intro hnil
        rw [hnil] at hvalue
        simp [signedValue] at hvalue
      simp [numberOf, numberText, hne, hvalue]

/-- A type is read back from its text. -/
theorem typeOf_typeText (type : TransactionType) : typeOf (typeText type) = some type := by
  cases type <;> rfl

/-- The fields say all that is exported. -/
theorem recordContents_fields (tx : Transaction) :
    recordContents (fields tx) = some (exported tx) := by
  simp [recordContents, fields, numberOf_numberText, signedValue_intText, typeOf_typeText,
    Int64.ofInt_toInt, exported]

/-- One record of six fields for each transaction, in order, with the contents of the
transaction. -/
abbrev Recovered : List (List Text) → List Transaction → Prop :=
  List.Forall₂ fun record tx => record.length = 6 ∧ recordContents record = some (exported tx)

/-- A text is read as the records of the transactions. -/
def ReadsAs (lone : LoneReturn) (text : Text) (transactions : List Transaction) : Prop :=
  ∃ records, Rfc4180.read lone text = some records ∧ Recovered records transactions

/-- The export is read as the header and the records of the transactions. -/
def ReadBack (lone : LoneReturn) (transactions : List Transaction) : Prop :=
  ∃ records, Rfc4180.read lone (exportText transactions) = some (headerFields :: records) ∧
    Recovered records transactions

/-- A note with a carriage return is quoted, for another character of it. -/
def ReturnsQuoted (tx : Transaction) : Prop :=
  ∀ note ∈ tx.note, '\r' ∈ note → ',' ∈ note ∨ '"' ∈ note ∨ '\n' ∈ note

/-- Whether the returns of a note are quoted is decided by its text. -/
instance (tx : Transaction) : Decidable (ReturnsQuoted tx) :=
  inferInstanceAs (Decidable (∀ note ∈ tx.note, '\r' ∈ note →
    ',' ∈ note ∨ '"' ∈ note ∨ '\n' ∈ note))

/-! ### Fields of a row -/

section Row

variable {lone : LoneReturn} {tx : Transaction} {rest : Text}

/-- Both exporters quote in the same way. -/
theorem escapeCsv_eq (s : Text) : escapeCsv s = CsvExporter.escapeCsvField s := by
  rw [escapeCsv, CsvExporter.escapeCsvField]
  split
  next => rfl
  next h =>
    simp only [Bool.or_eq_true, contains_singleton_iff, not_or] at h
    exact CsvExporter.doubleQuotes_eq_self h.1.2

/-- Digits and signs are written as they are. -/
theorem encodes_of_digitsAnd {s : Text} (h : DigitsAnd ['-'] s) : Encodes lone s s := by
  have hother : ∀ c ∈ s, ∀ d : Char, d.isDigit = false ∧ d ∉ ['-'] → c ≠ d := by
    rintro c hc d hd rfl
    exact h.not_mem hd hc
  refine .data fun c hc => ⟨hother c hc _ (by decide), hother c hc _ (by decide),
    hother c hc _ (by decide), fun hreturn => ?_⟩
  exact absurd hreturn (hother c hc _ (by decide))

/-- A number is a field as it stands. -/
theorem encodes_numberText (number : Option ℤ) :
    Encodes lone (numberText number) (numberText number) := by
  cases number with
  | none => exact .data (by simp [numberText])
  | some n => exact encodes_of_digitsAnd (digitsAnd_intText (by simp) n)

/-- So is an integer. -/
theorem encodes_intText (n : ℤ) : Encodes lone (intText n) (intText n) :=
  encodes_of_digitsAnd (digitsAnd_intText (by simp) n)

/-- So is the text of a type. -/
theorem encodes_typeText (type : TransactionType) :
    Encodes lone (typeText type) (typeText type) := by
  cases type <;> exact .data (by simp [typeText, IsData])

/-- What a note needs to be read as it is. -/
def Readable (lone : LoneReturn) (tx : Transaction) : Prop :=
  lone = .kept ∨ ReturnsQuoted tx

/-- The escaped note is a field whose content is the note, for a reader that takes lone returns as
the note needs it. -/
theorem encodes_note (h : Readable lone tx) :
    Encodes lone (escapeCsv (tx.note.getD [])) (tx.note.getD []) := by
  rw [escapeCsv_eq]
  generalize hnote : tx.note.getD [] = note
  by_cases hquoted : ',' ∈ note ∨ '"' ∈ note ∨ '\n' ∈ note
  · rw [CsvExporter.escapeCsvField_eq_quoted hquoted]
    exact .enclosed note
  · have hkept : '\r' ∈ note → lone = .kept := by
      intro hreturn
      rcases h with hlone | hreturns
      · exact hlone
      · cases hn : tx.note with
        | none =>
            rw [hn] at hnote
            rw [← hnote] at hreturn
            cases hreturn
        | some n =>
            rw [hn] at hnote
            exact absurd (hreturns note (by rw [hn, ← hnote]; rfl) hreturn) hquoted
    simp only [not_or] at hquoted
    rw [CsvExporter.escapeCsvField_eq_self hquoted.1 hquoted.2.1 hquoted.2.2]
    refine .data fun c hc => ⟨?_, ?_, ?_, ?_⟩
    · exact ne_of_mem_of_not_mem hc hquoted.1
    · exact ne_of_mem_of_not_mem hc hquoted.2.1
    · exact ne_of_mem_of_not_mem hc hquoted.2.2
    · rintro rfl
      exact hkept hc

/-- A row, field by field. -/
theorem row_eq (tx : Transaction) :
    row tx = numberText tx.id ++ ',' :: (intText tx.amount.minorUnits.toInt ++ ',' ::
      (intText tx.timestampUtcMillis ++ ',' :: (escapeCsv (tx.note.getD []) ++ ',' ::
        (numberText tx.categoryId ++ ',' :: typeText tx.type)))) := by
  simp [row, List.intercalate_cons_cons]

/-- The first three fields of a row are always read. -/
theorem parse_row_numbers (tx : Transaction) (rest : Text) :
    parse lone .unquoted [] [] (row tx ++ rest) =
      parse lone .unquoted [] [numberText tx.id, intText tx.amount.minorUnits.toInt,
        intText tx.timestampUtcMillis]
        (escapeCsv (tx.note.getD []) ++ ',' :: (numberText tx.categoryId ++ ',' ::
          (typeText tx.type ++ rest))) := by
  rw [row_eq]
  simp only [List.append_assoc, List.cons_append]
  rw [(encodes_numberText tx.id).parse_comma, (encodes_intText _).parse_comma,
    (encodes_intText _).parse_comma]
  rfl

/-- **A readable row** is read as its six fields. -/
theorem parse_row (h : Readable lone tx) (hrest : rest = [] ∨ rest.head? = some '\n') :
    parse lone .unquoted [] [] (row tx ++ rest) =
      (parse lone .unquoted [] [] rest.tail).map (fields tx :: ·) := by
  have htype : (typeText tx.type).getLast? ≠ some '\r' := by
    cases tx.type <;> decide
  rw [parse_row_numbers, (encodes_note h).parse_comma, (encodes_numberText _).parse_comma,
    (encodes_typeText _).parse_end htype hrest (by simp)]
  rfl

/-- **Any other row** is not read, or read as a record of four fields. -/
theorem length_of_parse_row {records : List (List Text)} (h : ¬ Readable lone tx)
    (hparse : parse lone .unquoted [] [] (row tx ++ rest) = some records) :
    ∃ record, records.head? = some record ∧ record.length = 4 := by
  rw [Readable, not_or, ReturnsQuoted] at h
  obtain ⟨hlone, hnote⟩ := h
  simp only [not_forall] at hnote
  obtain ⟨note, hsome, hreturn, hquoted⟩ := hnote
  have hgetD : tx.note.getD [] = note := by
    rw [Option.mem_def.mp hsome, Option.getD_some]
  simp only [not_or] at hquoted
  rw [parse_row_numbers, hgetD, escapeCsv_eq,
    CsvExporter.escapeCsvField_eq_self hquoted.1 hquoted.2.1 hquoted.2.2] at hparse
  -- the note up to its first carriage return
  obtain ⟨start, following, rfl, hstart⟩ := List.eq_append_cons_of_mem hreturn
  simp only [List.mem_append, List.mem_cons, not_or] at hquoted
  have hdata : ∀ c ∈ start, IsData lone c := by
    intro c hc
    refine ⟨ne_of_mem_of_not_mem hc hquoted.1.1, ne_of_mem_of_not_mem hc hquoted.2.1.1,
      ne_of_mem_of_not_mem hc hquoted.2.2.1, ?_⟩
    rintro rfl
    exact absurd hc hstart
  rw [List.append_assoc, List.cons_append, parse_append_of_isData hdata
    fun hlast => absurd (List.mem_of_getLast? hlast) hstart] at hparse
  have hnext : ∀ rest : Text, (following ++ ',' :: rest).head? ≠ some '\n' := by
    intro rest
    cases following with
    | nil => simp
    | cons c following =>
        have hline := hquoted.2.2.2.2
        simp only [List.mem_cons, not_or] at hline
        simpa using Ne.symm hline.1
  exact ⟨_, head?_of_parse_loneReturn hlone (hnext _) hparse, rfl⟩

end Row

/-! ### All rows -/

/-- The rows, one after the other. -/
theorem rows_cons (tx : Transaction) (transactions : List Transaction) :
    ∃ rest : Text, (rest = [] ∨ rest.head? = some '\n') ∧
      rest.tail = ['\n'].intercalate (transactions.map row) ∧
      ['\n'].intercalate ((tx :: transactions).map row) = row tx ++ rest := by
  cases transactions with
  | nil => exact ⟨[], Or.inl rfl, rfl, by simp⟩
  | cons tx₂ transactions =>
      refine ⟨'\n' :: ['\n'].intercalate ((tx₂ :: transactions).map row), Or.inr rfl, rfl, ?_⟩
      simp only [List.map_cons, List.intercalate_cons_cons, List.append_assoc,
        List.singleton_append]

/-- **What is recovered**, by each reader. -/
theorem readsAs_iff (lone : LoneReturn) (transactions : List Transaction) :
    ReadsAs lone (['\n'].intercalate (transactions.map row)) transactions ↔
      ∀ tx ∈ transactions, Readable lone tx := by
  induction transactions with
  | nil => exact ⟨fun _ => List.forall_mem_nil _, fun _ => ⟨[], rfl, .nil⟩⟩
  | cons tx transactions ih =>
      obtain ⟨rest, hrest, htail, hrows⟩ := rows_cons tx transactions
      rw [List.forall_mem_cons, ← ih, ← htail, hrows]
      constructor
      · rintro ⟨records, hread, hrecords⟩
        by_cases h : Readable lone tx
        · rw [Rfc4180.read, parse_row h hrest] at hread
          obtain ⟨following, hfollowing, rfl⟩ := Option.map_eq_some_iff.mp hread
          exact ⟨h, following, hfollowing, (List.forall₂_cons.mp hrecords).2⟩
        · obtain ⟨record, hhead, hfour⟩ := length_of_parse_row h hread
          cases hrecords with
          | cons hsix hrecords =>
              rw [List.head?_cons, Option.some.injEq] at hhead
              rw [hhead] at hsix
              omega
      · rintro ⟨h, records, hread, hrecords⟩
        refine ⟨fields tx :: records, ?_, .cons ⟨rfl, recordContents_fields tx⟩ hrecords⟩
        rw [Rfc4180.read, parse_row h hrest]
        exact Option.map_eq_some_iff.mpr ⟨records, hread, rfl⟩

/-! ### The text -/

/-- The header is read as the first record. -/
theorem parse_header {lone : LoneReturn} {rest : Text}
    (hrest : rest = [] ∨ rest.head? = some '\n') :
    parse lone .unquoted [] [] (header ++ rest) =
      (parse lone .unquoted [] [] rest.tail).map (headerFields :: ·) := by
  have hplain : ∀ field ∈ headerFields, Encodes lone field field := by
    intro field hfield
    refine .data fun c hc => ?_
    have hall : (headerFields.all fun field => field.all fun c =>
        c != ',' && c != '"' && c != '\n' && c != '\r') = true := by decide
    simp only [List.all_eq_true, Bool.and_eq_true, bne_iff_ne] at hall
    obtain ⟨⟨⟨hcomma, hquote⟩, hline⟩, hreturn⟩ := hall field hfield c hc
    exact ⟨hcomma, hquote, hline, fun h => absurd h hreturn⟩
  have hheader : header ++ rest = "id".toList ++ ',' :: ("amount_minor".toList ++ ',' ::
      ("timestamp_utc_millis".toList ++ ',' :: ("note".toList ++ ',' ::
        ("category_id".toList ++ ',' :: ("type".toList ++ rest))))) := by
    rfl
  rw [hheader, (hplain _ (by simp [headerFields])).parse_comma,
    (hplain _ (by simp [headerFields])).parse_comma,
    (hplain _ (by simp [headerFields])).parse_comma,
    (hplain _ (by simp [headerFields])).parse_comma,
    (hplain _ (by simp [headerFields])).parse_comma,
    (hplain _ (by simp [headerFields])).parse_end (by decide) hrest (by simp)]
  rfl

/-- The header and the rows are read one after the other. -/
theorem read_exportText (lone : LoneReturn) (transactions : List Transaction) :
    Rfc4180.read lone (exportText transactions) =
      (Rfc4180.read lone (['\n'].intercalate (transactions.map row))).map
        (headerFields :: ·) := by
  rw [exportText, Rfc4180.read, Rfc4180.read]
  split
  next hempty =>
    have hheader : parse lone .unquoted [] [] (header ++ []) =
        (parse lone .unquoted [] [] [].tail).map (headerFields :: ·) :=
      parse_header (Or.inl rfl)
    rw [List.append_nil] at hheader
    rw [List.isEmpty_iff.mp hempty, hheader, List.tail_nil]
  next => rw [parse_header (Or.inr rfl), List.tail_cons]

/-- A file is read back exactly if each of its transactions is readable. -/
theorem readBack_iff_readable (lone : LoneReturn) (transactions : List Transaction) :
    ReadBack lone transactions ↔ ∀ tx ∈ transactions, Readable lone tx := by
  rw [← readsAs_iff, ReadBack, ReadsAs, read_exportText]
  constructor
  · rintro ⟨records, hread, hrecords⟩
    obtain ⟨rows, hrows, heq⟩ := Option.map_eq_some_iff.mp hread
    rw [List.cons.injEq] at heq
    rw [← heq.2] at hrecords
    exact ⟨rows, hrows, hrecords⟩
  · rintro ⟨records, hread, hrecords⟩
    exact ⟨records, Option.map_eq_some_iff.mpr ⟨records, hread, rfl⟩, hrecords⟩

/-- Records determine what was exported. -/
theorem exported_eq_of_recovered {records : List (List Text)}
    {transactions others : List Transaction} (h : Recovered records transactions)
    (hothers : Recovered records others) :
    transactions.map exported = others.map exported := by
  induction h generalizing others with
  | nil =>
      cases hothers
      rfl
  | cons hrecord hrecords ih =>
      cases hothers with
      | cons hother hothers =>
          have hsame := hrecord.2.symm.trans hother.2
          rw [List.map_cons, List.map_cons, Option.some.inj hsame, ih hothers]

/-- **The writer is injective**: a reader that keeps carriage returns recovers everything. -/
theorem exported_eq_of_exportText_eq {transactions others : List Transaction}
    (h : exportText transactions = exportText others) :
    transactions.map exported = others.map exported := by
  obtain ⟨records, hread, hrecords⟩ :=
    (readBack_iff_readable .kept transactions).mpr fun _ _ => Or.inl rfl
  obtain ⟨others', hreadOthers, hothers⟩ :=
    (readBack_iff_readable .kept others).mpr fun _ _ => Or.inl rfl
  rw [h, hreadOthers, Option.some.injEq, List.cons.injEq] at hread
  rw [hread.2] at hothers
  exact exported_eq_of_recovered hrecords hothers

/-- A reader that gives no field a carriage return from outside quotes. -/
def StandardReader : Type :=
  { lone : LoneReturn // lone ≠ .kept }

/-- **A standard reader recovers the export** exactly when each note with a carriage return
has a comma, a quote or a line feed as well. Different contents have different exports in
any case. -/
theorem readBack_iff (reader : StandardReader) (transactions : List Transaction) :
    (ReadBack reader.val transactions ↔ ∀ tx ∈ transactions, ReturnsQuoted tx) ∧
      ∀ others, exportText transactions = exportText others →
        transactions.map exported = others.map exported := by
  refine ⟨?_, fun others h => exported_eq_of_exportText_eq h⟩
  rw [readBack_iff_readable]
  simp [Readable, reader.property]

/-- A note of two lines that are separated by a carriage return. -/
def twoLines : Transaction :=
  { id := some 1
    amount := { minorUnits := 1250 }
    timestampUtcMillis := 1700000000000
    note := some "Rent\rMarch".toList
    categoryId := some 3
    accountId := none
    type := .expense }

/-- It is lost to every standard reader. -/
theorem not_readBack_return :
    ¬ ReadBack .endsRecord [twoLines] ∧ ¬ ReadBack .refused [twoLines] := by
  have hlost : ∀ lone, ReadBack lone [twoLines] → lone = .kept := by
    intro lone h
    rw [readBack_iff_readable, List.forall_mem_singleton] at h
    rcases h with hkept | hreturns
    · exact hkept
    · exact absurd hreturns (by decide)
  constructor
  · intro h
    cases hlost _ h
  · intro h
    cases hlost _ h

end ToolsCsvExporter

end SpendCraft
