import SpendCraft.Ios.CsvFile

/-!
# The CSV Round Trip of the iOS App

A row of an exported file is split where it was joined, unless a name or a note has a
separator of its own: a line break makes more rows, and a comma in the name of a category
moves the columns after it. A comma in a note has been replaced, and a name is looked up
in the list of the categories.

## Conventions

What comes back is compared by the amount, the type, the note and the category (`Same`). The
categories come from the list of the import, and the identities and the ids are new. `RowReadable`
is about a row without line breaks: the name of its category has no comma and is found in the
list, or its pieces are what the columns after it should be. The formatter is exact.

## Proof

A row is split where it was joined by the lemma of the standard library about joined lists, as
long as no piece has the separator. A name with commas makes more columns, so the row has failed,
or its second piece is read as an amount: the cases follow the columns. The file is its rows, each
with a line break, and its rows are read one by one, so a list comes back just when each of its
transactions does.

## Main results

* `exists_read_csvRow_iff`: which rows are read as they were written.
* `csvRoundTrips_iff`: which lists of transactions come back.
-/

namespace SpendCraft.Ios

open Kotlin

namespace ExportManager

/-! ### Lines and columns -/

section Split

variable {c : Char}

/-- Trimming adds no character. -/
theorem mem_of_mem_trimmingWhitespaces {text : Text} (h : c ∈ trimmingWhitespaces text) :
    c ∈ text := by
  rw [trimmingWhitespaces, List.mem_reverse] at h
  have hsub := (List.dropWhile_sublist isWhitespaces).mem h
  rw [List.mem_reverse] at hsub
  exact (List.dropWhile_sublist isWhitespaces).mem hsub

/-- Splitting loses no character but the separators. -/
theorem exists_mem_splitOn {text : Text} {sep : Char} (h : c ∈ text) (hne : c ≠ sep) :
    ∃ piece ∈ text.splitOn sep, c ∈ piece := by
  induction text with
  | nil => cases h
  | cons d text ih =>
      rw [List.splitOn_cons_eq_if_modifyHead]
      obtain ⟨piece, pieces, hpieces⟩ := List.exists_cons_of_ne_nil (List.splitOn_ne_nil sep text)
      rw [hpieces] at ih ⊢
      by_cases hd : d = sep
      · rw [if_pos (by rw [hd, beq_self_eq_true])]
        rcases List.mem_cons.mp h with rfl | htext
        · exact absurd hd hne
        · obtain ⟨p, hp, hcp⟩ := ih htext
          exact ⟨p, List.mem_cons_of_mem _ hp, hcp⟩
      · rw [if_neg (by simpa using hd), List.modifyHead_cons]
        rcases List.mem_cons.mp h with rfl | htext
        · exact ⟨_, List.mem_cons_self, List.mem_cons_self⟩
        · obtain ⟨p, hp, hcp⟩ := ih htext
          rcases List.mem_cons.mp hp with rfl | hp
          · exact ⟨_, List.mem_cons_self, List.mem_cons_of_mem _ hcp⟩
          · exact ⟨p, List.mem_cons_of_mem _ hp, hcp⟩

end Split

section Rows

variable {format : CsvFormat} {transaction : RelatedTransaction}
  {transactions : List RelatedTransaction}

/-- An amount is written with a point, so without a comma. -/
theorem comma_not_mem_decimalText (amountMinor : ℤ) : ',' ∉ decimalText amountMinor :=
  (CsvExporter.digitsAnd_amountText .point amountMinor).not_mem (by decide)

/-- The column of the note has no comma, as every comma is replaced. -/
theorem comma_not_mem_noteColumn (transaction : RelatedTransaction) :
    ',' ∉ noteColumn transaction := by
  rw [noteColumn, List.mem_map]
  rintro ⟨c, -, hc⟩
  split_ifs at hc with hcomma
  · cases hc
  · exact hcomma hc

/-- A note without commas is written as it is. -/
theorem noteColumn_of_not_mem (h : ',' ∉ transaction.note.getD "".toList) :
    noteColumn transaction = transaction.note.getD "".toList :=
  map_replace_of_not_mem h

/-- The column of the note has the line breaks of the note. -/
theorem newline_mem_noteColumn_iff :
    '\n' ∈ noteColumn transaction ↔ '\n' ∈ transaction.note.getD "".toList := by
  rw [noteColumn, List.mem_map]
  constructor
  · rintro ⟨c, hmem, hc⟩
    split_ifs at hc
    · cases hc
    · rwa [← hc]
  · intro hmem
    exact ⟨'\n', hmem, rfl⟩

/-- The columns of a row: the pieces of the category's name, between a date and the rest. -/
theorem splitOn_csvRow (hcomma : ∀ millis, ',' ∉ format.dateString millis) :
    (csvRow format transaction).splitOn ',' =
      format.dateString (dateOfMillis transaction.timestampUtcMillis) ::
        ((categoryColumn transaction).splitOn ',' ++
          [decimalText transaction.amountMinor, noteColumn transaction,
            typeColumn transaction]) := by
  have htype : ',' ∉ typeColumn transaction := by
    rw [typeColumn]
    split_ifs
    · decide
    · decide
  rw [csvRow, List.splitOn_append_cons_self_of_not_mem (hcomma _), List.splitOn_append_cons_self,
    List.splitOn_append_cons_self_of_not_mem (comma_not_mem_decimalText _),
    List.splitOn_append_cons_self_of_not_mem (comma_not_mem_noteColumn _),
    List.splitOn_eq_singleton htype]

/-! ### One row -/

/-- The transaction has come back in what is read. -/
structure Kept (categories : List CategoryEntity) (transaction : RelatedTransaction)
    (columns : CsvColumns) : Prop where
  amountMinor : columns.amountMinor = transaction.amountMinor
  isIncome : columns.isIncome = transaction.isIncome
  note : columns.note = transaction.note
  category : chooseCategory CategoryEntity.name categories columns.categoryName =
    transaction.category

/-- The text reads as the amount. -/
def ReadsAs (format : CsvFormat) (text : Text) (amountMinor : ℤ) : Prop :=
  ∃ amount : ℚ, format.number text = some (some amount) ∧
    Binary64.truncated (amount * 100) = amountMinor

/-- What a row without line breaks needs. The pieces of a name with commas are taken for the
columns after it. -/
def RowReadable (format : CsvFormat) (categories : List CategoryEntity)
    (transaction : RelatedTransaction) : Prop :=
  match (categoryColumn transaction).splitOn ',' with
  | [] => False
  | [name] =>
      chooseCategory CategoryEntity.name categories name = transaction.category ∧
        ∀ note, transaction.note = some note → note ≠ [] ∧ ',' ∉ note
  | [name, amount] =>
      chooseCategory CategoryEntity.name categories name = transaction.category ∧
        ReadsAs format amount transaction.amountMinor ∧
        transaction.note = some (decimalText transaction.amountMinor) ∧
        transaction.isIncome = false
  | [name, amount, note] =>
      chooseCategory CategoryEntity.name categories name = transaction.category ∧
        ReadsAs format amount transaction.amountMinor ∧
        transaction.note = noteOf note ∧ transaction.isIncome = false
  | name :: amount :: note :: type :: _ =>
      chooseCategory CategoryEntity.name categories name = transaction.category ∧
        ReadsAs format amount transaction.amountMinor ∧
        transaction.note = noteOf note ∧
        transaction.isIncome = (trimmingWhitespaces type == "Gelir".toList)

/-- A row whose columns are known is read just when its amount is a number that fits. -/
theorem exists_read_iff {row date name amount note type : Text} {rest : List Text}
    {categories : List CategoryEntity} (hrow : row.splitOn ',' =
      date :: name :: amount :: note :: type :: rest) (hdate : (format.date date).isSome)
    (htimes : ∀ amount, format.timesHundred amount = amount * 100)
    (hfits : FitsInt64 transaction.amountMinor) :
    (∃ columns, readRow format row = .read columns ∧ Kept categories transaction columns) ↔
      chooseCategory CategoryEntity.name categories name = transaction.category ∧
        ReadsAs format amount transaction.amountMinor ∧ transaction.note = noteOf note ∧
        transaction.isIncome = (trimmingWhitespaces type == "Gelir".toList) := by
  obtain ⟨millis, hmillis⟩ := Option.isSome_iff_exists.mp hdate
  have hne : ¬row.isEmpty = true := by
    rw [List.isEmpty_iff]
    rintro rfl
    rw [List.splitOn_nil] at hrow
    cases hrow
  constructor
  · rintro ⟨columns, hread, hkept⟩
    rw [readRow, if_neg hne, hrow] at hread
    simp only [hmillis] at hread
    rcases hnumber : format.number amount with _ | _ | value
    · simp [hnumber] at hread
    · simp [hnumber] at hread
    · simp only [hnumber, htimes] at hread
      split_ifs at hread
      cases hread
      exact ⟨hkept.category, ⟨value, hnumber, hkept.amountMinor⟩, hkept.note.symm,
        hkept.isIncome.symm⟩
  · rintro ⟨hcategory, ⟨value, hnumber, hamount⟩, hnote, hincome⟩
    have hread : readRow format row = .read
        { date := millis
          categoryName := name
          amountMinor := transaction.amountMinor
          note := noteOf note
          isIncome := trimmingWhitespaces type == "Gelir".toList } := by
      rw [readRow, if_neg hne, hrow]
      simp only [hmillis, hnumber, htimes, hamount, if_pos hfits]
    exact ⟨_, hread, rfl, hincome.symm, hnote.symm, hcategory⟩

/-- A note that is not empty is kept. -/
theorem noteOf_eq_some {note : Text} (h : note ≠ []) : noteOf note = some note := by
  rw [noteOf, if_neg (by rwa [List.isEmpty_iff])]

/-- A note comes back just when it is not empty and has no comma. -/
theorem note_eq_noteOf_iff (transaction : RelatedTransaction) :
    transaction.note = noteOf (noteColumn transaction) ↔
      ∀ note, transaction.note = some note → note ≠ [] ∧ ',' ∉ note := by
  rcases hnote : transaction.note with _ | note
  · simp [noteColumn, hnote, noteOf]
  · constructor
    · rintro heq note' hnote'
      obtain rfl := Option.some_inj.mp hnote'
      rw [noteOf] at heq
      split_ifs at heq with hempty
      rw [← Option.some_inj.mp heq] at hempty
      refine ⟨fun hnil => hempty (by rw [hnil]; rfl), ?_⟩
      rw [Option.some_inj.mp heq]
      exact comma_not_mem_noteColumn transaction
    · intro h
      obtain ⟨hne, hcomma⟩ := h note rfl
      have hsame : noteColumn transaction = note := by
        rw [noteColumn_of_not_mem (by rw [hnote]; exact hcomma), hnote]
        rfl
      rw [hsame, noteOf_eq_some hne]

/-- An amount is never the empty text. -/
theorem decimalText_ne_nil (amountMinor : ℤ) : decimalText amountMinor ≠ [] := by
  simp [decimalText, CsvExporter.amountText]

/-- An amount is not the text of an income. -/
theorem trimmingWhitespaces_decimalText (amountMinor : ℤ) :
    (trimmingWhitespaces (decimalText amountMinor) == "Gelir".toList) = false := by
  rw [beq_eq_false_iff_ne]
  intro heq
  have hmem : 'G' ∈ trimmingWhitespaces (decimalText amountMinor) := by
    rw [heq]
    exact List.mem_cons_self
  exact (CsvExporter.digitsAnd_amountText .point amountMinor).not_mem (by decide)
    (mem_of_mem_trimmingWhitespaces hmem)

/-- The column of the type is read back. -/
theorem trimmingWhitespaces_typeColumn (transaction : RelatedTransaction) :
    (trimmingWhitespaces (typeColumn transaction) == "Gelir".toList) = transaction.isIncome := by
  rw [typeColumn]
  rcases transaction.isIncome
  · decide
  · decide

/-- **One row.** -/
theorem exists_read_csvRow_iff (hformat : format.Exact transactions)
    (htransaction : transaction ∈ transactions) (hfits : FitsInt64 transaction.amountMinor)
    (categories : List CategoryEntity) :
    (∃ columns, readRow format (csvRow format transaction) = .read columns ∧
        Kept categories transaction columns) ↔
      RowReadable format categories transaction := by
  have hsplit := @splitOn_csvRow format transaction hformat.comma
  have hdate := hformat.date transaction htransaction
  rw [RowReadable]
  rcases hpieces : (categoryColumn transaction).splitOn ',' with
    _ | ⟨name, _ | ⟨amount, _ | ⟨note, _ | ⟨type, rest⟩⟩⟩⟩
  · exact absurd hpieces (List.splitOn_ne_nil _ _)
  · rw [hpieces] at hsplit
    rw [exists_read_iff hsplit hdate hformat.timesHundred hfits, note_eq_noteOf_iff,
      trimmingWhitespaces_typeColumn]
    have hreads : ReadsAs format (decimalText transaction.amountMinor) transaction.amountMinor := by
      refine ⟨_, hformat.number transaction htransaction, ?_⟩
      rw [div_mul_cancel₀ _ (by norm_num), Binary64.truncated, Rat.num_intCast, Rat.den_intCast]
      exact Int.tdiv_one _
    simp [hreads]
  · rw [hpieces] at hsplit
    rw [exists_read_iff hsplit hdate hformat.timesHundred hfits,
      noteOf_eq_some (decimalText_ne_nil _)]
    refine and_congr_right fun _ => and_congr_right fun _ => and_congr_right fun hnote => ?_
    have hcolumn : noteColumn transaction = decimalText transaction.amountMinor := by
      rw [noteColumn_of_not_mem (by rw [hnote]; exact comma_not_mem_decimalText _), hnote]
      rfl
    rw [hcolumn, trimmingWhitespaces_decimalText]
  · rw [hpieces] at hsplit
    rw [exists_read_iff hsplit hdate hformat.timesHundred hfits, trimmingWhitespaces_decimalText]
  · rw [hpieces] at hsplit
    exact exists_read_iff hsplit hdate hformat.timesHundred hfits

/-! ### The file -/

/-- Only an empty row reads as one. -/
theorem readRow_eq_empty_iff {row : Text} : readRow format row = .empty ↔ row = [] := by
  rw [readRow]
  by_cases hempty : row.isEmpty = true
  · rw [if_pos hempty]
    exact iff_of_true rfl (List.isEmpty_iff.mp hempty)
  · rw [if_neg hempty]
    refine iff_of_false ?_ fun hnil => hempty (by rw [hnil]; rfl)
    intro hread
    split at hread
    · rename_i date name amount note type rest _
      rcases hdate : format.date date with _ | millis
      · simp [hdate] at hread
      · rcases hnumber : format.number amount with _ | _ | value
        · simp [hdate, hnumber] at hread
        · simp [hdate, hnumber] at hread
        · simp only [hdate, hnumber] at hread
          split_ifs at hread
    · cases hread

/-- A row that is read is not dropped before. -/
theorem filter_cons_of_readRow_ne {row : Text} (h : readRow format row ≠ .empty)
    (rows : List Text) : ((row :: rows).filter fun row => !row.isEmpty) =
      row :: rows.filter fun row => !row.isEmpty := by
  rw [ne_eq, readRow_eq_empty_iff] at h
  exact List.filter_cons_of_pos (by simpa using h)

/-- Nothing fails just when every row that is not empty is read. -/
theorem readRows_eq_iff {rows : List Text} {read : List CsvColumns} :
    readRows format rows = some (read, 0) ↔
      List.Forall₂ (fun row columns => readRow format row = .read columns)
        (rows.filter fun row => !row.isEmpty) read := by
  induction rows generalizing read with
  | nil => simp [readRows, eq_comm]
  | cons row rows ih =>
      rw [readRows]
      rcases hrow : readRow format row with _ | _ | _ | columns
      · rw [readRow_eq_empty_iff] at hrow
        rw [hrow, List.filter_cons_of_neg (by simp)]
        exact ih
      · rw [filter_cons_of_readRow_ne (by rw [hrow]; exact CsvRow.noConfusion)]
        refine iff_of_false (by simp) ?_
        rintro (_ | ⟨hread, -⟩)
        rw [hrow] at hread
        cases hread
      · rw [filter_cons_of_readRow_ne (by rw [hrow]; exact CsvRow.noConfusion)]
        refine iff_of_false (by simp) ?_
        rintro (_ | ⟨hread, -⟩)
        rw [hrow] at hread
        cases hread
      · rw [filter_cons_of_readRow_ne (by rw [hrow]; exact CsvRow.noConfusion)]
        constructor
        · intro hmap
          obtain ⟨⟨read', failed⟩, hread', heq⟩ := Option.map_eq_some_iff.mp hmap
          obtain ⟨rfl, rfl⟩ := Prod.mk.inj heq
          exact .cons hrow (ih.mp hread')
        · rintro (_ | ⟨hread, hrest⟩)
          rw [hrow] at hread
          cases hread
          rw [ih.mpr hrest]
          rfl

/-- The lines of an exported file: the header, the lines of the rows, and an empty one. -/
theorem lines_exportToCSV (format : CsvFormat) (transactions : List RelatedTransaction) :
    ((exportToCSV format transactions).splitOn '\n').drop 1 =
      ((sortedTransactions transactions).flatMap fun transaction =>
        (csvRow format transaction).splitOn '\n') ++ [[]] := by
  rw [exportToCSV, List.splitOn_append_cons_self_of_not_mem (by decide), List.drop_one,
    List.tail_cons]
  induction sortedTransactions transactions with
  | nil => rfl
  | cons transaction rest ih =>
      rw [List.flatMap_cons, List.append_assoc, List.singleton_append,
        List.splitOn_append_cons_self, ih, List.flatMap_cons, List.append_assoc]

/-- The row has one line, unless the name of the category or the note has a line break. -/
theorem splitOn_newline_csvRow (hformat : format.Exact transactions)
    (hname : '\n' ∉ categoryColumn transaction) (hnote : '\n' ∉ transaction.note.getD "".toList) :
    (csvRow format transaction).splitOn '\n' = [csvRow format transaction] := by
  have hamount : '\n' ∉ decimalText transaction.amountMinor :=
    (CsvExporter.digitsAnd_amountText .point _).not_mem (by decide)
  have htype : '\n' ∉ typeColumn transaction := by
    rw [typeColumn]
    split_ifs
    · decide
    · decide
  apply List.splitOn_eq_singleton
  rw [← newline_mem_noteColumn_iff] at hnote
  simp [csvRow, hformat.newline, hname, hamount, hnote, htype]

/-- Two texts with a comma make two lines that are not empty. -/
theorem two_le_length_lines {before after : Text} (hbefore : ',' ∈ before)
    (hafter : ',' ∈ after) :
    2 ≤ (((before ++ '\n' :: after).splitOn '\n').filter fun row => !row.isEmpty).length := by
  have hone : ∀ part : Text, ',' ∈ part →
      1 ≤ ((part.splitOn '\n').filter fun row => !row.isEmpty).length := by
    intro part hpart
    obtain ⟨piece, hpiece, hcomma⟩ := exists_mem_splitOn hpart (by decide : ',' ≠ '\n')
    refine List.length_pos_of_mem (List.mem_filter.mpr ⟨hpiece, ?_⟩)
    rw [Bool.not_eq_true', ← Bool.not_eq_true, List.isEmpty_iff]
    exact List.ne_nil_of_mem hcomma
  rw [List.splitOn_append_cons_self, List.filter_append, List.length_append]
  exact Nat.add_le_add (hone before hbefore) (hone after hafter)

/-- The row has more lines otherwise. -/
theorem two_le_length_csvRow
    (h : '\n' ∈ categoryColumn transaction ∨ '\n' ∈ transaction.note.getD "".toList) :
    2 ≤ (((csvRow format transaction).splitOn '\n').filter fun row => !row.isEmpty).length := by
  -- the line break stands between two of the commas of the row
  have hsplit : ∃ before after, csvRow format transaction = before ++ '\n' :: after ∧
      ',' ∈ before ∧ ',' ∈ after := by
    rcases h with hname | hnote
    · obtain ⟨before, after, heq⟩ := List.append_of_mem hname
      refine ⟨format.dateString (dateOfMillis transaction.timestampUtcMillis) ++ ',' :: before,
        after ++ ',' :: (decimalText transaction.amountMinor ++
          ',' :: (noteColumn transaction ++ ',' :: typeColumn transaction)), ?_, ?_, ?_⟩
      · rw [csvRow, heq]
        simp only [List.append_assoc, List.cons_append]
      · exact List.mem_append_right _ List.mem_cons_self
      · exact List.mem_append_right _ List.mem_cons_self
    · obtain ⟨before, after, heq⟩ := List.append_of_mem (newline_mem_noteColumn_iff.mpr hnote)
      refine ⟨format.dateString (dateOfMillis transaction.timestampUtcMillis) ++ ',' ::
        (categoryColumn transaction ++ ',' :: (decimalText transaction.amountMinor ++
          ',' :: before)), after ++ ',' :: typeColumn transaction, ?_, ?_, ?_⟩
      · rw [csvRow, heq]
        simp only [List.append_assoc, List.cons_append]
      · exact List.mem_append_right _ List.mem_cons_self
      · exact List.mem_append_right _ List.mem_cons_self
  obtain ⟨before, after, heq, hbefore, hafter⟩ := hsplit
  rw [heq]
  exact two_le_length_lines hbefore hafter

/-- Each row has at least one line, so that where there are not more lines than rows, no row
has more than one. -/
theorem no_newline_of_length_le {rows : List RelatedTransaction}
    (hlength : ((rows.flatMap fun transaction => (csvRow format transaction).splitOn '\n').filter
      fun row => !row.isEmpty).length ≤ rows.length) :
    ∀ transaction ∈ rows, '\n' ∉ categoryColumn transaction ∧
      '\n' ∉ transaction.note.getD "".toList := by
  have hone : ∀ transaction : RelatedTransaction,
      1 ≤ (((csvRow format transaction).splitOn '\n').filter fun row => !row.isEmpty).length := by
    intro transaction
    obtain ⟨piece, hpiece, hcomma⟩ := @exists_mem_splitOn ',' (csvRow format transaction) '\n'
      (List.mem_append_right _ List.mem_cons_self) (by decide)
    refine List.length_pos_of_mem (List.mem_filter.mpr ⟨hpiece, ?_⟩)
    rw [Bool.not_eq_true', ← Bool.not_eq_true, List.isEmpty_iff]
    exact List.ne_nil_of_mem hcomma
  have hall : ∀ rows : List RelatedTransaction, rows.length ≤
      ((rows.flatMap fun transaction => (csvRow format transaction).splitOn '\n').filter
        fun row => !row.isEmpty).length := by
    intro rows
    induction rows with
    | nil => exact Nat.zero_le _
    | cons transaction rows ih =>
        rw [List.flatMap_cons, List.filter_append, List.length_append, List.length_cons]
        have := hone transaction
        omega
  induction rows with
  | nil => simp
  | cons transaction rows ih =>
      rw [List.flatMap_cons, List.filter_append, List.length_append, List.length_cons] at hlength
      have hrest := hall rows
      have hfirst := hone transaction
      refine List.forall_mem_cons.mpr ⟨?_, ih (by omega)⟩
      rw [← not_or]
      intro hnewline
      have htwo := @two_le_length_csvRow format transaction hnewline
      omega

/-- What is read keeps the transactions, one by one. -/
theorem exists_forall₂_and_iff {α β : Type*} {P Q : α → β → Prop} {l : List α} :
    (∃ m, List.Forall₂ P l m ∧ List.Forall₂ Q l m) ↔ ∀ a ∈ l, ∃ b, P a b ∧ Q a b := by
  induction l with
  | nil => simp
  | cons a l ih =>
      rw [List.forall_mem_cons, ← ih]
      constructor
      · rintro ⟨m, hP, hQ⟩
        rcases hP with _ | ⟨hab, hP⟩
        rcases hQ with _ | ⟨hab', hQ⟩
        exact ⟨⟨_, hab, hab'⟩, _, hP, hQ⟩
      · rintro ⟨⟨b, hab, hab'⟩, m, hP, hQ⟩
        exact ⟨b :: m, .cons hab hP, .cons hab' hQ⟩

/-- The transaction has come back. -/
structure Same (transaction imported : RelatedTransaction) : Prop where
  amountMinor : imported.amountMinor = transaction.amountMinor
  isIncome : imported.isIncome = transaction.isIncome
  note : imported.note = transaction.note
  category : imported.category = transaction.category

/-- The import of the exported file creates one transaction for each exported one, with its
content, and no row fails. -/
def CsvRoundTrips (format : CsvFormat) (categories : List CategoryEntity)
    (accounts : List AccountEntity) (randomIds : ℕ → ℤ)
    (transactions : List RelatedTransaction) : Prop :=
  ∃ created, importFromCSV format categories accounts randomIds
      (exportToCSV format transactions) = some (created, 0) ∧
    List.Forall₂ Same (sortedTransactions transactions) created

/-- The imported transactions are the exported ones exactly if each row has kept what it holds. -/
theorem forall₂_same_iff {categories : List CategoryEntity} {accounts : List AccountEntity}
    {randomIds : ℕ → ℤ} {rows : List RelatedTransaction} {read : List CsvColumns} (k : ℕ) :
    List.Forall₂ Same rows ((read.zipIdx k).map fun (columns, k) =>
        csvTransaction categories accounts (randomIds k) columns) ↔
      List.Forall₂ (Kept categories) rows read := by
  induction read generalizing rows k with
  | nil =>
      rw [List.zipIdx_nil, List.map_nil, List.forall₂_nil_right_iff, List.forall₂_nil_right_iff]
  | cons columns read ih =>
      rw [List.zipIdx_cons, List.map_cons]
      rcases rows with _ | ⟨transaction, rows⟩
      · simp
      · rw [List.forall₂_cons, List.forall₂_cons, ih]
        refine and_congr_left fun _ => ?_
        exact ⟨fun h => ⟨h.amountMinor, h.isIncome, h.note, h.category⟩,
          fun h => ⟨h.amountMinor, h.isIncome, h.note, h.category⟩⟩

/-- The lines that are read. -/
theorem csvRoundTrips_iff_read {categories : List CategoryEntity} {accounts : List AccountEntity}
    {randomIds : ℕ → ℤ} : CsvRoundTrips format categories accounts randomIds transactions ↔
      ∃ read, List.Forall₂ (fun row columns => readRow format row = .read columns)
          (((sortedTransactions transactions).flatMap fun transaction =>
            (csvRow format transaction).splitOn '\n').filter fun row => !row.isEmpty) read ∧
        List.Forall₂ (Kept categories) (sortedTransactions transactions) read := by
  have hlines : ∀ read, readRows format
      (((exportToCSV format transactions).splitOn '\n').drop 1) = some (read, 0) ↔
        List.Forall₂ (fun row columns => readRow format row = .read columns)
          (((sortedTransactions transactions).flatMap fun transaction =>
            (csvRow format transaction).splitOn '\n').filter fun row => !row.isEmpty) read := by
    intro read
    rw [lines_exportToCSV, readRows_eq_iff, List.filter_append,
      List.filter_cons_of_neg (by simp), List.filter_nil, List.append_nil]
  simp only [← hlines]
  constructor
  · rintro ⟨created, himport, hsame⟩
    obtain ⟨⟨read, failed⟩, hread, heq⟩ := Option.map_eq_some_iff.mp himport
    obtain ⟨rfl, rfl⟩ := Prod.mk.inj heq
    exact ⟨read, hread, (forall₂_same_iff 0).mp hsame⟩
  · rintro ⟨read, hread, hkept⟩
    exact ⟨_, by rw [importFromCSV, hread]; rfl, (forall₂_same_iff 0).mpr hkept⟩

/-- Without line breaks inside a row, the lines of the file are its rows. -/
theorem filter_lines_of_no_newline (hformat : format.Exact transactions)
    {rows : List RelatedTransaction} (h : ∀ transaction ∈ rows,
      '\n' ∉ categoryColumn transaction ∧ '\n' ∉ transaction.note.getD "".toList) :
    ((rows.flatMap fun transaction => (csvRow format transaction).splitOn '\n').filter
      fun row => !row.isEmpty) = rows.map (csvRow format) := by
  induction rows with
  | nil => rfl
  | cons transaction rows ih =>
      obtain ⟨⟨hname, hnote⟩, hrows⟩ := List.forall_mem_cons.mp h
      have hne : (!(csvRow format transaction).isEmpty) = true := by
        rw [Bool.not_eq_true', ← Bool.not_eq_true, List.isEmpty_iff, csvRow]
        exact List.append_ne_nil_of_right_ne_nil _ (List.cons_ne_nil _ _)
      rw [List.flatMap_cons, splitOn_newline_csvRow hformat hname hnote, List.singleton_append,
        List.filter_cons_of_pos (p := fun row : Text => !row.isEmpty) hne, ih hrows, List.map_cons]

/-- **The CSV round trip** keeps the transactions just when no name and no note has a line
break, and every row is readable. -/
theorem csvRoundTrips_iff (format : CsvFormat) (categories : List CategoryEntity)
    (accounts : List AccountEntity) (randomIds : ℕ → ℤ) (transactions : List RelatedTransaction)
    (hformat : format.Exact transactions)
    (hfits : ∀ transaction ∈ transactions, FitsInt64 transaction.amountMinor) :
    CsvRoundTrips format categories accounts randomIds transactions ↔
      ∀ transaction ∈ transactions, '\n' ∉ categoryColumn transaction ∧
        '\n' ∉ transaction.note.getD "".toList ∧ RowReadable format categories transaction := by
  have hmem : ∀ transaction, transaction ∈ sortedTransactions transactions ↔
      transaction ∈ transactions := fun _ => (List.perm_insertionSort _ _).mem_iff
  have hrow : ∀ transaction ∈ transactions,
      ((∃ columns, readRow format (csvRow format transaction) = .read columns ∧
        Kept categories transaction columns) ↔ RowReadable format categories transaction) :=
    fun transaction htransaction =>
      exists_read_csvRow_iff hformat htransaction (hfits transaction htransaction) categories
  rw [csvRoundTrips_iff_read]
  constructor
  · rintro ⟨read, hread, hkept⟩
    have hnewline := no_newline_of_length_le (by
      rw [hread.length_eq, ← hkept.length_eq])
    rw [filter_lines_of_no_newline hformat hnewline, List.forall₂_map_left_iff] at hread
    have hall := exists_forall₂_and_iff.mp ⟨read, hread, hkept⟩
    intro transaction htransaction
    have hsorted := (hmem transaction).mpr htransaction
    obtain ⟨hname, hnote⟩ := hnewline transaction hsorted
    exact ⟨hname, hnote, (hrow transaction htransaction).mp (hall transaction hsorted)⟩
  · intro h
    rw [filter_lines_of_no_newline hformat fun transaction hsorted =>
      ⟨(h transaction ((hmem transaction).mp hsorted)).1,
        (h transaction ((hmem transaction).mp hsorted)).2.1⟩]
    simp only [List.forall₂_map_left_iff]
    apply exists_forall₂_and_iff.mpr
    intro transaction hsorted
    have htransaction := (hmem transaction).mp hsorted
    exact (hrow transaction htransaction).mpr (h transaction htransaction).2.2

end Rows

/-! ### Examples -/

/-- Groceries for 15, at noon. -/
def groceries (note : Option Text) : RelatedTransaction :=
  { id := 41
    amountMinor := 1500
    timestampUtcMillis := 1700049600000
    note := note
    categoryId := 7
    accountId := 0
    isIncome := false
    category := some { id := 7, name := "Market".toList }
    account := none }

/-- The format of a single transaction at noon is exact. -/
theorem exact_noonFormat (note : Option Text) : noonFormat.Exact [groceries note] where
  comma _ := (by decide : ',' ∉ noonText)
  newline _ := (by decide : '\n' ∉ noonText)
  date _ _ := by
    rw [noonFormat]
    dsimp only
    rw [if_pos rfl, Option.isSome_some]
  number transaction htransaction := by
    have hamount : (groceries note).amountMinor = ((1500 : ℕ) : ℤ) := rfl
    rw [List.mem_singleton.mp htransaction, hamount]
    have hread := CsvExporter.decimalOrNull_amountText 1500
    rw [noonFormat, decimalText]
    dsimp only
    rw [hread, Option.map_some, Int.cast_natCast]
    norm_num
  timesHundred _ := rfl

/-- The theorem at a transaction for groceries. -/
theorem csvRoundTrips_groceries :
    CsvRoundTrips noonFormat [{ id := 7, name := "Market".toList }] [] (fun _ => 3)
      [groceries (some "ekmek".toList)] := by
  refine (csvRoundTrips_iff _ _ _ _ _ (exact_noonFormat _) ?_).mpr ?_
  · intro transaction htransaction
    rw [List.mem_singleton.mp htransaction]
    decide
  · intro transaction htransaction
    rw [List.mem_singleton.mp htransaction]
    refine ⟨by decide, by decide, rfl, ?_⟩
    rintro note hnote
    obtain rfl := Option.some_inj.mp hnote
    exact ⟨by decide, by decide⟩

/-- A comma in a note comes back as a semicolon. -/
theorem not_csvRoundTrips_comma :
    noonFormat.Exact [groceries (some "ekmek, süt".toList)] ∧
      FitsInt64 (groceries (some "ekmek, süt".toList)).amountMinor ∧
      ¬CsvRoundTrips noonFormat [{ id := 7, name := "Market".toList }] [] (fun _ => 3)
        [groceries (some "ekmek, süt".toList)] := by
  have hfits : FitsInt64 (groceries (some "ekmek, süt".toList)).amountMinor := by decide
  refine ⟨exact_noonFormat _, hfits, ?_⟩
  rintro ⟨created, himport, hsame⟩
  obtain ⟨read, hread, hkept⟩ := csvRoundTrips_iff_read.mp ⟨created, himport, hsame⟩
  have hsorted : sortedTransactions [groceries (some "ekmek, süt".toList)] =
      [groceries (some "ekmek, süt".toList)] := rfl
  rw [hsorted] at hread hkept
  rw [filter_lines_of_no_newline (exact_noonFormat none) (by decide),
    List.forall₂_map_left_iff] at hread
  have hrow := exists_forall₂_and_iff.mp ⟨read, hread, hkept⟩ _ (List.mem_singleton_self _)
  rw [exists_read_csvRow_iff (exact_noonFormat _) (List.mem_singleton_self _) hfits] at hrow
  exact (hrow.2 _ rfl).2 (by decide)

end ExportManager

end SpendCraft.Ios
