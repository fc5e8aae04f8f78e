import SpendCraft.BudgetBreaches
import SpendCraft.CsvRoundTrip
import SpendCraft.ImportTransactions
import SpendCraft.Lib.SumsByKey

/-!
# Categories after Export and Import

An export writes the id of a category as text, and an import takes that text for the name
of a category; `toTransaction` leaves the category of the imported transaction open, and
nothing fills it in. `getSpentAmountsByCategory` then adds the amount under the name of an
unknown category.

## Conventions

An export and an import are run one behind the other, with the transactions deleted in between and
with no failing upsert: the failures are those of `ImportTransactions`. The sums of a month are
those of `getSpentAmountsByCategory`, at any instant within the month. Amounts pass through text
twice, and the property about sums is one about what the texts denote (`readBack`), in exact
arithmetic.

## Proof

An imported row is computed from its line (`appended_roundTrip`), given that lines and values
survive, which is the theorem of `CsvRoundTrip` about structure. The category of such a row is
always open, so categories are kept if there are none. The sums of a month are maps: without
categories they have one key, and the comparison is one of totals.

## Main results

* `appended_roundTrip`: an imported row is an expense without a category, with the amount
  and the date that its texts are read as.
* `spentAmounts_of_noCategory`: without categories, a month has one sum.
* `monthTotal_readBack_of_exportable`: the totals of expenses survive in exact arithmetic.
* `keepsCategories_iff`: the categories and the sums survive just when there are no
  categories and the totals of every month survive.
-/

namespace SpendCraft

open Kotlin CsvExporter CsvParser SumsByKey BudgetRepositoryImpl

/-! ### The calls -/

/-- The sums of the expenses of the current month, by the name of the category. -/
def TransactionsRepositoryImpl.getSpentAmountsByCategory (now : ℤ) (db : Database) :
    Text → Option Int64 :=
  let transactions := TxDao.getAllAscending db
  let categories := CategoryDao.getAllAscending db
  let monthTransactions := transactions.filter (isMonthExpense (getMonthBoundaries now))
  sumsByKey (fun tx => (categoryNameOf categories tx).getD "Bilinmeyen".toList)
    TransactionEntity.amountMinor monthTransactions

/-- The export of the stored transactions, the oldest first. -/
def ExportTransactionsUseCase.invoke (fmt : AmountFormat) (db : Database) : Text :=
  exportTransactions fmt (TransactionsRepositoryImpl.getAllAscending db)

open TransactionsRepositoryImpl

/-- The database without its transactions. -/
def emptied (db : Database) : Database :=
  { db with transactions := db.transactions.deleteWhere fun _ => true }

/-- An export, and its import into the emptied database, with no upsert failing. -/
def roundTrip (fmt : AmountFormat) (minorUnits : Decimal → Int64) (now : ℕ → ℤ)
    (db : Database) : Database :=
  (ImportTransactionsUseCase.invoke minorUnits now (fun _ => none)
    (ExportTransactionsUseCase.invoke fmt db) (emptied db)).2

/-! ### What is imported -/

section RoundTrip

variable {fmt : AmountFormat} {minorUnits : Decimal → Int64} {now : ℕ → ℤ} {db : Database}

/-- The transaction that an exported line becomes, as the data line `i`. -/
def imported (fmt : AmountFormat) (minorUnits : Decimal → Int64) (now : ℕ → ℤ)
    (transaction : Transaction) (i : ℕ) : Transaction :=
  { id := none
    amount :=
      { minorUnits := parseAmount minorUnits (formatAmount fmt transaction.amount.minorUnits) }
    timestampUtcMillis := parseDate (now i) (formatDate transaction.timestampUtcMillis)
    note := some (trim (transaction.note.getD []))
    categoryId := none
    accountId := none
    type := .expense }

/-- An export with the decimal point is read back line by line, if no note has a line break. -/
theorem parsedTransactions_exportTransactions (hsep : fmt.decimalSeparator = .point)
    {transactions : List Transaction}
    (hnotes : ∀ transaction ∈ transactions, '\n' ∉ transaction.note.getD []) :
    ImportTransactionsUseCase.parsedTransactions minorUnits now
        (exportTransactions fmt transactions) =
      transactions.zipIdx.map fun x => imported fmt minorUnits now x.1 x.2 := by
  rw [ImportTransactionsUseCase.parsedTransactions, parseTransactions,
    contentLines_exportTransactions hnotes]
  simp only
  rw [filterMap_zipIdx_map fun transaction _ i =>
    parseTransactionLine_point hsep transaction, List.map_map]
  rfl

/-- **The round trip** stores every transaction that is exported as it is imported. -/
theorem appended_roundTrip (hsep : fmt.decimalSeparator = .point)
    (hnotes : ∀ row ∈ db.transactions.rows, '\n' ∉ row.note.getD []) :
    ImportTransactionsUseCase.Appended (emptied db) (roundTrip fmt minorUnits now db)
      ((getAllAscending db).zipIdx.map fun x => imported fmt minorUnits now x.1 x.2) := by
  have hnotes' : ∀ transaction ∈ getAllAscending db, '\n' ∉ transaction.note.getD [] := by
    intro transaction hmem
    obtain ⟨row, hrow, rfl⟩ := List.mem_map.mp hmem
    exact hnotes row ((List.mem_insertionSort _).mp hrow)
  have hparsed : ImportTransactionsUseCase.parsedTransactions minorUnits now
      (ExportTransactionsUseCase.invoke fmt db) =
        (getAllAscending db).zipIdx.map fun x => imported fmt minorUnits now x.1 x.2 :=
    parsedTransactions_exportTransactions hsep hnotes'
  rw [← hparsed]
  exact ImportTransactionsUseCase.appended_invoke minorUnits now _ (emptied db)

/-- The rows after the round trip: one for each stored row, under new ids. -/
theorem rows_roundTrip (hsep : fmt.decimalSeparator = .point)
    (hnotes : ∀ row ∈ db.transactions.rows, '\n' ∉ row.note.getD []) :
    (roundTrip fmt minorUnits now db).transactions.rows =
      ((getAllAscending db).zipIdx.map fun x => imported fmt minorUnits now x.1 x.2).mapIdx
        fun i transaction => rowWithId (db.transactions.sequence + 1 + i) transaction := by
  have hempty : (emptied db).transactions.rows = [] := by
    rw [emptied, Relational.AutoTable.rows_deleteWhere]
    simp
  rw [(appended_roundTrip hsep hnotes).rows_eq, hempty, List.nil_append]
  rfl

/-- **No imported row has a category.** -/
theorem categoryId_roundTrip (hsep : fmt.decimalSeparator = .point)
    (hnotes : ∀ row ∈ db.transactions.rows, '\n' ∉ row.note.getD []) {row : TransactionEntity}
    (hrow : row ∈ (roundTrip fmt minorUnits now db).transactions.rows) :
    row.categoryId = none := by
  rw [rows_roundTrip hsep hnotes, List.mem_mapIdx] at hrow
  obtain ⟨i, hi, rfl⟩ := hrow
  rw [List.getElem_map]
  rfl

/-- The round trip keeps the number of transactions. -/
theorem length_roundTrip (hsep : fmt.decimalSeparator = .point)
    (hnotes : ∀ row ∈ db.transactions.rows, '\n' ∉ row.note.getD []) :
    (roundTrip fmt minorUnits now db).transactions.rows.length =
      (TxDao.getAllAscending db).length := by
  rw [rows_roundTrip hsep hnotes, List.length_mapIdx, List.length_map, List.length_zipIdx,
    getAllAscending, List.length_map]

end RoundTrip

/-! ### The sums of a month -/

/-- The total of the entries of the month of `current`. -/
def monthTotal (current : ℤ) (entries : List (ℤ × Int64)) : Option Int64 :=
  total ((entries.filter fun entry =>
    decide ((getMonthBoundaries current).1 ≤ entry.1) &&
      decide (entry.1 < (getMonthBoundaries current).2)).map Prod.snd)

/-- The dates and the amounts of the stored expenses. -/
def storedExpenses (db : Database) : List (ℤ × Int64) :=
  (db.transactions.rows.filter fun row => !row.isIncome).map fun row =>
    (row.timestampUtcMillis, row.amountMinor)

/-- The dates and the amounts that the exported texts are read as. -/
def readBack (fmt : AmountFormat) (minorUnits : Decimal → Int64) (now : ℕ → ℤ)
    (db : Database) : List (ℤ × Int64) :=
  (TxDao.getAllAscending db).zipIdx.map fun x =>
    (parseDate (now x.2) (formatDate x.1.timestampUtcMillis),
      parseAmount minorUnits (formatAmount fmt x.1.amountMinor))

/-- **Without categories** the month has one sum, under the name of an unknown one. -/
theorem spentAmounts_of_noCategory {db : Database}
    (h : ∀ row ∈ db.transactions.rows, row.categoryId = none) (current : ℤ) :
    getSpentAmountsByCategory current db = fun name =>
      if name = "Bilinmeyen".toList then monthTotal current (storedExpenses db) else none := by
  have hname : ∀ row ∈ (TxDao.getAllAscending db).filter
      (isMonthExpense (getMonthBoundaries current)),
      (categoryNameOf (CategoryDao.getAllAscending db) row).getD "Bilinmeyen".toList =
        "Bilinmeyen".toList := by
    intro row hrow
    have hmem := (List.mem_insertionSort _).mp (List.mem_of_mem_filter hrow)
    have hfind : (CategoryDao.getAllAscending db).find? (fun c =>
        decide (row.categoryId = some c.id)) = none := by
      rw [List.find?_eq_none, h row hmem]
      intro c _
      simp
    rw [categoryNameOf, hfind]
    rfl
  have hperm : (((TxDao.getAllAscending db).filter
      (isMonthExpense (getMonthBoundaries current))).map TransactionEntity.amountMinor).Perm
        (((storedExpenses db).filter fun entry =>
          decide ((getMonthBoundaries current).1 ≤ entry.1) &&
            decide (entry.1 < (getMonthBoundaries current).2)).map Prod.snd) := by
    rw [storedExpenses, List.filter_map, List.filter_filter, List.map_map]
    exact ((List.perm_insertionSort _ _).filter _).map _
  rw [getSpentAmountsByCategory, sumsByKey_of_key_eq hname, total_perm hperm]
  rfl

/-- The total of a month does not depend on the order of the entries. -/
theorem monthTotal_perm {current : ℤ} {entries entries' : List (ℤ × Int64)}
    (h : entries.Perm entries') : monthTotal current entries = monthTotal current entries' :=
  total_perm ((h.filter _).map _)

/-- The start of a day is in the same months as the day. -/
theorem monthTotal_atStartOfDay (current : ℤ) (entries : List (ℤ × Int64)) :
    monthTotal current (entries.map fun entry =>
        (JavaTime.atStartOfDay (JavaTime.utcDate entry.1), entry.2)) =
      monthTotal current entries := by
  have hmonth : ∀ (entry : ℤ × Int64),
      (decide ((getMonthBoundaries current).1 ≤
            JavaTime.atStartOfDay (JavaTime.utcDate entry.1)) &&
          decide (JavaTime.atStartOfDay (JavaTime.utcDate entry.1) <
            (getMonthBoundaries current).2)) =
        (decide ((getMonthBoundaries current).1 ≤ entry.1) &&
          decide (entry.1 < (getMonthBoundaries current).2)) := by
    intro entry
    rw [JavaTime.atStartOfDay_utcDate, getMonthBoundaries, JavaTime.atStartOfDay,
      JavaTime.atStartOfDay]
    congr 1
    · rw [decide_eq_decide]
      omega
    · rw [decide_eq_decide]
      omega
  rw [monthTotal, monthTotal, List.filter_map, List.map_map]
  congr 2
  exact List.filter_congr fun entry _ => hmonth entry

/-- **The totals survive** the round trip of expenses with whole amounts and dates of the
common era, in exact arithmetic. -/
theorem monthTotal_readBack_of_exportable {db : Database} {now : ℕ → ℤ}
    (h : ∀ transaction ∈ getAllAscending db, Exportable transaction ∧
      transaction.type = .expense ∧ 1 ≤ (JavaTime.utcDate transaction.timestampUtcMillis).year)
    (current : ℤ) :
    monthTotal current (readBack (.exact .point) exactMinorUnits now db) =
      monthTotal current (storedExpenses db) := by
  have hentry : ∀ row ∈ TxDao.getAllAscending db, ∀ i,
      (parseDate (now i) (formatDate row.timestampUtcMillis),
          parseAmount exactMinorUnits (formatAmount (.exact .point) row.amountMinor)) =
        (JavaTime.atStartOfDay (JavaTime.utcDate row.timestampUtcMillis), row.amountMinor) := by
    intro row hrow i
    obtain ⟨⟨hamount, -, hyear, -, -⟩, -, hone⟩ := h _ (List.mem_map_of_mem hrow)
    have h1 : 1 ≤ (JavaTime.utcDate row.timestampUtcMillis).year := hone
    have hyoe : JavaTime.yearOfEra (JavaTime.utcDate row.timestampUtcMillis).year ≤ 9999 := by
      rw [JavaTime.yearOfEra, if_pos h1]
      exact hyear
    obtain ⟨d, -, hd, hdate⟩ := parseDate_formatDate hyoe
    have hread := parseAmount_amountText hamount
    rw [hdate, hd h1]
    exact Prod.ext rfl hread
  have hread : readBack (.exact .point) exactMinorUnits now db =
      ((TxDao.getAllAscending db).map fun row => (row.timestampUtcMillis, row.amountMinor)).map
        fun entry => (JavaTime.atStartOfDay (JavaTime.utcDate entry.1), entry.2) := by
    rw [readBack, List.map_congr_left fun x hx =>
      hentry x.1 (List.fst_mem_of_mem_zipIdx hx) x.2, List.map_map]
    conv_rhs => rw [← List.zipIdx_map_fst 0 (TxDao.getAllAscending db), List.map_map]
    rfl
  have hstored : ((TxDao.getAllAscending db).map fun row =>
      (row.timestampUtcMillis, row.amountMinor)).Perm (storedExpenses db) := by
    have hexpense : ∀ row ∈ db.transactions.rows, (!row.isIncome) = true := by
      intro row hrow
      have hsorted : row ∈ TxDao.getAllAscending db := (List.mem_insertionSort _).mpr hrow
      obtain ⟨-, htype, -⟩ := h _ (List.mem_map_of_mem hsorted)
      cases hincome : row.isIncome with
      | false => rfl
      | true => simp [TransactionMapper.fromEntity, hincome] at htype
    rw [storedExpenses, List.filter_eq_self.mpr hexpense]
    exact (List.perm_insertionSort _ _).map _
  rw [hread, monthTotal_atStartOfDay, monthTotal_perm hstored]

/-! ### The round trip -/

section Exact

variable {fmt : AmountFormat} {minorUnits : Decimal → Int64} {now : ℕ → ℤ} {db : Database}

/-- Every imported row is an expense. -/
theorem storedExpenses_roundTrip (hsep : fmt.decimalSeparator = .point)
    (hnotes : ∀ row ∈ db.transactions.rows, '\n' ∉ row.note.getD []) :
    storedExpenses (roundTrip fmt minorUnits now db) = readBack fmt minorUnits now db := by
  have hrows := @rows_roundTrip fmt minorUnits now db hsep hnotes
  have hexpense : ∀ row ∈ (roundTrip fmt minorUnits now db).transactions.rows,
      (!row.isIncome) = true := by
    intro row hrow
    rw [hrows, List.mem_mapIdx] at hrow
    obtain ⟨i, hi, rfl⟩ := hrow
    rw [List.getElem_map]
    rfl
  rw [storedExpenses, List.filter_eq_self.mpr hexpense, hrows, readBack]
  apply List.ext_getElem
  · rw [List.length_map, List.length_mapIdx, List.length_map, List.length_zipIdx,
      List.length_map, List.length_zipIdx, getAllAscending, List.length_map]
  · intro i hi hi'
    simp only [List.getElem_map, List.getElem_mapIdx, List.getElem_zipIdx, getAllAscending]
    rfl

/-- The transactions keep their categories, and the months their sums. -/
structure KeepsCategories (fmt : AmountFormat) (minorUnits : Decimal → Int64) (now : ℕ → ℤ)
    (db : Database) : Prop where
  categoryIds : List.Forall₂ (fun row row' => row'.categoryId = row.categoryId)
    (TxDao.getAllAscending db) (roundTrip fmt minorUnits now db).transactions.rows
  spentAmounts : ∀ current, getSpentAmountsByCategory current (roundTrip fmt minorUnits now db) =
    getSpentAmountsByCategory current db

/-- Without categories, the sums of a month are the one total of all expenses. -/
theorem monthTotal_eq_iff {db db' : Database}
    (h : ∀ row ∈ db.transactions.rows, row.categoryId = none)
    (h' : ∀ row ∈ db'.transactions.rows, row.categoryId = none) (current : ℤ) :
    getSpentAmountsByCategory current db' = getSpentAmountsByCategory current db ↔
      monthTotal current (storedExpenses db') = monthTotal current (storedExpenses db) := by
  rw [spentAmounts_of_noCategory h, spentAmounts_of_noCategory h']
  constructor
  · intro heq
    have hunknown := congrFun heq "Bilinmeyen".toList
    rwa [if_pos rfl, if_pos rfl] at hunknown
  · intro heq
    rw [heq]

/-- **Export and import keep the categories** just when there are none, and then the sums of
every month just when the stored expenses and all that is read back have the same total. -/
theorem keepsCategories_iff (hsep : fmt.decimalSeparator = .point)
    (hnotes : ∀ row ∈ db.transactions.rows, '\n' ∉ row.note.getD []) :
    KeepsCategories fmt minorUnits now db ↔
      (∀ row ∈ db.transactions.rows, row.categoryId = none) ∧
        ∀ current, monthTotal current (readBack fmt minorUnits now db) =
          monthTotal current (storedExpenses db) := by
  have hnone : ∀ row ∈ (roundTrip fmt minorUnits now db).transactions.rows,
      row.categoryId = none := fun row => categoryId_roundTrip hsep hnotes
  have hlength := @length_roundTrip fmt minorUnits now db hsep hnotes
  constructor
  · rintro ⟨hcategories, hspent⟩
    have hempty : ∀ row ∈ db.transactions.rows, row.categoryId = none := by
      intro row hrow
      have hsorted : row ∈ TxDao.getAllAscending db := (List.mem_insertionSort _).mpr hrow
      obtain ⟨i, rfl⟩ := List.mem_iff_get.mp hsorted
      have hi' : (i : ℕ) < (roundTrip fmt minorUnits now db).transactions.rows.length := by
        rw [hlength]
        exact i.isLt
      have heq := (List.forall₂_iff_get.mp hcategories).2 i i.isLt hi'
      rw [← heq]
      exact hnone _ (List.get_mem _ ⟨i, hi'⟩)
    refine ⟨hempty, fun current => ?_⟩
    rw [← storedExpenses_roundTrip hsep hnotes, ← monthTotal_eq_iff hempty hnone]
    exact hspent current
  · rintro ⟨hempty, htotals⟩
    refine ⟨?_, fun current => ?_⟩
    · rw [List.forall₂_iff_get]
      refine ⟨hlength.symm, ?_⟩
      intro i hi hi'
      have hsorted := (List.mem_insertionSort _).mp
        (List.get_mem (TxDao.getAllAscending db) ⟨i, hi⟩)
      rw [hempty _ hsorted]
      exact hnone _ (List.get_mem _ ⟨i, hi'⟩)
    · rw [monthTotal_eq_iff hempty hnone, storedExpenses_roundTrip hsep hnotes]
      exact htotals current

end Exact

/-- One purchase, and a category with the id `1`. -/
def groceries (categoryId : Option ℤ) : Database :=
  TxDao.insert
    { id := 0
      amountMinor := 2550
      timestampUtcMillis := 1705320000000
      note := none
      categoryId := categoryId
      accountId := none
      isIncome := false }
    (CategoryDao.insertCategory
      { id := 0
        name := "Market".toList
        color := "#FF9800".toList
        icon := none
        isIncome := false } Database.empty)

/-- The note of the groceries is on one line. -/
theorem note_groceries (categoryId : Option ℤ) :
    ∀ row ∈ (groceries categoryId).transactions.rows, '\n' ∉ row.note.getD [] := by
  intro row hrow
  obtain rfl := List.mem_singleton.mp hrow
  exact List.not_mem_nil

/-- The theorem at the groceries. -/
theorem keepsCategories_groceries :
    KeepsCategories (.exact .point) exactMinorUnits (fun _ => 0) (groceries none) ↔
      (∀ row ∈ (groceries none).transactions.rows, row.categoryId = none) ∧
        ∀ current, monthTotal current
            (readBack (.exact .point) exactMinorUnits (fun _ => 0) (groceries none)) =
          monthTotal current (storedExpenses (groceries none)) :=
  keepsCategories_iff rfl (note_groceries none)

/-- The purchase loses its category. -/
theorem not_keepsCategories_groceries :
    ¬KeepsCategories (.exact .point) exactMinorUnits (fun _ => 0) (groceries (some 1)) := by
  rintro ⟨hcategories, -⟩
  obtain ⟨row, rows, hrow, -, hrows⟩ := List.forall₂_cons_left_iff.mp hcategories
  have hmem : row ∈ (roundTrip (.exact .point) exactMinorUnits (fun _ => 0)
      (groceries (some 1))).transactions.rows := by
    rw [hrows]
    exact List.mem_cons_self
  rw [categoryId_roundTrip rfl (note_groceries (some 1)) hmem] at hrow
  exact absurd hrow (by simp)

end SpendCraft
