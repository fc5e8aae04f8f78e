import SpendCraft.Repositories

/-!
# Writing Back What Was Read

A screen reads a row as a domain object, changes one field of it, and hands it to a
repository, which builds the whole row anew. The domain transaction and the domain category
have all columns of their rows. The domain account has a name only, and `AccountMapper` makes
up the others.

## Conventions

A write-back is a stored row, the change of one field, and the operation that writes the changed
object (`WriteBack`). What there should be afterwards is the table with the one column changed in
the row. The tables are compared up to the order of their rows, because a replaced row goes to the
end. A change may set the id itself, or set a field to the value that it has.

## Proof

The three mappers are composed with their inverses first: on transactions and categories nothing
is lost, on accounts all but the name is made up. The operation then overwrites one row or adds
one, and two overwritten tables are the same up to the order just if the rows are
(`overwrite_perm_overwrite_iff`). That stored rows have an id other than `0` is an invariant of
the runs of the store, so the condition on the id holds of every reachable one.

## Main results

* `overwrite_perm_overwrite_iff`, `not_perm_overwrite`: what it takes for two tables to
  differ in one row.
* `lossless_iff`: which write-backs change the one column only.
* `idsSet_run`: stored rows have ids.
-/

namespace SpendCraft

open Kotlin Relational Machine

/-! ### Reading -/

namespace CategoryMapper

/-- `CategoryMapper.fromEntity`. -/
def fromEntity (e : CategoryEntity) : Category :=
  { id := some e.id
    name := e.name
    color := e.color
    icon := e.icon
    isIncome := e.isIncome }

end CategoryMapper

/-- `toCategory`, the extension function beside the mapper. -/
def CategoryEntity.toCategory (e : CategoryEntity) : Category :=
  { id := some e.id
    name := e.name
    color := e.color
    icon := e.icon
    isIncome := e.isIncome }

/-- `toCategoryEntity`: a category without an id becomes a row with id 0. -/
def Category.toCategoryEntity (c : Category) : CategoryEntity :=
  { id := c.id.getD 0
    name := c.name
    color := c.color
    icon := c.icon
    isIncome := c.isIncome }

/-- The two pairs of mappers do the same. -/
theorem CategoryMapper.toEntity_eq : CategoryMapper.toEntity = Category.toCategoryEntity := rfl

/-- The two ways from a row to a category are the same function. -/
theorem CategoryMapper.fromEntity_eq : CategoryMapper.fromEntity = CategoryEntity.toCategory := rfl

namespace AccountMapper

/-- `AccountMapper.fromEntity`: of six columns, the domain model has the id and the name. -/
def fromEntity (e : AccountEntity) : Account :=
  { id := some e.id
    name := e.name }

/-- The row with the columns that the mapper makes up. -/
def madeUp (e : AccountEntity) : AccountEntity :=
  { e with
    type := "CASH".toList
    currency := "TRY".toList
    isDefault := false
    archived := false }

/-- An account survives its mapper exactly if it has the values the mapper makes up. -/
theorem madeUp_eq_self_iff {e : AccountEntity} :
    madeUp e = e ↔ e.type = "CASH".toList ∧ e.currency = "TRY".toList ∧ e.isDefault = false ∧
      e.archived = false := by
  obtain ⟨id, name, type, currency, isDefault, archived⟩ := e
  rw [madeUp, AccountEntity.mk.injEq]
  constructor
  · rintro ⟨-, -, rfl, rfl, rfl, rfl⟩
    exact ⟨rfl, rfl, rfl, rfl⟩
  · rintro ⟨htype, hcurrency, hdefault, harchived⟩
    exact ⟨rfl, rfl, htype.symm, hcurrency.symm, hdefault.symm, harchived.symm⟩

end AccountMapper

/-! ### Changes of one field -/

/-- One field of a transaction set to a value, as `copy` does. -/
inductive TransactionChange
  | id (id : Option ℤ)
  | amount (amount : Money)
  | timestampUtcMillis (timestampUtcMillis : ℤ)
  | note (note : Option Text)
  | categoryId (categoryId : Option ℤ)
  | accountId (accountId : Option ℤ)
  | type (type : TransactionType)

/-- One field of a category set to a value. -/
inductive CategoryChange
  | id (id : Option ℤ)
  | name (name : Text)
  | color (color : Text)
  | icon (icon : Option Text)
  | isIncome (isIncome : Bool)

/-- One field of an account set to a value. -/
inductive AccountChange
  | id (id : Option ℤ)
  | name (name : Text)

namespace TransactionChange

/-- The transaction with the field set. -/
def apply (m : Transaction) : TransactionChange → Transaction
  | .id value => { m with id := value }
  | .amount value => { m with amount := value }
  | .timestampUtcMillis value => { m with timestampUtcMillis := value }
  | .note value => { m with note := value }
  | .categoryId value => { m with categoryId := value }
  | .accountId value => { m with accountId := value }
  | .type value => { m with type := value }

/-- The row with the column of the field changed. -/
def column (e : TransactionEntity) : TransactionChange → TransactionEntity
  | .id value => { e with id := value.getD 0 }
  | .amount value => { e with amountMinor := value.minorUnits }
  | .timestampUtcMillis value => { e with timestampUtcMillis := value }
  | .note value => { e with note := value }
  | .categoryId value => { e with categoryId := value }
  | .accountId value => { e with accountId := value }
  | .type value => { e with isIncome := decide (value = .income) }

/-- The field that is set is the column that changes: nothing else is lost on the way. -/
theorem toEntity_apply (e : TransactionEntity) (change : TransactionChange) :
    TransactionMapper.toEntity (change.apply (TransactionMapper.fromEntity e)) =
      change.column e := by
  obtain ⟨_, _, _, _, _, _, isIncome⟩ := e
  cases change <;> cases isIncome <;> rfl

end TransactionChange

namespace CategoryChange

/-- The category with the field set. -/
def apply (c : Category) : CategoryChange → Category
  | .id value => { c with id := value }
  | .name value => { c with name := value }
  | .color value => { c with color := value }
  | .icon value => { c with icon := value }
  | .isIncome value => { c with isIncome := value }

/-- The column that the field belongs to. -/
def column (e : CategoryEntity) : CategoryChange → CategoryEntity
  | .id value => { e with id := value.getD 0 }
  | .name value => { e with name := value }
  | .color value => { e with color := value }
  | .icon value => { e with icon := value }
  | .isIncome value => { e with isIncome := value }

/-- The same for categories. -/
theorem toEntity_apply (e : CategoryEntity) (change : CategoryChange) :
    CategoryMapper.toEntity (change.apply (CategoryMapper.fromEntity e)) = change.column e := by
  cases change <;> rfl

end CategoryChange

namespace AccountChange

/-- The account with the field set. -/
def apply (a : Account) : AccountChange → Account
  | .id value => { a with id := value }
  | .name value => { a with name := value }

/-- The column that the field belongs to. -/
def column (e : AccountEntity) : AccountChange → AccountEntity
  | .id value => { e with id := value.getD 0 }
  | .name value => { e with name := value }

/-- The columns that the domain account has are kept, the others are made up. -/
theorem toEntity_apply (e : AccountEntity) (change : AccountChange) :
    AccountMapper.toEntity (change.apply (AccountMapper.fromEntity e)) false =
      AccountMapper.madeUp (change.column e) := by
  cases change <;> rfl

end AccountChange

/-! ### One row -/

section Overwrite

variable {ρ : Type*} [RowId ρ]

/-- The rows with another one in the place of `row`. -/
def overwrite (row new : ρ) (rows : List ρ) : List ρ :=
  rows.map fun r => if RowId.id r = RowId.id row then new else r

variable {t : AutoTable ρ} {row new new' : ρ} {rows : List ρ}

/-- Overwriting a stored row replaces it in its place, as no other row has its id. -/
theorem overwrite_split (h : row ∈ t.rows) :
    ∃ before after, t.rows = before ++ row :: after ∧
      (∀ r ∈ before, RowId.id r ≠ RowId.id row) ∧ (∀ r ∈ after, RowId.id r ≠ RowId.id row) ∧
      ∀ new : ρ, overwrite row new t.rows = before ++ new :: after := by
  obtain ⟨before, after, hsplit, hbefore, hafter⟩ := exists_split_of_mem t.nodup_keys h
  refine ⟨before, after, hsplit, hbefore, hafter, ?_⟩
  intro new
  rw [overwrite, hsplit, List.map_append, List.map_cons, if_pos rfl,
    map_overwrite_of_ne (fun _ => new) hbefore, map_overwrite_of_ne (fun _ => new) hafter]

/-- A row overwritten with itself changes nothing. -/
theorem overwrite_self (h : row ∈ t.rows) : overwrite row row t.rows = t.rows := by
  obtain ⟨before, after, hsplit, -, -, hoverwrite⟩ := overwrite_split h
  rw [hoverwrite, hsplit]

/-- Different rows in the same place make different tables. -/
theorem overwrite_perm_overwrite_iff (h : row ∈ t.rows) :
    (overwrite row new t.rows).Perm (overwrite row new' t.rows) ↔ new = new' := by
  obtain ⟨before, after, -, -, -, hoverwrite⟩ := overwrite_split h
  rw [hoverwrite, hoverwrite, List.perm_append_left_iff]
  constructor
  · intro hperm
    have hone : ([new] ++ after).Perm ([new'] ++ after) := hperm
    exact List.singleton_perm_singleton.mp ((List.perm_append_right_iff after).mp hone)
  · rintro rfl
    exact List.Perm.refl _

/-- A table that still has the id of `row` is not the one where it is replaced. -/
theorem not_perm_overwrite (hrow : ∃ r ∈ rows, RowId.id r = RowId.id row)
    (hnew : RowId.id new ≠ RowId.id row) : ¬rows.Perm (overwrite row new t.rows) := by
  rintro hperm
  obtain ⟨r, hr, hid⟩ := hrow
  obtain ⟨r', -, heq⟩ := List.mem_map.mp (hperm.mem_iff.mp hr)
  split_ifs at heq with hr'
  · exact hnew (by rw [heq, hid])
  · exact hr' (by rw [heq, hid])

/-- A table with one more row is not the one either. -/
theorem not_perm_overwrite_of_append {r : ρ} :
    ¬(t.rows ++ [r]).Perm (overwrite row new t.rows) := by
  intro hperm
  have hlength := hperm.length_eq
  rw [overwrite, List.length_map, List.length_append, List.length_singleton] at hlength
  omega

/-- An `UPDATE` by a row with the same id. -/
theorem rows_update_eq_overwrite (h : RowId.id new = RowId.id row) :
    (t.update new).rows = overwrite row new t.rows := by
  rw [AutoTable.rows_update, h, overwrite]

/-- An update keeps the ids of the table. -/
theorem mem_rows_update_id (h : row ∈ t.rows) (new : ρ) :
    ∃ r ∈ (t.update new).rows, RowId.id r = RowId.id row := by
  refine ⟨_, List.mem_map_of_mem h, ?_⟩
  split_ifs with hid
  · exact hid.symm
  · rfl

/-- An `INSERT OR REPLACE` by a row with the same id. -/
theorem rows_insertOrReplace_perm (h : row ∈ t.rows) (hid : RowId.id new = RowId.id row)
    (hne : RowId.id row ≠ 0) (hwith : RowId.withId (RowId.id new) new = new) :
    (t.insertOrReplace new).rows.Perm (overwrite row new t.rows) := by
  obtain ⟨before, after, hsplit, hbefore, hafter, hoverwrite⟩ := overwrite_split h
  have hstored : t.storedId new = RowId.id new := if_neg (by rw [hid]; exact hne)
  rw [AutoTable.rows_insertOrReplace, hstored, hwith, hoverwrite, hsplit, hid, List.filter_append,
    List.filter_cons_of_neg (by simp), filter_remove_of_ne hbefore, filter_remove_of_ne hafter,
    List.append_assoc]
  exact (List.perm_append_singleton new after).append_left before

/-- An `INSERT OR REPLACE` under another id. -/
theorem mem_insertOrReplace_of_ne (h : row ∈ t.rows) (hid : RowId.id new ≠ RowId.id row) :
    row ∈ (t.insertOrReplace new).rows := by
  have hstored : RowId.id row ≠ t.storedId new := by
    rw [AutoTable.storedId]
    split_ifs
    · exact t.generatedId_not_mem h
    · exact Ne.symm hid
  exact AutoTable.mem_insertOrReplace.mpr (Or.inl ⟨h, hstored⟩)

/-! ### Generated ids -/

/-- The id a row is stored under is never 0, which stands for none. -/
theorem storedId_ne_zero (t : AutoTable ρ) (r : ρ) : t.storedId r ≠ 0 := by
  have hsequence := t.sequence_nonneg
  rw [AutoTable.storedId]
  split_ifs with hid
  · omega
  · exact hid

/-- A table without the id 0 stays without it when a row is inserted. -/
theorem ids_insertOrReplace (h : ∀ r ∈ t.rows, RowId.id r ≠ 0) (new : ρ) :
    ∀ r ∈ (t.insertOrReplace new).rows, RowId.id r ≠ 0 := by
  intro r hr
  rcases AutoTable.mem_insertOrReplace.mp hr with ⟨hold, -⟩ | rfl
  · exact h r hold
  · rw [RowId.id_withId]
    exact storedId_ne_zero t new

/-- The same when a row is inserted unless its id is taken. -/
theorem ids_insertOrIgnore (h : ∀ r ∈ t.rows, RowId.id r ≠ 0) (new : ρ) :
    ∀ r ∈ (t.insertOrIgnore new).rows, RowId.id r ≠ 0 := by
  intro r hr
  cases hkey : t.toTable.hasKey (t.storedId new) with
  | true =>
      rw [AutoTable.rows_insertOrIgnore_of_hasKey hkey] at hr
      exact h r hr
  | false =>
      rw [AutoTable.rows_insertOrIgnore hkey, List.mem_append, List.mem_singleton] at hr
      rcases hr with hold | rfl
      · exact h r hold
      · rw [RowId.id_withId]
        exact storedId_ne_zero t new

/-- The same when a row is updated. -/
theorem ids_update (h : ∀ r ∈ t.rows, RowId.id r ≠ 0) (new : ρ) :
    ∀ r ∈ (t.update new).rows, RowId.id r ≠ 0 := by
  intro r hr
  obtain ⟨r', hr', rfl⟩ := List.mem_map.mp hr
  split_ifs with hid
  · rw [← hid]
    exact h r' hr'
  · exact h r' hr'

/-- The same when rows are deleted. -/
theorem ids_deleteWhere (h : ∀ r ∈ t.rows, RowId.id r ≠ 0) (p : ρ → Bool) :
    ∀ r ∈ (t.deleteWhere p).rows, RowId.id r ≠ 0 :=
  fun r hr => h r (List.mem_of_mem_filter hr)

end Overwrite

/-- No stored row has the id `0`, which asks for a generated one. -/
structure IdsSet (store : Store) : Prop where
  transactions : ∀ row ∈ store.transactions.rows, row.id ≠ 0
  categories : ∀ row ∈ store.categories.rows, row.id ≠ 0
  accounts : ∀ row ∈ store.accounts.rows, row.id ≠ 0

/-- The store of a first start has no row with id 0. -/
theorem idsSet_seeded : IdsSet Store.seeded :=
  ⟨by decide, by decide, by decide⟩

/-- **Step lemma:** no operation stores a row with id 0. -/
theorem idsSet_step {store : Store} (h : IdsSet store) (op : StoreOp) :
    IdsSet (op.step store) := by
  obtain ⟨htransactions, hcategories, haccounts⟩ := h
  cases op with
  | upsert transaction =>
      obtain ⟨hsame, -, -⟩ :=
        TransactionsRepositoryImpl.tables_upsert transaction store.toDatabase
      refine ⟨?_, ?_, haccounts⟩
      · change ∀ row ∈ (TransactionsRepositoryImpl.upsert transaction
          store.toDatabase).transactions.rows, row.id ≠ 0
        rw [TransactionsRepositoryImpl.upsert]
        split_ifs
        · exact ids_insertOrReplace htransactions _
        · exact ids_update htransactions _
      · change ∀ row ∈ (TransactionsRepositoryImpl.upsert transaction
          store.toDatabase).categories.rows, row.id ≠ 0
        rw [hsame]
        exact hcategories
  | delete transactionId => exact ⟨ids_deleteWhere htransactions _, hcategories, haccounts⟩
  | insertCategory category =>
      exact ⟨htransactions, ids_insertOrIgnore hcategories _, haccounts⟩
  | replaceCategory category =>
      exact ⟨htransactions, ids_insertOrReplace hcategories _, haccounts⟩
  | updateCategory category =>
      cases hid : category.id with
      | none =>
          have hnone : (StoreOp.updateCategory category).step store = store := by
            simp only [StoreOp.step, StoreOp.stepDatabase, CategoryRepositoryImpl.updateCategory,
              hid, Option.map_none, Option.getD_none]
          rw [hnone]
          exact ⟨htransactions, hcategories, haccounts⟩
      | some id =>
          have hsome : (StoreOp.updateCategory category).step store =
              { store with
                toDatabase := CategoryDao.updateCategory id category.name category.color
                  (category.icon.getD []) store.toDatabase } := by
            simp only [StoreOp.step, StoreOp.stepDatabase, CategoryRepositoryImpl.updateCategory,
              hid, Option.map_some, Option.getD_some]
          rw [hsome]
          refine ⟨htransactions, ?_, haccounts⟩
          intro row hrow
          obtain ⟨row', hrow', rfl⟩ := List.mem_map.mp hrow
          rw [CategoryDao.id_updatedCategory]
          exact hcategories row' hrow'
  | deleteCategory categoryId => exact ⟨htransactions, ids_deleteWhere hcategories _, haccounts⟩
  | insertAccount account => exact ⟨htransactions, hcategories, ids_insertOrIgnore haccounts _⟩
  | updateAccount account => exact ⟨htransactions, hcategories, ids_update haccounts _⟩
  | deleteAccount accountId => exact ⟨htransactions, hcategories, ids_deleteWhere haccounts _⟩
  | upsertBudget budget => exact ⟨htransactions, hcategories, haccounts⟩
  | deleteBudget categoryId => exact ⟨htransactions, hcategories, haccounts⟩

/-- **Every stored row has an id**, after any calls. -/
theorem idsSet_run (ops : List StoreOp) : IdsSet (run StoreOp.step Store.seeded ops) :=
  run_invariant_of_step (I := IdsSet) (fun _ op h => idsSet_step h op) idsSet_seeded ops

/-! ### Write-backs -/

/-- A stored row with the change of one field. The repositories insert a category in two
ways. -/
inductive WriteBack (store : Store)
  | upsert (row : TransactionEntity) (stored : row ∈ store.transactions.rows)
      (change : TransactionChange)
  | insertCategory (row : CategoryEntity) (stored : row ∈ store.categories.rows)
      (change : CategoryChange)
  | replaceCategory (row : CategoryEntity) (stored : row ∈ store.categories.rows)
      (change : CategoryChange)
  | updateAccount (row : AccountEntity) (stored : row ∈ store.accounts.rows)
      (change : AccountChange)

namespace WriteBack

variable {store : Store}

/-- The call that writes the changed object. -/
def op : WriteBack store → StoreOp
  | upsert row _ change => .upsert (change.apply (TransactionMapper.fromEntity row))
  | insertCategory row _ change => .insertCategory (change.apply (CategoryMapper.fromEntity row))
  | replaceCategory row _ change => .replaceCategory (change.apply row.toCategory)
  | updateAccount row _ change => .updateAccount (change.apply (AccountMapper.fromEntity row))

/-- The transactions that there should be, up to their order. -/
def transactions : WriteBack store → List TransactionEntity
  | upsert row _ change => overwrite row (change.column row) store.transactions.rows
  | _ => store.transactions.rows

/-- The rows of the categories after the write-back that is meant. -/
def categories : WriteBack store → List CategoryEntity
  | insertCategory row _ change => overwrite row (change.column row) store.categories.rows
  | replaceCategory row _ change => overwrite row (change.column row) store.categories.rows
  | _ => store.categories.rows

/-- The rows of the accounts after the write-back that is meant. -/
def accounts : WriteBack store → List AccountEntity
  | updateAccount row _ change => overwrite row (change.column row) store.accounts.rows
  | _ => store.accounts.rows

/-- The write-back changes the column of the field in the row, and nothing else. -/
structure Lossless (write : WriteBack store) : Prop where
  transactions : (write.op.step store).transactions.rows.Perm write.transactions
  categories : (write.op.step store).categories.rows.Perm write.categories
  accounts : (write.op.step store).accounts.rows.Perm write.accounts
  budgets : (write.op.step store).budgets = store.budgets
  budgetAlerts : (write.op.step store).budgetAlerts = store.budgetAlerts

/-- The row can be written whole, and to its place. -/
def KeepsColumns : WriteBack store → Prop
  | upsert row _ change => row.id ≠ 0 ∧ (change.column row).id = row.id
  | insertCategory row _ change => row.id ≠ 0 ∧ change.column row = row
  | replaceCategory row _ change => row.id ≠ 0 ∧ (change.column row).id = row.id
  | updateAccount row _ change => (change.column row).id = row.id ∧ row.type = "CASH".toList ∧
      row.currency = "TRY".toList ∧ row.isDefault = false ∧ row.archived = false

/-! ### The calls -/

/-- `upsert` of a transaction that was read and changed: an insert exactly if the id was set to
none or to 0. -/
theorem rows_upsert (row : TransactionEntity) (change : TransactionChange) (db : Database) :
    (TransactionsRepositoryImpl.upsert (change.apply (TransactionMapper.fromEntity row))
        db).transactions.rows =
      if (change.column row).id = 0 then
        (db.transactions.insertOrReplace (change.column row)).rows
      else (db.transactions.update (change.column row)).rows := by
  rw [← change.toEntity_apply, TransactionsRepositoryImpl.upsert]
  by_cases hid : (change.apply (TransactionMapper.fromEntity row)).id.getD 0 = 0
  · have hid' : (TransactionMapper.toEntity
        (change.apply (TransactionMapper.fromEntity row))).id = 0 := hid
    rw [if_pos hid, if_pos hid']
    rfl
  · have hid' : (TransactionMapper.toEntity
        (change.apply (TransactionMapper.fromEntity row))).id ≠ 0 := hid
    rw [if_neg hid, if_neg hid']
    rfl

/-- Writing a transaction back loses nothing exactly if it keeps its id. -/
theorem lossless_upsert_iff {row : TransactionEntity} (stored : row ∈ store.transactions.rows)
    (change : TransactionChange) :
    (upsert row stored change).Lossless ↔ row.id ≠ 0 ∧ (change.column row).id = row.id := by
  have hrows := rows_upsert row change store.toDatabase
  have hlossless : (upsert row stored change).Lossless ↔
      (TransactionsRepositoryImpl.upsert (change.apply (TransactionMapper.fromEntity row))
        store.toDatabase).transactions.rows.Perm
          (overwrite row (change.column row) store.transactions.rows) := by
    obtain ⟨hcategories, hbudgets, halerts⟩ := TransactionsRepositoryImpl.tables_upsert
      (change.apply (TransactionMapper.fromEntity row)) store.toDatabase
    constructor
    · exact Lossless.transactions
    · intro hperm
      have hcategories' : ((upsert row stored change).op.step store).categories.rows =
          store.categories.rows := congrArg (fun table => table.rows) hcategories
      refine ⟨hperm, ?_, List.Perm.refl _, hbudgets, halerts⟩
      rw [hcategories']
      exact List.Perm.refl _
  rw [hlossless, hrows]
  by_cases hzero : (change.column row).id = 0
  · rw [if_pos hzero, AutoTable.rows_insertOrReplace_generated _ hzero]
    refine iff_of_false not_perm_overwrite_of_append ?_
    rintro ⟨hne, hid⟩
    exact hne (hid.symm.trans hzero)
  · rw [if_neg hzero]
    by_cases hid : (change.column row).id = row.id
    · have hupdate : (store.transactions.update (change.column row)).rows =
          overwrite row (change.column row) store.transactions.rows := rows_update_eq_overwrite hid
      rw [hupdate]
      exact iff_of_true (List.Perm.refl _) ⟨hid ▸ hzero, hid⟩
    · exact iff_of_false (not_perm_overwrite (mem_rows_update_id stored _) hid)
        fun hkeeps => hid hkeeps.2

/-- A call that writes to the categories only. -/
theorem lossless_iff_categories {write : WriteBack store}
    (htransactions : (write.op.step store).transactions.rows = write.transactions)
    (haccounts : (write.op.step store).accounts.rows = write.accounts)
    (hbudgets : (write.op.step store).budgets = store.budgets)
    (halerts : (write.op.step store).budgetAlerts = store.budgetAlerts) :
    write.Lossless ↔ (write.op.step store).categories.rows.Perm write.categories := by
  constructor
  · exact Lossless.categories
  · intro hperm
    exact ⟨htransactions ▸ List.Perm.refl _, hperm, haccounts ▸ List.Perm.refl _, hbudgets, halerts⟩

/-- `insertCategory` ignores a row whose id is taken, so it loses every change. -/
theorem lossless_insertCategory_iff {row : CategoryEntity} (stored : row ∈ store.categories.rows)
    (change : CategoryChange) :
    (insertCategory row stored change).Lossless ↔ row.id ≠ 0 ∧ change.column row = row := by
  have hrows : ((insertCategory row stored change).op.step store).categories.rows =
      (store.categories.insertOrIgnore (change.column row)).rows := by
    rw [← change.toEntity_apply]
    rfl
  rw [lossless_iff_categories rfl rfl rfl rfl, hrows, categories]
  by_cases hid : (change.column row).id = row.id
  · by_cases hzero : row.id = 0
    · have hstored : store.categories.storedId (change.column row) =
          store.categories.sequence + 1 := if_pos (hid.trans hzero)
      have hfree : store.categories.toTable.hasKey
          (store.categories.storedId (change.column row)) = false := by
        rw [hstored, Table.hasKey_eq_false_iff]
        exact fun r hr => store.categories.generatedId_not_mem hr
      rw [AutoTable.rows_insertOrIgnore hfree]
      exact iff_of_false not_perm_overwrite_of_append fun hkeeps => hkeeps.1 hzero
    · have hstored : store.categories.storedId (change.column row) = row.id := by
        rw [← hid]
        exact if_neg (fun h => hzero (hid.symm.trans h))
      have htaken : store.categories.toTable.hasKey
          (store.categories.storedId (change.column row)) = true := by
        rw [hstored, Table.hasKey, List.any_eq_true]
        exact ⟨row, stored, beq_self_eq_true _⟩
      have hself := overwrite_self stored
      rw [AutoTable.rows_insertOrIgnore_of_hasKey htaken]
      nth_rewrite 1 [← hself]
      rw [overwrite_perm_overwrite_iff stored, eq_comm]
      exact ⟨fun heq => ⟨hzero, heq⟩, And.right⟩
  · have hmem := AutoTable.rows_subset_insertOrIgnore store.categories (change.column row) stored
    refine iff_of_false (not_perm_overwrite ⟨row, hmem, rfl⟩ hid) ?_
    rintro ⟨-, heq⟩
    exact hid (by rw [heq])

/-- `insertCategory` of the category repository replaces the row, so only a changed id loses
something. -/
theorem lossless_replaceCategory_iff {row : CategoryEntity} (stored : row ∈ store.categories.rows)
    (change : CategoryChange) :
    (replaceCategory row stored change).Lossless ↔
      row.id ≠ 0 ∧ (change.column row).id = row.id := by
  have hrows : ((replaceCategory row stored change).op.step store).categories.rows =
      (store.categories.insertOrReplace (change.column row)).rows := by
    rw [← change.toEntity_apply]
    rfl
  rw [lossless_iff_categories rfl rfl rfl rfl, hrows, categories]
  by_cases hid : (change.column row).id = row.id
  · by_cases hzero : row.id = 0
    · rw [AutoTable.rows_insertOrReplace_generated _ (hid.trans hzero)]
      exact iff_of_false not_perm_overwrite_of_append fun hkeeps => hkeeps.1 hzero
    · exact iff_of_true (rows_insertOrReplace_perm stored hid hzero rfl) ⟨hzero, hid⟩
  · exact iff_of_false
      (not_perm_overwrite ⟨row, mem_insertOrReplace_of_ne stored hid, rfl⟩ hid)
      fun hkeeps => hid hkeeps.2

/-- `updateAccount` loses nothing exactly if the columns of the row that the model lacks have the
values the mapper makes up. -/
theorem lossless_updateAccount_iff {row : AccountEntity} (stored : row ∈ store.accounts.rows)
    (change : AccountChange) :
    (updateAccount row stored change).Lossless ↔
      (change.column row).id = row.id ∧ row.type = "CASH".toList ∧
        row.currency = "TRY".toList ∧ row.isDefault = false ∧ row.archived = false := by
  have hlossless : (updateAccount row stored change).Lossless ↔
      (store.accounts.update (AccountMapper.toEntity
        (change.apply (AccountMapper.fromEntity row)) false)).rows.Perm
          (overwrite row (change.column row) store.accounts.rows) := by
    constructor
    · exact Lossless.accounts
    · intro hperm
      exact ⟨List.Perm.refl _, List.Perm.refl _, hperm, rfl, rfl⟩
  rw [hlossless, change.toEntity_apply]
  by_cases hid : (change.column row).id = row.id
  · have hid' : (AccountMapper.madeUp (change.column row)).id = row.id := hid
    have hcolumns : (change.column row).type = row.type ∧
        (change.column row).currency = row.currency ∧
        (change.column row).isDefault = row.isDefault ∧
        (change.column row).archived = row.archived := by
      cases change <;> exact ⟨rfl, rfl, rfl, rfl⟩
    obtain ⟨htype, hcurrency, hdefault, harchived⟩ := hcolumns
    have hupdate : (store.accounts.update (AccountMapper.madeUp (change.column row))).rows =
        overwrite row (AccountMapper.madeUp (change.column row)) store.accounts.rows :=
      rows_update_eq_overwrite hid'
    rw [hupdate, overwrite_perm_overwrite_iff stored, AccountMapper.madeUp_eq_self_iff, htype,
      hcurrency, hdefault, harchived]
    exact ⟨fun hcolumns => ⟨hid, hcolumns⟩, And.right⟩
  · have hid' : (AccountMapper.madeUp (change.column row)).id ≠ row.id := hid
    exact iff_of_false (not_perm_overwrite (mem_rows_update_id stored _) hid)
      fun hkeeps => hid hkeeps.1

/-- **A write-back is lossless** just when the row can be written whole, and to its place. -/
theorem lossless_iff (write : WriteBack store) : write.Lossless ↔ write.KeepsColumns := by
  cases write with
  | upsert row stored change => exact lossless_upsert_iff stored change
  | insertCategory row stored change => exact lossless_insertCategory_iff stored change
  | replaceCategory row stored change => exact lossless_replaceCategory_iff stored change
  | updateAccount row stored change => exact lossless_updateAccount_iff stored change

end WriteBack

/-- The account of a new store is renamed. -/
def renamedDefault : WriteBack Store.seeded :=
  .updateAccount
    { id := 1, name := "Ana Hesap".toList, type := "CASH".toList, currency := "TRY".toList,
      isDefault := true, archived := false }
    (by decide) (.name "Nakit".toList)

/-- It is no longer the default account. -/
theorem not_lossless_renamedDefault : ¬renamedDefault.Lossless := by
  intro hlossless
  have hperm := hlossless.accounts
  exact absurd hperm (by decide)

end SpendCraft
