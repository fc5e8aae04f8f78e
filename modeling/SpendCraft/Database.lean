import SpendCraft.Lib.Table
import SpendCraft.Model
import Mathlib.Data.List.Sort
import Mathlib.Data.List.Lex
import Mathlib.Data.Char

/-!
# The Database

The Room entities and the DAO functions over them. A table carries the uniqueness of its
primary key, and the tables with generated ids carry the bound on the ids given out, so
the DAO functions keep both by their types.

## Conventions

There is one structure for each entity with the columns of its table, and one definition for each
DAO function, under its name and with its query above it. A query that is observed is its result
for the tables as they are; what a flow makes of it is a matter of the modules that have flows.
Text keys are texts, row ids and times are integers, and amounts are `Int64`.

`Database` has the tables that the budget checks read and write, and `Store` extends it by the
accounts. Foreign keys are not declared by the entities, so a delete leaves the rows that refer to
what was deleted.

## Main definitions

* `Database`, `Store`: the tables.
* `TxDao`, `CategoryDao`, `BudgetDao`, `AccountDao`, `BudgetAlertDao`: the functions over them.
-/

namespace SpendCraft

open Kotlin Relational

/-! ### Entities -/

/-- A row of the table `transactions`. -/
structure TransactionEntity where
  id : ℤ
  amountMinor : Int64
  timestampUtcMillis : ℤ
  note : Option Text
  categoryId : Option ℤ
  accountId : Option ℤ
  isIncome : Bool
  deriving DecidableEq, Repr

/-- A row of the table `categories`. -/
structure CategoryEntity where
  id : ℤ
  name : Text
  color : Text
  icon : Option Text
  isIncome : Bool
  deriving DecidableEq, Repr

/-- A monthly limit; `categoryId` is the name of the category. -/
structure BudgetEntity where
  categoryId : Text
  monthlyLimitMinor : Int64
  deriving DecidableEq, Repr

/-- A row of the table `accounts`. -/
structure AccountEntity where
  id : ℤ
  name : Text
  type : Text
  currency : Text
  isDefault : Bool
  archived : Bool
  deriving DecidableEq, Repr

/-- The record that an alert of a level, 80 or 100 percent, was sent in a month. -/
structure BudgetAlertEntity where
  categoryId : Text
  level : ℤ
  monthKey : Text
  deriving DecidableEq, Repr

/-- Rows are inserted under their `id`, which Room generates for 0. -/
instance : RowId TransactionEntity where
  id := TransactionEntity.id
  withId n r := { r with id := n }
  id_withId _ _ := rfl

/-- Rows are inserted under their `id`, which Room generates for 0. -/
instance : RowId CategoryEntity where
  id := CategoryEntity.id
  withId n r := { r with id := n }
  id_withId _ _ := rfl

/-- Rows are inserted under their `id`, which Room generates for 0. -/
instance : RowId AccountEntity where
  id := AccountEntity.id
  withId n r := { r with id := n }
  id_withId _ _ := rfl

/-- The tables the budget checks and the transaction store work on. The primary key of
`budgetAlerts` consists of all its columns. -/
structure Database where
  transactions : AutoTable TransactionEntity
  categories : AutoTable CategoryEntity
  budgets : Table BudgetEntity.categoryId
  budgetAlerts : Table (id : BudgetAlertEntity → BudgetAlertEntity)

/-- The database without rows. -/
def Database.empty : Database :=
  { transactions := AutoTable.empty _
    categories := AutoTable.empty _
    budgets := Table.empty _
    budgetAlerts := Table.empty _ }

/-- The tables that the repositories work on. -/
structure Store extends Database where
  accounts : AutoTable AccountEntity

/-- The store without rows. -/
def Store.empty : Store :=
  { toDatabase := Database.empty
    accounts := AutoTable.empty _ }

/-! ### Data access objects -/

namespace TxDao

/-- `SELECT * FROM transactions ORDER BY timestampUtcMillis DESC`. SQLite promises no order for
rows with one timestamp; here they stay in the order of the table, and nothing that is proved
depends on it. -/
def observeAll (db : Database) : List TransactionEntity :=
  db.transactions.rows.insertionSort fun a b => b.timestampUtcMillis ≤ a.timestampUtcMillis

/-- `SELECT * FROM transactions WHERE accountId = :accountId ORDER BY timestampUtcMillis
DESC`. -/
def observeByAccount (accountId : ℤ) (db : Database) : List TransactionEntity :=
  (db.transactions.rows.filter fun row => row.accountId == some accountId).insertionSort
    fun a b => b.timestampUtcMillis ≤ a.timestampUtcMillis

/-- `SELECT * FROM transactions ORDER BY timestampUtcMillis ASC`. -/
def getAllAscending (db : Database) : List TransactionEntity :=
  db.transactions.rows.insertionSort fun a b => a.timestampUtcMillis ≤ b.timestampUtcMillis

/-- `@Insert(onConflict = REPLACE)`; the id `0` is replaced by a generated one. -/
def insert (entity : TransactionEntity) (db : Database) : Database :=
  { db with transactions := db.transactions.insertOrReplace entity }

/-- `@Update`. -/
def update (entity : TransactionEntity) (db : Database) : Database :=
  { db with transactions := db.transactions.update entity }

/-- `DELETE FROM transactions WHERE id = :id`. -/
def deleteById (id : ℤ) (db : Database) : Database :=
  { db with transactions := db.transactions.deleteWhere fun row => row.id == id }

end TxDao

namespace CategoryDao

/-- `SELECT * FROM categories ORDER BY name ASC`. -/
def getAllAscending (db : Database) : List CategoryEntity :=
  db.categories.rows.insertionSort fun a b => a.name ≤ b.name

/-- `@Insert(onConflict = IGNORE)`. -/
def insert (category : CategoryEntity) (db : Database) : Database :=
  { db with categories := db.categories.insertOrIgnore category }

/-- `insertAll`: one insert after the other. -/
def insertAll (categories : List CategoryEntity) (db : Database) : Database :=
  categories.foldl (fun db category => insert category db) db

/-- `@Insert(onConflict = REPLACE)`. -/
def insertCategory (category : CategoryEntity) (db : Database) : Database :=
  { db with categories := db.categories.insertOrReplace category }

/-- `DELETE FROM categories WHERE id = :id`. -/
def deleteById (id : ℤ) (db : Database) : Database :=
  { db with categories := db.categories.deleteWhere fun row => row.id == id }

/-- The row that `updateCategory` makes of a row. -/
def updatedCategory (id : ℤ) (name color icon : Text) (row : CategoryEntity) :
    CategoryEntity :=
  if row.id = id then { row with name := name, color := color, icon := some icon } else row

/-- An update of a category keeps its id. -/
theorem id_updatedCategory (id : ℤ) (name color icon : Text) (row : CategoryEntity) :
    (updatedCategory id name color icon row).id = row.id := by
  rw [updatedCategory]
  split_ifs
  · rfl
  · rfl

/-- `UPDATE categories SET name = :name, color = :color, icon = :icon WHERE id = :id`. -/
def updateCategory (id : ℤ) (name color icon : Text) (db : Database) : Database :=
  { db with
    categories := db.categories.updateSet (updatedCategory id name color icon)
      (id_updatedCategory id name color icon) }

/-- `DELETE FROM categories WHERE id = :categoryId`. -/
def deleteCategory (categoryId : ℤ) (db : Database) : Database :=
  { db with categories := db.categories.deleteWhere fun row => row.id == categoryId }

end CategoryDao

namespace BudgetDao

/-- `SELECT * FROM budget`. -/
def getAllAscending (db : Database) : List BudgetEntity :=
  db.budgets.rows

/-- `@Insert(onConflict = REPLACE)`. -/
def upsert (budget : BudgetEntity) (db : Database) : Database :=
  { db with budgets := db.budgets.insertOrReplace budget }

/-- `DELETE FROM budget WHERE categoryId = :categoryId`. -/
def deleteByCategory (categoryId : Text) (db : Database) : Database :=
  { db with budgets := db.budgets.deleteWhere fun row => row.categoryId == categoryId }

end BudgetDao

namespace AccountDao

/-- `SELECT * FROM accounts WHERE isDefault = 1 LIMIT 1`. -/
def getDefaultAccount (store : Store) : Option AccountEntity :=
  store.accounts.rows.find? AccountEntity.isDefault

/-- `@Insert(onConflict = IGNORE)`. -/
def insert (account : AccountEntity) (store : Store) : Store :=
  { store with accounts := store.accounts.insertOrIgnore account }

/-- `insertAll`: one insert after the other. -/
def insertAll (accounts : List AccountEntity) (store : Store) : Store :=
  accounts.foldl (fun store account => insert account store) store

/-- `@Update`. -/
def update (account : AccountEntity) (store : Store) : Store :=
  { store with accounts := store.accounts.update account }

/-- `DELETE FROM accounts WHERE id = :id AND isDefault = 0`. -/
def deleteById (id : ℤ) (store : Store) : Store :=
  { store with
    accounts := store.accounts.deleteWhere fun row => row.id == id && !row.isDefault }

end AccountDao

namespace BudgetAlertDao

/-- `SELECT COUNT(*) FROM budget_alert WHERE …`. -/
def alertExists (categoryId : Text) (level : ℤ) (monthKey : Text) (db : Database) : ℕ :=
  db.budgetAlerts.rows.countP fun alert =>
    alert.categoryId == categoryId && alert.level == level && alert.monthKey == monthKey

/-- `@Insert(onConflict = IGNORE)`. -/
def insert (alert : BudgetAlertEntity) (db : Database) : Database :=
  { db with budgetAlerts := db.budgetAlerts.insertOrIgnore alert }

/-- The query of the check sees exactly the row with the three columns of the alert. -/
theorem alertExists_pos_iff {alert : BudgetAlertEntity} {db : Database} :
    0 < alertExists alert.categoryId alert.level alert.monthKey db ↔
      alert ∈ db.budgetAlerts.rows := by
  rw [alertExists, List.countP_pos_iff]
  constructor
  · rintro ⟨row, hmem, heq⟩
    obtain ⟨categoryId, level, monthKey⟩ := alert
    obtain ⟨categoryId', level', monthKey'⟩ := row
    simp only [Bool.and_eq_true, beq_iff_eq] at heq
    obtain ⟨⟨rfl, rfl⟩, rfl⟩ := heq
    exact hmem
  · intro hmem
    exact ⟨alert, hmem, by simp⟩

/-- An alert is in the table once it was inserted, however often. -/
theorem mem_insert {alert row : BudgetAlertEntity} {db : Database} :
    row ∈ (insert alert db).budgetAlerts.rows ↔ row ∈ db.budgetAlerts.rows ∨ row = alert := by
  have hiff : row ∈ (insert alert db).budgetAlerts.rows ↔ _ := Table.mem_insertOrIgnore
  rw [hiff, Table.hasKey_eq_false_iff]
  constructor
  · rintro (hmem | ⟨rfl, -⟩)
    · exact Or.inl hmem
    · exact Or.inr rfl
  · rintro (hmem | rfl)
    · exact Or.inl hmem
    · by_cases hmem : row ∈ db.budgetAlerts.rows
      · exact Or.inl hmem
      · refine Or.inr ⟨rfl, ?_⟩
        rintro row' hmem' rfl
        exact hmem hmem'

end BudgetAlertDao

end SpendCraft
