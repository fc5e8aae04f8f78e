import SpendCraft.Database

/-!
# The Transactions Repository

`TransactionsRepositoryImpl` stores domain transactions through `TransactionMapper` and
`TxDao`: a transaction without an id is inserted under a generated one, any other is
written over the row with its id.

## Conventions

The domain value has an optional id and a type, the row an id that may be `0` and the flag for an
expense or an income, and `TransactionMapper` goes between the two. A write over an id that no row
has writes nothing. The three observing functions are queries, composed with the mapper; what
becomes of their flows is for the modules that have view models.

## Proof

The lemmas about `upsert` are those of `Lib.Table`, at the tables of the database: a generated id
is appended, and a stored one is overwritten in its place. Later modules cite them and the
mappers, and never unfold the two functions.

## Main results

* `fromEntity_toEntity`, `toEntity_fromEntity`: the mapper, both ways.
* `rows_upsert_generated`, `rows_upsert_of_id`: what an upsert does to the rows.
-/

namespace SpendCraft

open Relational

namespace TransactionMapper

/-- `TransactionMapper.fromEntity`: the type is read from the flag `isIncome`. -/
def fromEntity (e : TransactionEntity) : Transaction :=
  { id := some e.id
    amount := { minorUnits := e.amountMinor }
    timestampUtcMillis := e.timestampUtcMillis
    note := e.note
    categoryId := e.categoryId
    accountId := e.accountId
    type := if e.isIncome then .income else .expense }

/-- `TransactionMapper.toEntity`: a transaction without an id becomes a row with id 0, for which
Room draws one. -/
def toEntity (m : Transaction) : TransactionEntity :=
  { id := m.id.getD 0
    amountMinor := m.amount.minorUnits
    timestampUtcMillis := m.timestampUtcMillis
    note := m.note
    categoryId := m.categoryId
    accountId := m.accountId
    isIncome := decide (m.type = .income) }

/-- A row survives the way through the domain model and back. -/
@[simp] theorem toEntity_fromEntity (e : TransactionEntity) : toEntity (fromEntity e) = e := by
  obtain ⟨id, amountMinor, timestampUtcMillis, note, categoryId, accountId, isIncome⟩ := e
  cases isIncome <;> rfl

/-- The id that is missing before the row is stored is the only difference. -/
theorem fromEntity_toEntity (m : Transaction) :
    fromEntity (toEntity m) = { m with id := some (m.id.getD 0) } := by
  obtain ⟨id, amount, timestampUtcMillis, note, categoryId, accountId, type⟩ := m
  cases type <;> rfl

end TransactionMapper

namespace TransactionsRepositoryImpl

/-- `upsert`: a transaction without an id, or with id 0, is inserted; any other replaces the row
of its id. -/
def upsert (transaction : Transaction) (db : Database) : Database :=
  let entity := TransactionMapper.toEntity transaction
  let id := transaction.id.getD 0
  if id = 0 then TxDao.insert entity db
  else TxDao.update { entity with id := id } db

/-- `observeTransactions`: all transactions, the newest first. -/
def observeTransactions (db : Database) : List Transaction :=
  (TxDao.observeAll db).map TransactionMapper.fromEntity

/-- `observeTransactionsByAccount`: the transactions of one account, the newest first. -/
def observeTransactionsByAccount (accountId : ℤ) (db : Database) : List Transaction :=
  (TxDao.observeByAccount accountId db).map TransactionMapper.fromEntity

/-- `getAllAscending`: all transactions, the oldest first. -/
def getAllAscending (db : Database) : List Transaction :=
  (TxDao.getAllAscending db).map TransactionMapper.fromEntity

/-- The row of a transaction stored under a given id. -/
def rowWithId (id : ℤ) (transaction : Transaction) : TransactionEntity :=
  { TransactionMapper.toEntity transaction with id := id }

/-- Reading a stored row back gives the transaction with the id it was stored under. -/
theorem fromEntity_rowWithId (id : ℤ) (transaction : Transaction) :
    TransactionMapper.fromEntity (rowWithId id transaction) =
      { transaction with id := some id } := by
  obtain ⟨id', amount, timestampUtcMillis, note, categoryId, accountId, type⟩ := transaction
  cases type <;> rfl

section Generated

variable {transaction : Transaction} (h : transaction.id.getD 0 = 0) (db : Database)

include h

/-- Without an id of its own, an upsert is an insert. -/
theorem upsert_generated :
    upsert transaction db = TxDao.insert (TransactionMapper.toEntity transaction) db :=
  if_pos h

/-- **An upsert without an id** appends the transaction under the next id. -/
theorem rows_upsert_generated : (upsert transaction db).transactions.rows =
    db.transactions.rows ++ [rowWithId (db.transactions.sequence + 1) transaction] := by
  rw [upsert_generated h]
  exact db.transactions.rows_insertOrReplace_generated h

/-- The insert draws the next id of the table. -/
theorem sequence_upsert_generated : (upsert transaction db).transactions.sequence =
    db.transactions.sequence + 1 := by
  rw [upsert_generated h]
  exact db.transactions.sequence_insertOrReplace_generated h

end Generated

section New

variable {transaction : Transaction} (h : transaction.id = none) (db : Database)

include h

/-- Such an insert appends one row and leaves the others alone. -/
theorem rows_upsert_new : (upsert transaction db).transactions.rows =
    db.transactions.rows ++ [rowWithId (db.transactions.sequence + 1) transaction] :=
  rows_upsert_generated (by rw [h, Option.getD_none]) db

/-- The table goes on to the id just drawn. -/
theorem sequence_upsert_new : (upsert transaction db).transactions.sequence =
    db.transactions.sequence + 1 :=
  sequence_upsert_generated (by rw [h, Option.getD_none]) db

end New

/-- **An upsert with an id** writes over the row with the id, if there is one. -/
theorem rows_upsert_of_id {transaction : Transaction} {id : ℤ} (hid : transaction.id = some id)
    (hne : id ≠ 0) (db : Database) : (upsert transaction db).transactions.rows =
      db.transactions.rows.map fun row =>
        if row.id = id then rowWithId id transaction else row := by
  simp only [upsert, hid, Option.getD_some, if_neg hne]
  rfl

/-- An upsert writes to no other table. -/
theorem tables_upsert (transaction : Transaction) (db : Database) :
    (upsert transaction db).categories = db.categories ∧
      (upsert transaction db).budgets = db.budgets ∧
      (upsert transaction db).budgetAlerts = db.budgetAlerts := by
  rw [upsert]
  split_ifs
  · exact ⟨rfl, rfl, rfl⟩
  · exact ⟨rfl, rfl, rfl⟩

end TransactionsRepositoryImpl

end SpendCraft
