import SpendCraft.Lib.Machine
import SpendCraft.TransactionsRepository

/-!
# The Repositories

The operations of `TransactionsRepositoryImpl`, `CategoryRepositoryImpl`, and
`BudgetRepositoryImpl` on categories, accounts, and budgets, and the store as a machine
whose inputs are the calls of all repository operations. Each operation is one
statement of a DAO; nothing ties the tables together.

## Conventions

An operation is the composition of a mapper and a DAO function; what it returns to its caller, and
the coroutine that it runs in, are left out. An operation that throws, such as an update of a
category without an id, changes nothing. The operations of two repositories on categories are kept
apart, since they use different statements: one leaves a row with the id as it is, and the other
replaces it.

The calls come one after the other: each is one statement, which the database executes alone.
Modules with suspension points (`BudgetBreaches`, `RecurringBooking`) have machines of their own.

## Main definitions

* `StoreOp.step`: the store after the call of an operation.
* `Store.seeded`: the store as the creation callback of the database leaves it.
-/

namespace SpendCraft

open Kotlin Relational

/-! ### Mappers -/

/-- `CategoryMapper.toEntity`: a category without an id becomes a row with id 0. -/
def CategoryMapper.toEntity (c : Category) : CategoryEntity :=
  { id := c.id.getD 0
    name := c.name
    color := c.color
    icon := c.icon
    isIncome := c.isIncome }

/-- The domain account has neither a type nor a currency nor a flag. The repository leaves
the flag to the default value of the parameter, `false`. -/
def AccountMapper.toEntity (a : Account) (isDefault : Bool) : AccountEntity :=
  { id := a.id.getD 0
    name := a.name
    type := "CASH".toList
    currency := "TRY".toList
    isDefault := isDefault
    archived := false }

/-! ### Operations -/

namespace TransactionsRepositoryImpl

/-- `delete` of the transactions repository. -/
def delete (transactionId : ℤ) (db : Database) : Database :=
  TxDao.deleteById transactionId db

/-- `insertCategory` of the transactions repository. -/
def insertCategory (category : Category) (db : Database) : Database :=
  CategoryDao.insert (CategoryMapper.toEntity category) db

/-- `deleteCategory` of the transactions repository. -/
def deleteCategory (categoryId : ℤ) (db : Database) : Database :=
  CategoryDao.deleteById categoryId db

/-- `insertAccount`: the mapper is called with `isDefault = false`, whatever the account says. -/
def insertAccount (account : Account) (store : Store) : Store :=
  AccountDao.insert (AccountMapper.toEntity account false) store

/-- `updateAccount`: here too the mapper resets `isDefault`. -/
def updateAccount (account : Account) (store : Store) : Store :=
  AccountDao.update (AccountMapper.toEntity account false) store

/-- `deleteAccount`: any account can be deleted, the default one included. -/
def deleteAccount (accountId : ℤ) (store : Store) : Store :=
  AccountDao.deleteById accountId store

end TransactionsRepositoryImpl

namespace CategoryRepositoryImpl

/-- `insertCategory` of the category repository, which goes to the second insert of the DAO. -/
def insertCategory (category : Category) (db : Database) : Database :=
  CategoryDao.insertCategory (CategoryMapper.toEntity category) db

/-- `none` is the exception of `category.id!!`. -/
def updateCategory (category : Category) (db : Database) : Option Database :=
  category.id.map fun id =>
    CategoryDao.updateCategory id category.name category.color (category.icon.getD []) db

/-- `deleteCategory` of the category repository. -/
def deleteCategory (categoryId : ℤ) (db : Database) : Database :=
  CategoryDao.deleteCategory categoryId db

end CategoryRepositoryImpl

namespace BudgetRepositoryImpl

/-- `upsertBudget`: the row is keyed by the name of the category and keeps no more than the limit.
-/
def upsertBudget (budget : Budget) (db : Database) : Database :=
  BudgetDao.upsert
    { categoryId := budget.categoryId
      monthlyLimitMinor := budget.monthlyLimitMinor } db

/-- `deleteBudget`: a budget is deleted by the name of its category. -/
def deleteBudget (categoryId : Text) (db : Database) : Database :=
  BudgetDao.deleteByCategory categoryId db

end BudgetRepositoryImpl

/-! ### The store as a machine -/

/-- A call of a repository operation. The two repositories insert a category in two ways:
`TransactionsRepositoryImpl` ignores a conflict, `CategoryRepositoryImpl` replaces the
row. -/
inductive StoreOp
  | upsert (transaction : Transaction)
  | delete (transactionId : ℤ)
  | insertCategory (category : Category)
  | replaceCategory (category : Category)
  | updateCategory (category : Category)
  | deleteCategory (categoryId : ℤ)
  | insertAccount (account : Account)
  | updateAccount (account : Account)
  | deleteAccount (accountId : ℤ)
  | upsertBudget (budget : Budget)
  | deleteBudget (categoryId : Text)
  deriving DecidableEq, Repr

namespace StoreOp

/-- The operations on the tables of the database. A call that throws changes nothing. -/
def stepDatabase (db : Database) : StoreOp → Database
  | upsert transaction => TransactionsRepositoryImpl.upsert transaction db
  | delete transactionId => TransactionsRepositoryImpl.delete transactionId db
  | insertCategory category => TransactionsRepositoryImpl.insertCategory category db
  | replaceCategory category => CategoryRepositoryImpl.insertCategory category db
  | updateCategory category => (CategoryRepositoryImpl.updateCategory category db).getD db
  | deleteCategory categoryId => TransactionsRepositoryImpl.deleteCategory categoryId db
  | upsertBudget budget => BudgetRepositoryImpl.upsertBudget budget db
  | deleteBudget categoryId => BudgetRepositoryImpl.deleteBudget categoryId db
  | insertAccount _ | updateAccount _ | deleteAccount _ => db

/-- One operation on the store: the operations on accounts see the default flags, the others only
the database. -/
def step (store : Store) : StoreOp → Store
  | insertAccount account => TransactionsRepositoryImpl.insertAccount account store
  | updateAccount account => TransactionsRepositoryImpl.updateAccount account store
  | deleteAccount accountId => TransactionsRepositoryImpl.deleteAccount accountId store
  | op => { store with toDatabase := stepDatabase store.toDatabase op }

end StoreOp

/-- The store after the creation callback of the database. -/
def Store.seeded : Store :=
  let withAccount := AccountDao.insertAll
    [{ id := 0
       name := "Ana Hesap".toList
       type := "CASH".toList
       currency := "TRY".toList
       isDefault := true
       archived := false }] Store.empty
  { withAccount with
    toDatabase := CategoryDao.insertAll
      [ { id := 0, name := "Yemek".toList, color := "#FF5722".toList,
          icon := some "🍔".toList, isIncome := false },
        { id := 0, name := "Ulaşım".toList, color := "#2196F3".toList,
          icon := some "🚌".toList, isIncome := false },
        { id := 0, name := "Eğlence".toList, color := "#9C27B0".toList,
          icon := some "🎬".toList, isIncome := false },
        { id := 0, name := "Alışveriş".toList, color := "#FF9800".toList,
          icon := some "🛒".toList, isIncome := false },
        { id := 0, name := "Maaş".toList, color := "#4CAF50".toList,
          icon := some "💼".toList, isIncome := true } ]
      withAccount.toDatabase }

end SpendCraft
