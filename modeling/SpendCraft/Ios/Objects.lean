import SpendCraft.Ios.CsvFile

/-!
# Backups of the iOS App

`ExportManager.importFromJSON` and `importFromCSV` work on the Core Data context of the
views. What they create and assign is a pending change of the context until it is saved;
what fails on the way leaves the changes so far behind. A replacing import first deletes
the transactions, the categories and the accounts with batch deletes, which go to the saved
objects at once, and saves.

A forced `nil` and a number that does not fit end the app. What is pending is lost then.

## Conventions

The context is a `Session`: what the store has saved, and the pending changes since, in their
order. A save makes one of both, a batch delete goes to what is saved, and the end of the app
loses the pending changes. An import stops in two ways (`Stopped`), by an error that is thrown or
by the end of the app, and keeps what it has done until then. Which calls of the framework throw
is an input (`ImportFailures`), and so is the order in which a fetch returns its objects.

The functions are written in the order of the source, one definition for a round of each loop.
Later modules state what the loops do and do not unfold them: `ImportFailures` for those that
stop, `Backups` for those that do not, `Links` and `ObjectIds` for the references and the ids.

## Main definitions

* `ObjectStore`, `Session`: the objects, and the context.
* `BackupData`: a backup.
* `ExportManager.Json.importFromJSON`: the import of a backup.
* `ExportManager.importFromCSV`: the import of a file of rows.
-/

namespace SpendCraft.Ios

open Kotlin Relational

/-! ### Objects -/

/-- A category of the Core Data store: the columns of the entity and the object's identity. -/
structure CategoryObject extends CategoryEntity where
  objectID : ℤ
  color : Text
  icon : Option Text
  type : Option Text
  deriving DecidableEq, Repr

/-- An object is stored under its object id. -/
instance : RowId CategoryObject where
  id := CategoryObject.objectID
  withId n r := { r with objectID := n }
  id_withId _ _ := rfl

/-- The relations name objects by their identities. -/
structure TransactionObject extends TransactionEntity where
  objectID : ℤ
  category : Option ℤ
  account : Option ℤ
  deriving DecidableEq, Repr

/-- An object is stored under its object id. -/
instance : RowId TransactionObject where
  id := TransactionObject.objectID
  withId n r := { r with objectID := n }
  id_withId _ _ := rfl

/-- A budget of the store. The relation to the category may be missing. -/
structure BudgetObject where
  objectID : ℤ
  id : ℤ
  categoryId : Text
  monthlyLimitMinor : ℤ
  category : Option ℤ
  deriving DecidableEq, Repr

/-- An object is stored under its object id. -/
instance : RowId BudgetObject where
  id := BudgetObject.objectID
  withId n r := { r with objectID := n }
  id_withId _ _ := rfl

/-- The objects of the store, one table for each entity. -/
@[ext] structure ObjectStore where
  categories : AutoTable CategoryObject
  accounts : Accounts
  transactions : AutoTable TransactionObject
  budgets : AutoTable BudgetObject

namespace ObjectStore

/-- The store before its first object. -/
def empty : ObjectStore :=
  { categories := AutoTable.empty _
    accounts := AutoTable.empty _
    transactions := AutoTable.empty _
    budgets := AutoTable.empty _ }

/-- The batch delete of all transactions. -/
def deleteTransactions (store : ObjectStore) : ObjectStore :=
  { store with transactions := store.transactions.deleteWhere fun _ => true }

/-- The batch delete of all categories. The relations to them become `nil`. -/
def deleteCategories (store : ObjectStore) : ObjectStore :=
  { store with
    categories := store.categories.deleteWhere fun _ => true
    transactions := store.transactions.updateSet (fun t => { t with category := none }) fun _ => rfl
    budgets := store.budgets.updateSet (fun b => { b with category := none }) fun _ => rfl }

/-- The batch delete of all accounts. -/
def deleteAccounts (store : ObjectStore) : ObjectStore :=
  { store with
    accounts := store.accounts.deleteWhere fun _ => true
    transactions :=
      store.transactions.updateSet (fun t => { t with account := none }) fun _ => rfl }

end ObjectStore

/-! ### The context -/

/-- A pending change, as what it does to the objects. -/
abbrev Change := ObjectStore → ObjectStore

/-- The context: what the store has saved, and the changes since then in their order. -/
@[ext] structure Session where
  saved : ObjectStore
  pending : List Change

namespace Session

/-- The objects that the context has. -/
def view (session : Session) : ObjectStore :=
  session.pending.foldl (fun store change => change store) session.saved

/-- A change is made in the context, and not saved yet. -/
def record (change : Change) (session : Session) : Session :=
  { session with pending := session.pending ++ [change] }

/-- `save`: what the context shows is what the store has. -/
def save (session : Session) : Session :=
  { saved := session.view
    pending := [] }

/-- The app ends, and is started again. -/
def restart (session : Session) : Session :=
  { session with pending := [] }

/-- A batch delete. -/
def execute (delete : ObjectStore → ObjectStore) (session : Session) : Session :=
  { session with saved := delete session.saved }

end Session

/-! ### Backups -/

/-- A transaction of a backup. The accounts and categories are named by their ids. -/
structure BackupTransaction where
  id : ℤ
  amountMinor : ℤ
  timestampUtcMillis : ℤ
  note : Option Text
  categoryId : ℤ
  accountId : ℤ
  isIncome : Bool
  deriving DecidableEq, Repr

/-- A category of a backup. -/
structure BackupCategory where
  id : ℤ
  name : Text
  icon : Option Text
  color : Option Text
  type : Option Text
  deriving DecidableEq, Repr

/-- A backup as it is decoded. -/
structure BackupData where
  version : ℤ
  exportDate : ℤ
  transactions : List BackupTransaction
  categories : List BackupCategory
  accounts : List BackupAccount
  deriving DecidableEq, Repr

namespace BackupData

/-- `currentVersion`. -/
def currentVersion : ℤ := 1

end BackupData

/-- How an import ends: `failed` when an error was thrown, `trapped` when the app ended. -/
inductive ImportOutcome
  | completed
  | failed
  | trapped
  deriving DecidableEq, Repr

/-- Which of the calls in `clearAllData` throw. -/
structure ClearFailures where
  transactionDelete : Bool
  categoryDelete : Bool
  accountDelete : Bool
  save : Bool
  deriving DecidableEq, Repr

/-- Which of the calls in `importFromJSON` throw; the fetches are numbered by the entries of
the backup. -/
structure ImportFailures where
  clear : ClearFailures
  fetchCategory : ℕ → Bool
  fetchAccount : ℕ → Bool
  save : Bool

namespace ImportFailures

/-- Nothing fails. -/
def none : ImportFailures :=
  { clear :=
      { transactionDelete := false
        categoryDelete := false
        accountDelete := false
        save := false }
    fetchCategory := fun _ => false
    fetchAccount := fun _ => false
    save := false }

end ImportFailures

namespace ExportManager.Json

/-! ### Export -/

/-- A transaction as the export writes it: the relations are left out, the ids stay. -/
def backupTransaction (transaction : TransactionObject) : BackupTransaction :=
  { id := transaction.id
    amountMinor := transaction.amountMinor
    timestampUtcMillis := transaction.timestampUtcMillis
    note := transaction.note
    categoryId := transaction.categoryId
    accountId := transaction.accountId
    isIncome := transaction.isIncome }

/-- A category as the export writes it. -/
def backupCategory (category : CategoryObject) : BackupCategory :=
  { id := category.id
    name := category.name
    icon := category.icon
    color := some category.color
    type := category.type }

/-- The loaded objects. -/
def exportToJSON (exportDate : ℤ) (transactions : List TransactionObject)
    (categories : List CategoryObject) (accounts : List AccountEntity) : BackupData :=
  { version := BackupData.currentVersion
    exportDate := exportDate
    transactions := transactions.map backupTransaction
    categories := categories.map backupCategory
    accounts := accounts.map backupAccount }

/-! ### One entry -/

/-- The category that an entry is written to, if it is there. -/
def fetchCategory (order : FetchOrder) (replaceExisting : Bool) (id : ℤ)
    (categories : AutoTable CategoryObject) : Option ℤ :=
  if replaceExisting then none
  else
    (order.sort ((categories.rows.filter fun row => row.id == id).map
      CategoryObject.objectID)).head?

/-- The assignments of the import to a category that it found or created. -/
def assignCategory (backupCategory : BackupCategory) (color : Text) (row : CategoryObject) :
    CategoryObject :=
  { row with
    name := backupCategory.name
    icon := backupCategory.icon
    color := color
    type := backupCategory.type }

/-- A category that the import creates, under the id of the backup. -/
def createCategory (backupCategory : BackupCategory) (color : Text) : CategoryObject :=
  { objectID := 0
    id := backupCategory.id
    name := backupCategory.name
    icon := backupCategory.icon
    color := color
    type := backupCategory.type }

/-- The category of an entry whose colour is present. -/
def writeCategory (order : FetchOrder) (replaceExisting : Bool) (backupCategory : BackupCategory)
    (color : Text) (categories : AutoTable CategoryObject) : AutoTable CategoryObject :=
  match fetchCategory order replaceExisting backupCategory.id categories with
  | some existing =>
      categories.updateSet
        (fun row =>
          if row.objectID = existing then assignCategory backupCategory color row else row)
        (by
          intro row
          split_ifs
          · rfl
          · rfl)
  | none => categories.insertOrReplace (createCategory backupCategory color)

/-- The account that an entry is written to, if it is there. -/
def fetchAccount (order : FetchOrder) (replaceExisting : Bool) (id : ℤ) (accounts : Accounts) :
    Option ℤ :=
  if replaceExisting then none else fetchFirst order id accounts

/-- The import so far, with the objects of the ids of the backup. -/
structure Importing where
  session : Session
  categoryMap : ℤ → Option ℤ
  accountMap : ℤ → Option ℤ

/-- An error or the end of the app, and what the context is then. -/
inductive Stopped
  | thrown (session : Session)
  | trapped (session : Session)

/-- One round of the first loop. -/
def importCategory (order : FetchOrder) (fails : ℕ → Bool) (replaceExisting : Bool)
    (importing : Importing) : BackupCategory × ℕ → Except Stopped Importing
  | (backupCategory, k) =>
      if fails k then .error (.thrown importing.session)
      else
        match backupCategory.color with
        | none => .error (.trapped importing.session.restart)
        | some color =>
            let categories := importing.session.view.categories
            .ok
              { importing with
                session := importing.session.record fun store =>
                  { store with
                    categories :=
                      writeCategory order replaceExisting backupCategory color store.categories }
                categoryMap := Function.update importing.categoryMap backupCategory.id
                  (some ((fetchCategory order replaceExisting backupCategory.id categories).getD
                    (categories.sequence + 1))) }

/-- One round of the second loop. -/
def importAccount (order : FetchOrder) (fails : ℕ → Bool) (replaceExisting : Bool)
    (importing : Importing) : BackupAccount × ℕ → Except Stopped Importing
  | (backupAccount, k) =>
      if fails k then .error (.thrown importing.session)
      else
        match backupAccount.type, backupAccount.currency with
        | some type, some currency =>
            let accounts := importing.session.view.accounts
            .ok
              { importing with
                session := importing.session.record fun store =>
                  { store with
                    accounts :=
                      writeAccount order replaceExisting backupAccount type currency
                        store.accounts }
                accountMap := Function.update importing.accountMap backupAccount.id
                  (some ((fetchAccount order replaceExisting backupAccount.id accounts).getD
                    (accounts.sequence + 1))) }
        | _, _ => .error (.trapped importing.session.restart)

/-- A transaction that the import creates. Its relations are looked up in what the import has
entered before. -/
def createTransaction (categoryMap accountMap : ℤ → Option ℤ)
    (backupTransaction : BackupTransaction) : TransactionObject :=
  { objectID := 0
    id := backupTransaction.id
    amountMinor := backupTransaction.amountMinor
    timestampUtcMillis := backupTransaction.timestampUtcMillis
    note := backupTransaction.note
    categoryId := backupTransaction.categoryId
    accountId := backupTransaction.accountId
    isIncome := backupTransaction.isIncome
    category := categoryMap backupTransaction.categoryId
    account := accountMap backupTransaction.accountId }

/-- One round of the third loop. -/
def importTransaction (importing : Importing) (backupTransaction : BackupTransaction) :
    Importing :=
  { importing with
    session := importing.session.record fun store =>
      { store with
        transactions := store.transactions.insertOrReplace
          (createTransaction importing.categoryMap importing.accountMap backupTransaction) } }

/-! ### Import -/

/-- An error of one of the calls is printed, and ends the function. -/
def clearAllData (failures : ClearFailures) (session : Session) : Session :=
  if failures.transactionDelete then session
  else
    let session := session.execute ObjectStore.deleteTransactions
    if failures.categoryDelete then session
    else
      let session := session.execute ObjectStore.deleteCategories
      if failures.accountDelete then session
      else
        let session := session.execute ObjectStore.deleteAccounts
        if failures.save then session else session.save

/-- The three loops and the save. -/
def importBackup (order : FetchOrder) (failures : ImportFailures) (replaceExisting : Bool)
    (backupData : BackupData) (session : Session) : Except Stopped Session := do
  let importing ← backupData.categories.zipIdx.foldlM
    (importCategory order failures.fetchCategory replaceExisting)
    { session := session
      categoryMap := fun _ => none
      accountMap := fun _ => none }
  let importing ← backupData.accounts.zipIdx.foldlM
    (importAccount order failures.fetchAccount replaceExisting) importing
  let importing := backupData.transactions.foldl importTransaction importing
  if failures.save then .error (.thrown importing.session) else .ok importing.session.save

/-- `importFromJSON`: with `replaceExisting` everything is deleted before the backup is entered.
An error that is thrown leaves the session as it is then. -/
def importFromJSON (order : FetchOrder) (failures : ImportFailures) (replaceExisting : Bool)
    (backupData : BackupData) (session : Session) : Session × ImportOutcome :=
  let cleared := if replaceExisting then clearAllData failures.clear session else session
  match importBackup order failures replaceExisting backupData cleared with
  | .ok session => (session, .completed)
  | .error (.thrown session) => (session, .failed)
  | .error (.trapped session) => (session, .trapped)

end ExportManager.Json

namespace ExportManager.Csv

/-- A transaction that the CSV import creates: the category is chosen by name, and the account is
the first of the list. -/
def createTransaction (categories : List CategoryObject) (accounts : List AccountEntity)
    (randomId : ℤ) (columns : CsvColumns) : TransactionObject :=
  let category := chooseCategory (fun category => category.name) categories columns.categoryName
  { objectID := 0
    id := randomId
    amountMinor := columns.amountMinor
    timestampUtcMillis := columns.date
    note := columns.note
    categoryId := (category.map fun category => category.id).getD 0
    accountId := (accounts.head?.map AccountEntity.id).getD 0
    isIncome := columns.isIncome
    category := category.map CategoryObject.objectID
    account := accounts.head?.map AccountEntity.objectID }

/-- The import in the context: a change for each row that is read, and the save. -/
def importFromCSV (format : CsvFormat) (saveFails : Bool) (categories : List CategoryObject)
    (accounts : List AccountEntity) (randomIds : ℕ → ℤ) (csvString : Text) (session : Session) :
    Session × ImportOutcome :=
  match readRows format ((csvString.splitOn '\n').drop 1) with
  | none => (session.restart, .trapped)
  | some (read, _) =>
      let session := read.zipIdx.foldl (fun session (columns, k) =>
        session.record fun store =>
          { store with
            transactions := store.transactions.insertOrReplace
              (createTransaction categories accounts (randomIds k) columns) }) session
      if saveFails then (session, .failed) else (session.save, .completed)

end ExportManager.Csv

end SpendCraft.Ios
