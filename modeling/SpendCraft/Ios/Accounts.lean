import SpendCraft.Lib.KotlinText
import SpendCraft.Lib.Machine
import SpendCraft.Lib.Table
import Mathlib.Data.Char
import Mathlib.Data.List.Lex
import Mathlib.Data.List.Sort

/-!
# The Accounts of the iOS App

The accounts are objects of a Core Data context. An object has an identity of its own,
`objectID`, next to the attribute `id` of the app: the latter is drawn at random and may
repeat. `AccountsViewModel` changes objects, and `ExportManager.importFromJSON` creates
accounts or writes over the one that a fetch by `id` returns first.

A fetch without a sort descriptor returns its objects in an order of the framework's
choosing, `FetchOrder`.

## Conventions

The objects are an `AutoTable` under their identities, which are never reused, and the attribute
`id` is an integer like any other. A `FetchOrder` lists the objects in some order, which may
depend on all of them, so a fetch by `id` finds an object whenever there is one. The functions of
the view model are given the object that the user has touched. An import is one on the accounts
alone, with the trap of a forced `nil` as `none`: what it does to the other objects is in
`Objects`, and `Backups` shows that the accounts come out the same.

The machine runs `loadAccounts` before each call, since that is where the objects of the list come
from. A call is `Possible` when its object is one of those.

## Main definitions

* `AccountEntity`, `BackupAccount`: an object, and its entry in a backup.
* `AccountsViewModel`: the functions of the screen.
* `ExportManager.importFromJSON`: the accounts of an import.
* `AccountCall.step`: the accounts after a call.
-/

namespace SpendCraft.Ios

open Kotlin Relational

/-! ### Objects and backups -/

/-- An account of the Core Data store. -/
structure AccountEntity where
  objectID : ℤ
  id : ℤ
  name : Text
  type : Text
  currency : Text
  isDefault : Bool
  archived : Bool
  deriving DecidableEq, Repr

/-- An account is stored under its object id. -/
instance : RowId AccountEntity where
  id := AccountEntity.objectID
  withId n r := { r with objectID := n }
  id_withId _ _ := rfl

/-- The accounts of the store. -/
abbrev Accounts := AutoTable AccountEntity

/-- An account of a backup. The type and the currency are optional in the file. -/
structure BackupAccount where
  id : ℤ
  name : Text
  type : Option Text
  currency : Option Text
  isDefault : Bool
  archived : Bool
  deriving DecidableEq, Repr

/-- The order in which a fetch without a sort descriptor returns the objects. -/
structure FetchOrder where
  sort : List ℤ → List ℤ
  perm : ∀ objectIDs, (sort objectIDs).Perm objectIDs

/-- The objects in the order of their creation. -/
def FetchOrder.creation : FetchOrder :=
  { sort := id
    perm := fun _ => List.Perm.refl _ }

/-- Assignments to the attributes of one object. -/
def modify (objectID : ℤ) (f : AccountEntity → AccountEntity)
    (hf : ∀ row, (f row).objectID = row.objectID) (store : Accounts) : Accounts :=
  store.updateSet (fun row => if row.objectID = objectID then f row else row) (by
    intro row
    split_ifs
    · exact hf row
    · rfl)

/-! ### The accounts view -/

namespace AccountsViewModel

/-- `loadAccounts`: the accounts by name. -/
def loadAccounts (store : Accounts) : List AccountEntity :=
  store.rows.insertionSort fun a b => a.name ≤ b.name

/-- `randomId` is the number drawn from `1...1000000`. -/
def addAccount (accounts : List AccountEntity) (randomId : ℤ) (name type currency : Text)
    (store : Accounts) : Accounts :=
  store.insertOrReplace
    { objectID := 0
      id := randomId
      name := name
      type := type
      currency := currency
      isDefault := accounts.isEmpty
      archived := false }

/-- `updateAccount`: name, type and currency are set. -/
def updateAccount (account : ℤ) (name type currency : Text) (store : Accounts) : Accounts :=
  modify account (fun row => { row with name := name, type := type, currency := currency })
    (fun _ => rfl) store

/-- `deleteAccount`: any account can be deleted, the default one included. -/
def deleteAccount (account : ℤ) (store : Accounts) : Accounts :=
  store.deleteWhere fun row => row.objectID == account

/-- The flag of one account is taken away. -/
def removeDefault (account : ℤ) (store : Accounts) : Accounts :=
  modify account (fun row => { row with isDefault := false }) (fun _ => rfl) store

/-- `setDefaultAccount`: the flag is taken from every account of the list and given to one. -/
def setDefaultAccount (accounts : List AccountEntity) (account : ℤ) (store : Accounts) :
    Accounts :=
  let cleared := accounts.foldl (fun store acc => removeDefault acc.objectID store) store
  modify account (fun row => { row with isDefault := true }) (fun _ => rfl) cleared

/-- `archiveAccount`: the flag is turned over, and the default flag stays. -/
def archiveAccount (account : ℤ) (store : Accounts) : Accounts :=
  modify account (fun row => { row with archived := !row.archived }) (fun _ => rfl) store

end AccountsViewModel

/-! ### Backups -/

namespace ExportManager

/-- An account as the export writes it. -/
def backupAccount (account : AccountEntity) : BackupAccount :=
  { id := account.id
    name := account.name
    type := some account.type
    currency := some account.currency
    isDefault := account.isDefault
    archived := account.archived }

/-- The accounts of an export. -/
def exportToJSON (accounts : List AccountEntity) : List BackupAccount :=
  accounts.map backupAccount

/-- The first object of a fetch by `id`. -/
def fetchFirst (order : FetchOrder) (id : ℤ) (store : Accounts) : Option ℤ :=
  (order.sort ((store.rows.filter fun row => row.id == id).map AccountEntity.objectID)).head?

/-- The account of a backup entry whose optional attributes are present. -/
def writeAccount (order : FetchOrder) (replaceExisting : Bool) (backupAccount : BackupAccount)
    (type currency : Text) (store : Accounts) : Accounts :=
  match if replaceExisting then none else fetchFirst order backupAccount.id store with
  | some existing =>
      modify existing (fun row =>
        { row with
          name := backupAccount.name
          type := type
          currency := currency
          isDefault := backupAccount.isDefault
          archived := backupAccount.archived }) (fun _ => rfl) store
  | none =>
      store.insertOrReplace
        { objectID := 0
          id := backupAccount.id
          name := backupAccount.name
          type := type
          currency := currency
          isDefault := backupAccount.isDefault
          archived := backupAccount.archived }

/-- One round of the loop; `none` is the trap of a forced `nil`. -/
def importAccount (order : FetchOrder) (replaceExisting : Bool) (store : Accounts)
    (backupAccount : BackupAccount) : Option Accounts := do
  let type ← backupAccount.type
  let currency ← backupAccount.currency
  pure (writeAccount order replaceExisting backupAccount type currency store)

/-- The accounts after `clearAllData`. -/
def clearAllData (store : Accounts) : Accounts :=
  store.deleteWhere fun _ => true

/-- The accounts that are saved by an import. A trap ends the app before the save. -/
def importFromJSON (order : FetchOrder) (replaceExisting : Bool)
    (backup : List BackupAccount) (store : Accounts) : Accounts :=
  let cleared := if replaceExisting then clearAllData store else store
  (backup.foldlM (importAccount order replaceExisting) cleared).getD cleared

end ExportManager

/-! ### The machine -/

/-- A call on the accounts; accounts are passed by reference. -/
inductive AccountCall
  | addAccount (randomId : ℤ) (name type currency : Text)
  | updateAccount (account : ℤ) (name type currency : Text)
  | deleteAccount (account : ℤ)
  | setDefaultAccount (account : ℤ)
  | archiveAccount (account : ℤ)
  | importFromJSON (replaceExisting : Bool) (backup : List BackupAccount)
  deriving DecidableEq, Repr

namespace AccountCall

open AccountsViewModel in
/-- A call, with `loadAccounts` run before it. -/
def step (order : FetchOrder) (store : Accounts) : AccountCall → Accounts
  | addAccount randomId name type currency =>
      AccountsViewModel.addAccount (loadAccounts store) randomId name type currency store
  | updateAccount account name type currency =>
      AccountsViewModel.updateAccount account name type currency store
  | deleteAccount account => AccountsViewModel.deleteAccount account store
  | setDefaultAccount account =>
      AccountsViewModel.setDefaultAccount (loadAccounts store) account store
  | archiveAccount account => AccountsViewModel.archiveAccount account store
  | importFromJSON replaceExisting backup =>
      ExportManager.importFromJSON order replaceExisting backup store

/-- The account that is passed is one of the loaded ones, and the backup is an exported
one. -/
def Possible (store : Accounts) : AccountCall → Prop
  | addAccount .. => True
  | updateAccount account .. | deleteAccount account | setDefaultAccount account
  | archiveAccount account => ∃ row ∈ store.rows, row.objectID = account
  | importFromJSON _ backup => ∃ accounts, backup = ExportManager.exportToJSON accounts

end AccountCall

/-- The store after `seedInitialData`; `randomId` is drawn from `1...10000`. -/
def seededAccounts (randomId : ℤ) : Accounts :=
  (AutoTable.empty AccountEntity).insertOrReplace
    { objectID := 0
      id := randomId
      name := "Nakit".toList
      type := "CASH".toList
      currency := "TRY".toList
      isDefault := true
      archived := false }

end SpendCraft.Ios
