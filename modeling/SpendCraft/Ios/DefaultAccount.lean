import SpendCraft.Ios.Accounts

/-!
# The Default Account of the iOS App

Setting a default account clears the flag of all loaded accounts first; the other
operations treat the flag each in its own way. A delete takes the flag along with the
account. An import copies the flags of the backup: a merge writes over some accounts of
the store and leaves the others, with their flags, as they are.

## Conventions

`OneDefault` asks for exactly one default account whenever there is any account. A run is a list
of calls, each with the objects that the screen has at the time (`AccountCall`); an imported
backup is one that this app has exported, from any store. In which order a fetch returns objects
is a parameter, and the theorems hold for all of them.

## Proof

Every call is a sequence of assignments to the flag of single objects, and the flagged ones are
counted. A merge is the hard case: an entry is written over the object that the fetch of its id
returns, later entries over earlier ones, and the other objects keep their flags. `count_merge`
says what the count is afterwards, by induction on the entries. `KeepsDefault` is the condition on
one call that comes out of it, and the runs are the rule of `Machine`.

## Main results

* `count_merge`: the default accounts after a merge, counted.
* `oneDefault_step_iff`: which calls keep exactly one default account.
* `keepsOneDefault_iff`: the same for the runs.
* `keepsDefault_replace_export`: a store may be replaced by the backup of another one.
-/

namespace SpendCraft.Ios

open Kotlin Relational Machine AccountsViewModel ExportManager

/-- Whenever there is an account, exactly one account is the default one. -/
def OneDefault (store : Accounts) : Prop :=
  store.rows ≠ [] → store.rows.countP AccountEntity.isDefault = 1

/-! ### Assignments -/

section Modify

variable {f : AccountEntity → AccountEntity} (hf : ∀ row, (f row).objectID = row.objectID)
  {store : Accounts} {row : AccountEntity}

/-- The rows after a change of one account. -/
@[simp] theorem rows_modify (objectID : ℤ) :
    (modify objectID f hf store).rows =
      store.rows.map fun row => if row.objectID = objectID then f row else row := rfl

/-- A change of one account changes a count by that account. -/
theorem countP_modify (hrow : row ∈ store.rows) (p : AccountEntity → Bool) :
    (modify row.objectID f hf store).rows.countP p + (p row).toNat =
      store.rows.countP p + (p (f row)).toNat :=
  countP_overwrite store.nodup_keys hrow f p

/-- A change of one account leaves no empty store. -/
theorem rows_modify_ne_nil (h : store.rows ≠ []) (objectID : ℤ) :
    (modify objectID f hf store).rows ≠ [] := by
  rw [rows_modify]
  exact fun hnil => h (List.map_eq_nil_iff.mp hnil)

/-- An assignment that leaves the flag alone keeps the rule. -/
theorem OneDefault.modify (h : OneDefault store) (hrow : row ∈ store.rows)
    (hflag : (f row).isDefault = row.isDefault) :
    OneDefault (Ios.modify row.objectID f hf store) := by
  intro _
  have hcount := countP_modify hf hrow AccountEntity.isDefault
  rw [hflag, h (List.ne_nil_of_mem hrow)] at hcount
  omega

end Modify

/-! ### The accounts view -/

/-- The list of accounts shows every account of the store. -/
theorem mem_loadAccounts {store : Accounts} {row : AccountEntity} :
    row ∈ loadAccounts store ↔ row ∈ store.rows :=
  List.mem_insertionSort _

/-- The list is empty exactly if the store is. -/
theorem isEmpty_loadAccounts (store : Accounts) :
    (loadAccounts store).isEmpty = store.rows.isEmpty := by
  rw [Bool.eq_iff_iff, List.isEmpty_iff, List.isEmpty_iff]
  constructor
  · intro h
    rw [List.eq_nil_iff_forall_not_mem]
    intro row hrow
    exact List.ne_nil_of_mem (mem_loadAccounts.mpr hrow) h
  · intro h
    rw [loadAccounts, h]
    rfl

/-- A new account is the default one if it is the first. -/
theorem OneDefault.addAccount {store : Accounts} (h : OneDefault store) (randomId : ℤ)
    (name type currency : Text) :
    OneDefault (AccountsViewModel.addAccount (loadAccounts store) randomId name type currency
      store) := by
  intro _
  rw [AccountsViewModel.addAccount, AutoTable.rows_insertOrReplace_generated _ rfl,
    List.countP_append, List.countP_singleton, isEmpty_loadAccounts]
  cases hempty : store.rows.isEmpty with
  | true =>
      rw [List.isEmpty_iff.mp hempty]
      rfl
  | false =>
      rw [h (List.isEmpty_eq_false_iff.mp hempty)]
      rfl

/-- Clearing the flags of some accounts, one after the other. -/
theorem rows_foldl_removeDefault (accounts : List AccountEntity) (store : Accounts) :
    (accounts.foldl (fun store acc => removeDefault acc.objectID store) store).rows =
      store.rows.map fun row =>
        if row.objectID ∈ accounts.map AccountEntity.objectID then
          { row with isDefault := false } else row := by
  induction accounts generalizing store with
  | nil => simp
  | cons acc accounts ih =>
      rw [List.foldl_cons, ih, removeDefault, rows_modify, List.map_map]
      apply List.map_congr_left
      intro row _
      by_cases hacc : row.objectID = acc.objectID
      · simp [hacc]
      · simp [hacc]

/-- `setDefaultAccount` leaves one default, whatever there was before. -/
theorem OneDefault.setDefaultAccount {store : Accounts} {row : AccountEntity}
    (hrow : row ∈ store.rows) :
    OneDefault (AccountsViewModel.setDefaultAccount (loadAccounts store) row.objectID store) := by
  intro _
  have hcleared := rows_foldl_removeDefault (loadAccounts store) store
  rw [AccountsViewModel.setDefaultAccount]
  generalize (loadAccounts store).foldl (fun store acc => removeDefault acc.objectID store) store =
    cleared at hcleared
  have hall : ∀ r ∈ cleared.rows, r.isDefault = false := by
    intro r hr
    rw [hcleared] at hr
    obtain ⟨r₀, hr₀, rfl⟩ := List.mem_map.mp hr
    rw [if_pos (List.mem_map_of_mem (mem_loadAccounts.mpr hr₀))]
  have hmem : { row with isDefault := false } ∈ cleared.rows := by
    rw [hcleared]
    refine List.mem_map.mpr ⟨row, hrow, ?_⟩
    rw [if_pos (List.mem_map_of_mem (mem_loadAccounts.mpr hrow))]
  have hzero : cleared.rows.countP AccountEntity.isDefault = 0 := by
    rw [List.countP_eq_zero]
    intro r hr
    rw [hall r hr]
    exact Bool.false_ne_true
  have hcount := countP_modify (f := fun row => { row with isDefault := true }) (fun _ => rfl)
    hmem AccountEntity.isDefault
  rw [hzero] at hcount
  simpa using hcount

/-- **A delete** keeps the rule if the account is not the default one or the only one. -/
theorem oneDefault_deleteAccount_iff {store : Accounts} (h : OneDefault store)
    {row : AccountEntity} (hrow : row ∈ store.rows) :
    OneDefault (AccountsViewModel.deleteAccount row.objectID store) ↔
      row.isDefault = false ∨ store.rows.length = 1 := by
  have hcount := countP_remove store.nodup_keys hrow AccountEntity.isDefault
  have hlength := countP_remove store.nodup_keys hrow fun _ => true
  have hrows : (AccountsViewModel.deleteAccount row.objectID store).rows =
      store.rows.filter fun r => !(RowId.id r == RowId.id row) := rfl
  rw [h (List.ne_nil_of_mem hrow)] at hcount
  simp only [List.countP_true, Bool.toNat_true] at hlength
  rw [OneDefault, hrows, ← List.length_pos_iff_ne_nil]
  cases hdefault : row.isDefault with
  | true =>
      rw [hdefault, Bool.toNat_true] at hcount
      simp only [Bool.true_eq_false, false_or]
      omega
  | false =>
      rw [hdefault, Bool.toNat_false] at hcount
      simp only [true_or, iff_true]
      omega

/-! ### Fetches by id -/

section Fetch

variable {order : FetchOrder} {id : ℤ} {store : Accounts}

/-- The fetch by an id depends on the object ids with that id only. -/
theorem fetchFirst_congr {store' : Accounts}
    (h : (store'.rows.filter fun row => row.id == id).map AccountEntity.objectID =
      (store.rows.filter fun row => row.id == id).map AccountEntity.objectID) :
    fetchFirst order id store' = fetchFirst order id store := by
  rw [fetchFirst, fetchFirst, h]

/-- What is fetched is an account of the store. -/
theorem exists_of_fetchFirst_eq_some {objectID : ℤ}
    (h : fetchFirst order id store = some objectID) :
    ∃ row ∈ store.rows, row.objectID = objectID ∧ row.id = id := by
  have hmem := (order.perm _).mem_iff.mp (List.mem_of_head? h)
  obtain ⟨row, hrow, rfl⟩ := List.mem_map.mp hmem
  obtain ⟨hrow, hid⟩ := List.mem_filter.mp hrow
  exact ⟨row, hrow, rfl, beq_iff_eq.mp hid⟩

/-- Nothing is fetched exactly if the id is nobody's. -/
theorem fetchFirst_eq_none_iff :
    fetchFirst order id store = none ↔ ∀ row ∈ store.rows, row.id ≠ id := by
  rw [fetchFirst, List.head?_eq_none_iff, ← List.length_eq_zero_iff, (order.perm _).length_eq,
    List.length_map, List.length_eq_zero_iff, List.filter_eq_nil_iff]
  simp only [beq_iff_eq, ne_eq]

/-- A fetch does not see an assignment to other attributes. -/
theorem fetchFirst_modify {f : AccountEntity → AccountEntity}
    {hf : ∀ row, (f row).objectID = row.objectID} (hid : ∀ row, (f row).id = row.id)
    (objectID : ℤ) :
    fetchFirst order id (modify objectID f hf store) = fetchFirst order id store := by
  apply fetchFirst_congr
  rw [rows_modify, List.filter_map, List.map_map]
  have hobject : ∀ row : AccountEntity,
      (if row.objectID = objectID then f row else row).objectID = row.objectID := by
    intro row
    split_ifs
    · exact hf row
    · rfl
  have hids : ∀ row : AccountEntity,
      (if row.objectID = objectID then f row else row).id = row.id := by
    intro row
    split_ifs
    · exact hid row
    · rfl
  simp only [Function.comp_def, hobject, hids]

/-- A created object is the one that a fetch by its new id returns. -/
theorem fetchFirst_append {store' : Accounts} {new : AccountEntity}
    (hrows : store'.rows = store.rows ++ [new]) (hfree : ∀ row ∈ store.rows, row.id ≠ new.id) :
    fetchFirst order id store' =
      if id = new.id then some new.objectID else fetchFirst order id store := by
  split_ifs with h
  · subst h
    have hnone : (store.rows.filter fun row => row.id == new.id) = [] := by
      rw [List.filter_eq_nil_iff]
      intro row hrow heq
      exact hfree row hrow (beq_iff_eq.mp heq)
    rw [fetchFirst, hrows, List.filter_append, hnone, List.nil_append]
    have hperm := order.perm [new.objectID]
    rw [List.perm_singleton] at hperm
    simp only [List.filter_cons, beq_self_eq_true, if_true, List.filter_nil, List.map_cons,
      List.map_nil, hperm, List.head?_cons]
  · apply fetchFirst_congr
    rw [hrows, List.filter_append]
    have hne : (new.id == id) = false := beq_eq_false_iff_ne.mpr (Ne.symm h)
    simp only [List.filter_cons, hne, Bool.false_eq_true, if_false, List.filter_nil,
      List.append_nil]

end Fetch

/-! ### Imports -/

/-- The account of the store is the one that some entry of the backup is merged into. -/
def writtenOver (order : FetchOrder) (store : Accounts) (backup : List BackupAccount)
    (row : AccountEntity) : Bool :=
  fetchFirst order row.id store == some row.objectID && backup.any fun b => b.id == row.id

/-- The default accounts of the store that a merge leaves as they are. -/
def untouchedDefaults (order : FetchOrder) (store : Accounts) (backup : List BackupAccount) : ℕ :=
  store.rows.countP fun row => row.isDefault && !writtenOver order store backup row

/-- The default entries of the backup that no later entry with the same id writes over. -/
def lastingDefaults : List BackupAccount → ℕ
  | [] => 0
  | b :: backup =>
      (b.isDefault && !backup.any fun later => later.id == b.id).toNat + lastingDefaults backup

/-- The rows of the store around one written entry: either a row of the same id that a
fetch returns, which takes the flag of the entry, or no such row and a new one. -/
theorem writeAccount_cases (order : FetchOrder) (b : BackupAccount) (type currency : Text)
    (store : Accounts) :
    (∃ row ∈ store.rows, row.id = b.id ∧ fetchFirst order b.id store = some row.objectID ∧
      ∃ f : AccountEntity → AccountEntity, ∃ hf,
        (∀ r, (f r).id = r.id ∧ (f r).isDefault = b.isDefault) ∧
        writeAccount order false b type currency store = modify row.objectID f hf store) ∨
    ((∀ row ∈ store.rows, row.id ≠ b.id) ∧ ∃ new : AccountEntity,
      new.id = b.id ∧ new.isDefault = b.isDefault ∧
      (writeAccount order false b type currency store).rows = store.rows ++ [new]) := by
  rw [writeAccount]
  simp only [Bool.false_eq_true, if_false]
  cases hfetch : fetchFirst order b.id store with
  | some existing =>
      obtain ⟨row, hrow, rfl, hid⟩ := exists_of_fetchFirst_eq_some hfetch
      refine Or.inl ⟨row, hrow, hid, rfl, fun r =>
        { r with
          name := b.name
          type := type
          currency := currency
          isDefault := b.isDefault
          archived := b.archived }, fun _ => rfl, fun r => ⟨rfl, rfl⟩, rfl⟩
  | none =>
      refine Or.inr ⟨fetchFirst_eq_none_iff.mp hfetch, _, rfl, rfl,
        AutoTable.rows_insertOrReplace_generated _ rfl⟩

/-- An entry of a backup that is not written over a row does not matter to it. -/
theorem writtenOver_cons_of_ne {order : FetchOrder} {store : Accounts} {b : BackupAccount}
    {row : AccountEntity} (backup : List BackupAccount)
    (h : row.id ≠ b.id ∨ fetchFirst order row.id store ≠ some row.objectID) :
    writtenOver order store (b :: backup) row = writtenOver order store backup row := by
  rw [writtenOver, writtenOver, List.any_cons]
  rcases h with hid | hfetch
  · rw [beq_eq_false_iff_ne.mpr (Ne.symm hid), Bool.false_or]
  · rw [beq_eq_false_iff_ne.mpr hfetch, Bool.false_and, Bool.false_and]

section Entry

variable {order : FetchOrder} {b : BackupAccount} {store : Accounts}

/-- The entry is written over a row, which is not one of the untouched defaults then. -/
theorem untouchedDefaults_modify {row : AccountEntity} (hrow : row ∈ store.rows)
    (hid : row.id = b.id) (hfetch : fetchFirst order b.id store = some row.objectID)
    {f : AccountEntity → AccountEntity} {hf : ∀ r, (f r).objectID = r.objectID}
    (hattr : ∀ r, (f r).id = r.id ∧ (f r).isDefault = b.isDefault) (backup : List BackupAccount) :
    untouchedDefaults order (modify row.objectID f hf store) backup =
      untouchedDefaults order store (b :: backup) +
        (b.isDefault && !backup.any fun later => later.id == b.id).toNat := by
  rw [untouchedDefaults, untouchedDefaults]
  have hkeep : ∀ r, writtenOver order (modify row.objectID f hf store) backup r =
      writtenOver order store backup r := by
    intro r
    rw [writtenOver, writtenOver, fetchFirst_modify fun r => (hattr r).1]
  simp only [hkeep]
  have hwrite := countP_modify hf hrow
    fun r => r.isDefault && !writtenOver order store backup r
  have hbefore := countP_remove store.nodup_keys hrow
    fun r => r.isDefault && !writtenOver order store backup r
  have hafter := countP_remove store.nodup_keys hrow
    fun r => r.isDefault && !writtenOver order store (b :: backup) r
  have hothers : (store.rows.filter fun r => !(RowId.id r == RowId.id row)).countP
        (fun r => r.isDefault && !writtenOver order store (b :: backup) r) =
      (store.rows.filter fun r => !(RowId.id r == RowId.id row)).countP
        (fun r => r.isDefault && !writtenOver order store backup r) := by
    apply List.countP_congr
    intro r hr
    obtain ⟨-, hne⟩ := List.mem_filter.mp hr
    have hobject : r.objectID ≠ row.objectID := by
      intro h
      rw [Bool.not_eq_true', beq_eq_false_iff_ne] at hne
      exact hne h
    rw [writtenOver_cons_of_ne backup]
    by_cases hidr : r.id = b.id
    · right
      rw [hidr, hfetch]
      exact fun h => hobject (Option.some.inj h).symm
    · exact Or.inl hidr
  have hover : writtenOver order store (b :: backup) row = true := by
    rw [writtenOver, hid, hfetch, List.any_cons]
    simp
  have hover' : writtenOver order store backup (f row) =
      backup.any fun later => later.id == b.id := by
    rw [writtenOver, (hattr row).1, hf, hid, hfetch, beq_self_eq_true, Bool.true_and]
  rw [hover', (hattr row).2] at hwrite
  rw [hover, Bool.not_true, Bool.and_false, Bool.toNat_false] at hafter
  omega

/-- The entry becomes a new row. -/
theorem untouchedDefaults_append {store' : Accounts} {new : AccountEntity}
    (hfree : ∀ row ∈ store.rows, row.id ≠ b.id) (hid : new.id = b.id)
    (hflag : new.isDefault = b.isDefault) (hrows : store'.rows = store.rows ++ [new])
    (backup : List BackupAccount) :
    untouchedDefaults order store' backup =
      untouchedDefaults order store (b :: backup) +
        (b.isDefault && !backup.any fun later => later.id == b.id).toNat := by
  have hfetch : ∀ id, fetchFirst order id store' =
      if id = new.id then some new.objectID else fetchFirst order id store :=
    fun id => fetchFirst_append hrows (by rw [hid]; exact hfree)
  rw [untouchedDefaults, untouchedDefaults, hrows, List.countP_append, List.countP_singleton]
  congr 1
  · apply List.countP_congr
    intro r hr
    have hne : r.id ≠ b.id := hfree r hr
    rw [writtenOver_cons_of_ne backup (Or.inl hne), writtenOver, writtenOver, hfetch, hid,
      if_neg hne]
  · rw [writtenOver, hfetch, if_pos rfl, hid, hflag, beq_self_eq_true, Bool.true_and]
    cases b.isDefault && !backup.any fun later => later.id == b.id with
    | true => rfl
    | false => rfl

end Entry

/-- **One entry.** After the first entry is written, the untouched defaults are those that
the whole merge leaves, and the written account if the entry is a lasting default. -/
theorem untouchedDefaults_writeAccount (order : FetchOrder) (b : BackupAccount)
    (type currency : Text) (store : Accounts) (backup : List BackupAccount) :
    untouchedDefaults order (writeAccount order false b type currency store) backup =
      untouchedDefaults order store (b :: backup) +
        (b.isDefault && !backup.any fun later => later.id == b.id).toNat := by
  obtain ⟨row, hrow, hid, hfetch, f, hf, hattr, heq⟩ | ⟨hfree, new, hid, hflag, hrows⟩ :=
    writeAccount_cases order b type currency store
  · rw [heq]
    exact untouchedDefaults_modify hrow hid hfetch hattr backup
  · exact untouchedDefaults_append hfree hid hflag hrows backup

/-- An import that comes to its end has written its first entry. -/
theorem exists_of_foldlM_importAccount_cons {order : FetchOrder} {replaceExisting : Bool}
    {b : BackupAccount} {backup : List BackupAccount} {store after : Accounts}
    (h : (b :: backup).foldlM (importAccount order replaceExisting) store = some after) :
    ∃ type currency, backup.foldlM (importAccount order replaceExisting)
      (writeAccount order replaceExisting b type currency store) = some after := by
  rw [List.foldlM_cons] at h
  obtain ⟨store', hstore', h⟩ := Option.bind_eq_some_iff.mp h
  simp only [importAccount, Option.bind_eq_bind, Option.bind_eq_some_iff, Option.pure_def,
    Option.some.injEq] at hstore'
  obtain ⟨type, -, currency, -, rfl⟩ := hstore'
  exact ⟨type, currency, h⟩

/-- **A merge, counted.** The default accounts afterwards are the untouched ones of the
store and the lasting ones of the backup. -/
theorem count_merge {order : FetchOrder} {backup : List BackupAccount} {store after : Accounts}
    (h : backup.foldlM (importAccount order false) store = some after) :
    after.rows.countP AccountEntity.isDefault =
      untouchedDefaults order store backup + lastingDefaults backup := by
  induction backup generalizing store with
  | nil =>
      obtain rfl : store = after := Option.some.inj h
      rw [untouchedDefaults, lastingDefaults, Nat.add_zero]
      apply List.countP_congr
      intro row _
      rw [writtenOver, List.any_nil, Bool.and_false, Bool.not_false, Bool.and_true]
  | cons b backup ih =>
      obtain ⟨type, currency, h⟩ := exists_of_foldlM_importAccount_cons h
      rw [ih h, untouchedDefaults_writeAccount, lastingDefaults]
      omega

/-- **A replacing import, counted.** Every entry becomes an account of its own. -/
theorem count_replace {order : FetchOrder} {backup : List BackupAccount} {store after : Accounts}
    (h : backup.foldlM (importAccount order true) store = some after) :
    after.rows.countP AccountEntity.isDefault =
      store.rows.countP AccountEntity.isDefault + backup.countP BackupAccount.isDefault := by
  induction backup generalizing store with
  | nil =>
      obtain rfl : store = after := Option.some.inj h
      rfl
  | cons b backup ih =>
      obtain ⟨type, currency, h⟩ := exists_of_foldlM_importAccount_cons h
      rw [ih h, writeAccount]
      simp only [if_true]
      rw [AutoTable.rows_insertOrReplace_generated _ rfl, List.countP_append,
        List.countP_singleton, List.countP_cons]
      simp only [RowId.withId]
      omega

/-- After an entry is written, there is an account. -/
theorem rows_writeAccount_ne_nil (order : FetchOrder) (replaceExisting : Bool)
    (b : BackupAccount) (type currency : Text) (store : Accounts) :
    (writeAccount order replaceExisting b type currency store).rows ≠ [] := by
  cases replaceExisting with
  | true =>
      rw [writeAccount]
      simp only [if_true]
      rw [AutoTable.rows_insertOrReplace_generated _ rfl]
      exact List.append_ne_nil_of_right_ne_nil _ (List.cons_ne_nil _ _)
  | false =>
      obtain ⟨row, hrow, -, -, f, hf, -, heq⟩ | ⟨-, new, -, -, hrows⟩ :=
        writeAccount_cases order b type currency store
      · rw [heq]
        exact rows_modify_ne_nil hf (List.ne_nil_of_mem hrow) _
      · rw [hrows]
        exact List.append_ne_nil_of_right_ne_nil _ (List.cons_ne_nil _ _)

/-- After an import there is an account, if the backup or the store has one. -/
theorem rows_ne_nil_of_import {order : FetchOrder} {replaceExisting : Bool}
    {backup : List BackupAccount} {store after : Accounts} (hne : backup ≠ [] ∨ store.rows ≠ [])
    (h : backup.foldlM (importAccount order replaceExisting) store = some after) :
    after.rows ≠ [] := by
  induction backup generalizing store with
  | nil =>
      obtain rfl : store = after := Option.some.inj h
      exact hne.resolve_left fun h => h rfl
  | cons b backup ih =>
      obtain ⟨type, currency, h⟩ := exists_of_foldlM_importAccount_cons h
      exact ih (Or.inr (rows_writeAccount_ne_nil order replaceExisting b type currency store)) h

/-- An exported backup is imported without a trap. -/
theorem exists_import_exportToJSON (order : FetchOrder) (replaceExisting : Bool)
    (accounts : List AccountEntity) (store : Accounts) :
    ∃ after, (exportToJSON accounts).foldlM (importAccount order replaceExisting) store =
      some after := by
  induction accounts generalizing store with
  | nil => exact ⟨store, rfl⟩
  | cons account accounts ih =>
      rw [exportToJSON, List.map_cons, List.foldlM_cons]
      exact ih (writeAccount order replaceExisting (backupAccount account) account.type
        account.currency store)

/-! ### Runs -/

/-- What a call must respect: a delete is of an account that is not the default one or is
the only one; the backup of a replacing import is empty or has one default entry; in a
merge of a backup that is not empty, the untouched defaults of the store and the lasting
ones of the backup are one in all. -/
def KeepsDefault (order : FetchOrder) (store : Accounts) : AccountCall → Prop
  | .deleteAccount account =>
      (∀ row ∈ store.rows, row.objectID = account → row.isDefault = false) ∨
        store.rows.length = 1
  | .importFromJSON true backup => backup = [] ∨ backup.countP BackupAccount.isDefault = 1
  | .importFromJSON false backup =>
      backup = [] ∨ untouchedDefaults order store backup + lastingDefaults backup = 1
  | _ => True

/-- The import of an exported backup keeps one default exactly if it keeps the default. -/
theorem oneDefault_import_iff {order : FetchOrder} {store : Accounts} (h : OneDefault store)
    (replaceExisting : Bool) (accounts : List AccountEntity) :
    OneDefault (importFromJSON order replaceExisting (exportToJSON accounts) store) ↔
      KeepsDefault order store (.importFromJSON replaceExisting (exportToJSON accounts)) := by
  obtain ⟨after, hafter⟩ := exists_import_exportToJSON order replaceExisting accounts
    (if replaceExisting then clearAllData store else store)
  rw [importFromJSON, hafter, Option.getD_some]
  generalize exportToJSON accounts = backup at hafter
  cases replaceExisting with
  | true =>
      simp only [if_true] at hafter
      have hcount := count_replace hafter
      have hcleared : (clearAllData store).rows = [] := by simp [clearAllData]
      rw [hcleared, List.countP_nil, Nat.zero_add] at hcount
      rw [KeepsDefault, OneDefault, hcount]
      cases backup with
      | nil =>
          obtain rfl : clearAllData store = after := Option.some.inj hafter
          exact iff_of_true (fun hne => absurd hcleared hne) (Or.inl rfl)
      | cons b backup =>
          have hne := rows_ne_nil_of_import (Or.inl (List.cons_ne_nil b backup)) hafter
          simp only [ne_eq, hne, not_false_eq_true, forall_const, reduceCtorEq, false_or]
  | false =>
      simp only [Bool.false_eq_true, if_false] at hafter
      rw [KeepsDefault]
      cases backup with
      | nil =>
          obtain rfl : store = after := Option.some.inj hafter
          exact iff_of_true h (Or.inl rfl)
      | cons b backup =>
          have hne := rows_ne_nil_of_import (Or.inl (List.cons_ne_nil b backup)) hafter
          rw [OneDefault, count_merge hafter]
          simp only [ne_eq, hne, not_false_eq_true, forall_const, reduceCtorEq, false_or]

/-- Replacing the store by the backup of a store with one default account is allowed. -/
theorem keepsDefault_replace_export {exported : Accounts} (h : OneDefault exported)
    (order : FetchOrder) (store : Accounts) :
    KeepsDefault order store (.importFromJSON true (exportToJSON (loadAccounts exported))) := by
  have hperm : (loadAccounts exported).Perm exported.rows := List.perm_insertionSort _ _
  rw [KeepsDefault, exportToJSON, List.countP_map]
  cases hrows : exported.rows with
  | nil =>
      rw [hrows] at hperm
      rw [hperm.eq_nil]
      exact Or.inl rfl
  | cons row rows =>
      right
      have hcount := h (by rw [hrows]; exact List.cons_ne_nil row rows)
      rw [← hperm.countP_eq] at hcount
      exact hcount

/-- **The step.** From one default account, the calls that keep it. -/
theorem oneDefault_step_iff {order : FetchOrder} {store : Accounts} (h : OneDefault store)
    {call : AccountCall} (hpossible : call.Possible store) :
    OneDefault (call.step order store) ↔ KeepsDefault order store call := by
  cases call with
  | addAccount randomId name type currency =>
      exact iff_of_true (h.addAccount randomId name type currency) True.intro
  | updateAccount account name type currency =>
      obtain ⟨row, hrow, rfl⟩ := hpossible
      refine iff_of_true ?_ True.intro
      rw [AccountCall.step, updateAccount]
      exact h.modify _ hrow rfl
  | deleteAccount account =>
      obtain ⟨row, hrow, rfl⟩ := hpossible
      rw [AccountCall.step, oneDefault_deleteAccount_iff h hrow, KeepsDefault]
      have hrow_only : (∀ r ∈ store.rows, r.objectID = row.objectID → r.isDefault = false) ↔
          row.isDefault = false := by
        constructor
        · intro hall
          exact hall row hrow rfl
        · intro hflag r hr hid
          rw [AutoTable.eq_of_id_eq hr hrow hid]
          exact hflag
      rw [hrow_only]
  | setDefaultAccount account =>
      obtain ⟨row, hrow, rfl⟩ := hpossible
      exact iff_of_true (OneDefault.setDefaultAccount hrow) True.intro
  | archiveAccount account =>
      obtain ⟨row, hrow, rfl⟩ := hpossible
      refine iff_of_true ?_ True.intro
      rw [AccountCall.step, archiveAccount]
      exact h.modify _ hrow rfl
  | importFromJSON replaceExisting backup =>
      obtain ⟨accounts, rfl⟩ := hpossible
      exact oneDefault_import_iff h replaceExisting accounts

/-- The account of the first start is the default. -/
theorem oneDefault_seeded (randomId : ℤ) : OneDefault (seededAccounts randomId) := by
  intro _
  rw [seededAccounts, AutoTable.rows_insertOrReplace_generated _ rfl]
  rfl

/-- **Exactly one default account, whenever there is one**, in every state of a run, just
when every call of the run respects `KeepsDefault` in the state it is made in. -/
theorem keepsOneDefault_iff (order : FetchOrder) (randomId : ℤ) {calls : List AccountCall}
    (hpossible : AllSteps (AccountCall.step order) AccountCall.Possible
      (seededAccounts randomId) calls) :
    (∀ pre, pre <+: calls →
        OneDefault (run (AccountCall.step order) (seededAccounts randomId) pre)) ↔
      AllSteps (AccountCall.step order) (KeepsDefault order) (seededAccounts randomId) calls :=
  forall_prefix_iff_allSteps (I := OneDefault)
    (fun _ _ h hpossible => oneDefault_step_iff h hpossible) (oneDefault_seeded randomId) hpossible

/-- A second account is added, made the default one, and the first one is deleted. -/
def replacingCalls : List AccountCall :=
  [.addAccount 7 "Banka".toList "BANK".toList "TRY".toList, .setDefaultAccount 2,
    .deleteAccount 1]

/-- The theorem at an import that replaces the accounts. -/
theorem keepsOneDefault_replaced :
    AllSteps (AccountCall.step FetchOrder.creation) (KeepsDefault FetchOrder.creation)
        (seededAccounts 5) replacingCalls ∧
      ∀ pre, pre <+: replacingCalls →
        OneDefault (run (AccountCall.step FetchOrder.creation) (seededAccounts 5) pre) := by
  have hsteps : AllSteps (AccountCall.step FetchOrder.creation)
      (KeepsDefault FetchOrder.creation) (seededAccounts 5) replacingCalls :=
    ⟨True.intro, True.intro, Or.inl (by decide), True.intro⟩
  refine ⟨hsteps, (keepsOneDefault_iff FetchOrder.creation 5 ?_).mpr hsteps⟩
  refine ⟨True.intro, ?_, ?_, True.intro⟩
  · rw [AccountCall.Possible]
    decide
  · rw [AccountCall.Possible]
    decide

/-- Deleting the default account leaves a store without one, and merging the backup of
another device leaves a store with two. -/
theorem not_oneDefault_deleted_merged :
    ¬ OneDefault (run (AccountCall.step FetchOrder.creation) (seededAccounts 5)
        [.addAccount 7 "Banka".toList "BANK".toList "TRY".toList, .deleteAccount 1]) ∧
      ¬ OneDefault (run (AccountCall.step FetchOrder.creation) (seededAccounts 5)
        [.importFromJSON false (exportToJSON (loadAccounts (seededAccounts 9)))]) := by
  constructor
  · intro h
    exact absurd (h (by decide)) (by decide)
  · intro h
    exact absurd (h (by decide)) (by decide)

end SpendCraft.Ios
