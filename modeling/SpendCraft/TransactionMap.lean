import SpendCraft.Lib.Machine
import SpendCraft.Repositories
import Mathlib.Logic.Function.Basic

/-!
# The Transactions as a Map

What the transaction store is for: a map from ids to transactions, to which an upsert
without an id adds a transaction under a fresh id, while an upsert with an id stores the
transaction under that id, whether or not there is one. `TransactionsRepositoryImpl`
turns the latter into an `UPDATE`, which does not add a row.

## Conventions

The specification is a function from ids to transactions and a relation between such maps, since
the fresh id of an added transaction is any that is free. It has no order; the three queries of
the repository present its entries in theirs. Transactions of equal times may come in any order.
An upsert with an id that no row has is a store of the specification, and nothing in the
repository.

## Proof

The abstraction is `toMap`, from the rows to the map. The queries present it (`presents_toMap`),
because a sorted list has the rows of the table. Each operation on the table is one of the map, if
the id of an upsert is known (`exists_step_toMap`), and cannot be one otherwise, since the
specification then has an entry that the table lacks. The rule of `Machine` for a machine that
follows a relation gives the runs.

## Main results

* `presents_toMap`: the three queries present the entries of one map.
* `presentsMap_iff`: in which runs of upserts and deletes this is the map of the
  specification.
-/

namespace SpendCraft

open Kotlin Relational Machine TransactionsRepositoryImpl

/-! ### The specification -/

/-- The operations that write transactions. -/
inductive TransactionOp
  | upsert (transaction : Transaction)
  | delete (transactionId : ℤ)
  deriving DecidableEq, Repr

/-- The transactions by their ids: what the store is for. -/
abbrev TransactionMap := ℤ → Option Transaction

namespace TransactionMap

/-- The map without transactions. -/
def empty : TransactionMap := fun _ => none

/-- The map after an operation. The fresh id is any that has no entry. -/
inductive Step : TransactionMap → TransactionOp → TransactionMap → Prop
  | add {m : TransactionMap} {transaction : Transaction} {id : ℤ}
      (hid : transaction.id.getD 0 = 0) (hfresh : m id = none) :
      Step m (.upsert transaction) (Function.update m id (some { transaction with id := some id }))
  | store {m : TransactionMap} {transaction : Transaction} {id : ℤ}
      (hid : transaction.id = some id) (hne : id ≠ 0) :
      Step m (.upsert transaction) (Function.update m id (some transaction))
  | delete {m : TransactionMap} {id : ℤ} : Step m (.delete id) (Function.update m id none)

/-- The list has every entry of the map once. -/
def Entries (m : TransactionMap) (l : List Transaction) : Prop :=
  l.Nodup ∧ ∀ transaction, transaction ∈ l ↔ ∃ id, m id = some transaction

/-- The three queries list the entries of the map, each in its order. -/
structure Presents (db : Database) (m : TransactionMap) : Prop where
  entries : Entries m (observeTransactions db)
  descending : (observeTransactions db).Pairwise fun a b =>
    b.timestampUtcMillis ≤ a.timestampUtcMillis
  perm_ascending : (getAllAscending db).Perm (observeTransactions db)
  ascending : (getAllAscending db).Pairwise fun a b =>
    a.timestampUtcMillis ≤ b.timestampUtcMillis
  perm_account : ∀ accountId, (observeTransactionsByAccount accountId db).Perm
    ((observeTransactions db).filter fun t => t.accountId == some accountId)
  account_descending : ∀ accountId, (observeTransactionsByAccount accountId db).Pairwise
    fun a b => b.timestampUtcMillis ≤ a.timestampUtcMillis

end TransactionMap

/-! ### The repository -/

namespace TransactionOp

/-- The operation on the database. -/
def step (db : Database) : TransactionOp → Database
  | upsert transaction => TransactionsRepositoryImpl.upsert transaction db
  | delete transactionId => TransactionsRepositoryImpl.delete transactionId db

/-- The id of an upsert is one of a row, unless it asks for a new one. -/
def Known (db : Database) : TransactionOp → Prop
  | upsert transaction => ∀ id, transaction.id = some id → id ≠ 0 →
      ∃ row ∈ db.transactions.rows, row.id = id
  | delete _ => True

end TransactionOp

namespace Database

/-- The map that the rows of the table are. -/
def toMap (db : Database) : TransactionMap := fun id =>
  (db.transactions.rows.find? fun row => row.id == id).map TransactionMapper.fromEntity

variable {db : Database} {id : ℤ} {transaction : Transaction}

/-- What the map has under an id is a row of the table with it. -/
theorem toMap_eq_some_iff : db.toMap id = some transaction ↔
    ∃ row ∈ db.transactions.rows, row.id = id ∧ TransactionMapper.fromEntity row = transaction := by
  rw [toMap, Option.map_eq_some_iff]
  constructor
  · rintro ⟨row, hfind, heq⟩
    exact ⟨row, List.mem_of_find?_eq_some hfind, by simpa using List.find?_some hfind, heq⟩
  · rintro ⟨row, hrow, rfl, heq⟩
    refine ⟨row, ?_, heq⟩
    obtain ⟨row', hfind⟩ : ∃ row', db.transactions.rows.find? (fun r => r.id == row.id) =
        some row' := by
      rw [← Option.isSome_iff_exists, List.find?_isSome]
      exact ⟨row, hrow, beq_self_eq_true row.id⟩
    have hid : row'.id = row.id := by simpa using List.find?_some hfind
    rw [hfind, AutoTable.eq_of_id_eq (List.mem_of_find?_eq_some hfind) hrow hid]

/-- The map has nothing under an id that no row has. -/
theorem toMap_eq_none_iff : db.toMap id = none ↔ ∀ row ∈ db.transactions.rows, row.id ≠ id := by
  simp [toMap]

/-- The map of a table is known from its entries. -/
theorem toMap_eq {m : TransactionMap} (h : ∀ id transaction, m id = some transaction ↔
    ∃ row ∈ db.transactions.rows,
      row.id = id ∧ TransactionMapper.fromEntity row = transaction) : db.toMap = m := by
  funext id
  apply Option.ext
  intro transaction
  rw [toMap_eq_some_iff, h]

end Database

namespace TransactionMap

open Database

/-- Sorting rows by their times sorts the transactions by theirs. -/
theorem map_insertionSort_pairwise {r : ℤ → ℤ → Prop} [DecidableRel r] [Std.Total r]
    [IsTrans ℤ r] (rows : List TransactionEntity) :
    ((rows.insertionSort fun a b => r a.timestampUtcMillis b.timestampUtcMillis).map
      TransactionMapper.fromEntity).Pairwise fun a b =>
        r a.timestampUtcMillis b.timestampUtcMillis := by
  rw [List.pairwise_map]
  exact List.pairwise_insertionSort (Order.Preimage TransactionEntity.timestampUtcMillis r) rows

/-- **The queries** present the map that the table is. -/
theorem presents_toMap (db : Database) : Presents db db.toMap where
  entries := by
    have hperm : (observeTransactions db).Perm
        (db.transactions.rows.map TransactionMapper.fromEntity) :=
      (List.perm_insertionSort _ _).map _
    refine ⟨?_, ?_⟩
    · rw [hperm.nodup_iff]
      apply List.Nodup.of_map Transaction.id
      rw [List.map_map]
      exact List.Nodup.of_map (Option.getD · 0)
        (by rw [List.map_map]; exact db.transactions.nodup_keys)
    · intro transaction
      rw [hperm.mem_iff, List.mem_map]
      constructor
      · rintro ⟨row, hrow, rfl⟩
        exact ⟨row.id, toMap_eq_some_iff.mpr ⟨row, hrow, rfl, rfl⟩⟩
      · rintro ⟨id, hid⟩
        obtain ⟨row, hrow, -, rfl⟩ := toMap_eq_some_iff.mp hid
        exact ⟨row, hrow, rfl⟩
  descending := map_insertionSort_pairwise (r := (· ≥ ·)) db.transactions.rows
  perm_ascending :=
    ((List.perm_insertionSort _ _).trans (List.perm_insertionSort _ _).symm).map _
  ascending := map_insertionSort_pairwise (r := (· ≤ ·)) db.transactions.rows
  perm_account accountId := by
    have hfilter : ((observeTransactions db).filter fun t => t.accountId == some accountId) =
        ((TxDao.observeAll db).filter fun row => row.accountId == some accountId).map
          TransactionMapper.fromEntity := by
      rw [observeTransactions, List.filter_map]
      rfl
    rw [hfilter]
    refine ((List.perm_insertionSort _ _).trans ?_).map _
    exact ((List.perm_insertionSort _ _).filter _).symm
  account_descending accountId := map_insertionSort_pairwise (r := (· ≥ ·)) _

end TransactionMap

/-! ### One operation -/

section Operation

open TransactionMap Database

variable {db : Database} {transaction : Transaction} {id : ℤ}

/-- **An upsert without an id** adds an entry. -/
theorem toMap_upsert_generated (h : transaction.id.getD 0 = 0) :
    (upsert transaction db).toMap = Function.update db.toMap (db.transactions.sequence + 1)
      (some { transaction with id := some (db.transactions.sequence + 1) }) := by
  apply toMap_eq
  intro id t
  rw [rows_upsert_generated h]
  by_cases hid : id = db.transactions.sequence + 1
  · subst hid
    rw [Function.update_self, Option.some_inj, ← fromEntity_rowWithId]
    constructor
    · rintro rfl
      exact ⟨_, List.mem_append_right _ (List.mem_singleton_self _), rfl, rfl⟩
    · rintro ⟨row, hrow, hrowId, rfl⟩
      rcases List.mem_append.mp hrow with hold | hnew
      · exact absurd hrowId (db.transactions.generatedId_not_mem hold)
      · rw [List.mem_singleton.mp hnew]
  · rw [Function.update_of_ne hid, toMap_eq_some_iff]
    constructor
    · rintro ⟨row, hrow, hrowId, heq⟩
      exact ⟨row, List.mem_append_left _ hrow, hrowId, heq⟩
    · rintro ⟨row, hrow, rfl, heq⟩
      rcases List.mem_append.mp hrow with hold | hnew
      · exact ⟨row, hold, rfl, heq⟩
      · rw [List.mem_singleton.mp hnew] at hid
        exact absurd rfl hid

/-- **An upsert with the id of a row** stores the transaction under the id. -/
theorem toMap_upsert_of_id (hid : transaction.id = some id) (hne : id ≠ 0)
    (hknown : ∃ row ∈ db.transactions.rows, row.id = id) :
    (upsert transaction db).toMap = Function.update db.toMap id (some transaction) := by
  have hsame : { transaction with id := some id } = transaction := by rw [← hid]
  apply toMap_eq
  intro id' t
  rw [rows_upsert_of_id hid hne]
  by_cases heq : id' = id
  · subst heq
    rw [Function.update_self, Option.some_inj]
    constructor
    · rintro rfl
      obtain ⟨row, hrow, hrowId⟩ := hknown
      refine ⟨_, List.mem_map.mpr ⟨row, hrow, if_pos hrowId⟩, rfl, ?_⟩
      rw [fromEntity_rowWithId, hsame]
    · rintro ⟨row', hrow', hrowId, rfl⟩
      obtain ⟨row, hrow, rfl⟩ := List.mem_map.mp hrow'
      by_cases hold : row.id = id'
      · rw [if_pos hold, fromEntity_rowWithId, hsame]
      · rw [if_neg hold] at hrowId
        exact absurd hrowId hold
  · rw [Function.update_of_ne heq, toMap_eq_some_iff]
    constructor
    · rintro ⟨row, hrow, rfl, ht⟩
      exact ⟨row, List.mem_map.mpr ⟨row, hrow, if_neg heq⟩, rfl, ht⟩
    · rintro ⟨row', hrow', rfl, ht⟩
      obtain ⟨row, hrow, rfl⟩ := List.mem_map.mp hrow'
      by_cases hold : row.id = id
      · rw [if_pos hold] at heq
        exact absurd rfl heq
      · rw [if_neg hold] at ht ⊢
        exact ⟨row, hrow, rfl, ht⟩

/-- A delete takes the id out of the map. -/
theorem toMap_delete : (TransactionsRepositoryImpl.delete id db).toMap =
    Function.update db.toMap id none := by
  apply toMap_eq
  intro id' t
  rw [TransactionsRepositoryImpl.delete, TxDao.deleteById, AutoTable.rows_deleteWhere]
  simp only [List.mem_filter, Bool.not_eq_true', beq_eq_false_iff_ne]
  by_cases heq : id' = id
  · subst heq
    rw [Function.update_self]
    refine iff_of_false (by simp) ?_
    rintro ⟨row, ⟨-, hne⟩, hrowId, -⟩
    exact hne hrowId
  · rw [Function.update_of_ne heq, toMap_eq_some_iff]
    constructor
    · rintro ⟨row, hrow, rfl, ht⟩
      exact ⟨row, ⟨hrow, heq⟩, rfl, ht⟩
    · rintro ⟨row, ⟨hrow, -⟩, hrowId, ht⟩
      exact ⟨row, hrow, hrowId, ht⟩

/-- **The step.** The specification can follow an operation on a known id. -/
theorem exists_step_toMap (db : Database) (op : TransactionOp) (hknown : op.Known db) :
    TransactionMap.Step db.toMap op (op.step db).toMap := by
  cases op with
  | upsert transaction =>
      by_cases hid : transaction.id.getD 0 = 0
      · rw [TransactionOp.step, toMap_upsert_generated hid]
        refine .add hid ?_
        rw [toMap_eq_none_iff]
        exact fun row hrow => db.transactions.generatedId_not_mem hrow
      · obtain ⟨id, hsome⟩ : ∃ id, transaction.id = some id := by
          cases hcase : transaction.id with
          | none => exact absurd (by rw [hcase]; rfl) hid
          | some id => exact ⟨id, rfl⟩
        have hne : id ≠ 0 := by
          rw [hsome] at hid
          exact hid
        rw [TransactionOp.step, toMap_upsert_of_id hsome hne (hknown id hsome hne)]
        exact .store hsome hne
  | delete id =>
      rw [TransactionOp.step, toMap_delete]
      exact .delete

/-- An upsert that shows in the queries was of a known id. -/
theorem known_of_presents {op : TransactionOp} {m m' : TransactionMap}
    (hstep : TransactionMap.Step m op m') (h : Presents (op.step db) m') : op.Known db := by
  cases hstep with
  | add hid _ =>
      intro id hsome hne
      rw [hsome] at hid
      exact absurd hid hne
  | delete => exact True.intro
  | @store transaction id hsome hne =>
      intro id' hsome' _
      obtain rfl : id = id' := Option.some_inj.mp (hsome.symm.trans hsome')
      have hlisted : transaction ∈ observeTransactions (upsert transaction db) :=
        (h.entries.2 transaction).mpr ⟨id, Function.update_self ..⟩
      obtain ⟨id₁, hid₁⟩ := ((presents_toMap _).entries.2 transaction).mp hlisted
      obtain ⟨row', hrow', -, hfrom⟩ := toMap_eq_some_iff.mp hid₁
      rw [rows_upsert_of_id hsome hne] at hrow'
      obtain ⟨row, hrow, rfl⟩ := List.mem_map.mp hrow'
      by_cases hold : row.id = id
      · exact ⟨row, hrow, hold⟩
      · refine ⟨row, hrow, ?_⟩
        rw [if_neg hold] at hfrom
        rw [← hfrom] at hsome
        exact Option.some_inj.mp hsome

end Operation

/-! ### Runs -/

/-- The empty database is the empty map. -/
theorem toMap_empty : Database.empty.toMap = TransactionMap.empty :=
  rfl

/-- **The transaction store is the map** of the specification in every state of a run, just
when every upsert with an id finds a row with it. -/
theorem presentsMap_iff (ops : List TransactionOp) :
    (∀ pre, pre <+: ops → ∃ m, Reaches TransactionMap.Step TransactionMap.empty pre m ∧
        TransactionMap.Presents (run TransactionOp.step Database.empty pre) m) ↔
      AllSteps TransactionOp.step TransactionOp.Known Database.empty ops := by
  apply forall_prefix_exists_iff_allSteps (R := fun db m => db.toMap = m)
  · rintro db m rfl
    exact TransactionMap.presents_toMap db
  · rintro db op m rfl hknown
    exact ⟨_, exists_step_toMap db op hknown, rfl⟩
  · intro db op m m' hstep hpresents
    exact known_of_presents hstep hpresents
  · exact toMap_empty

/-- A transaction with an id that no row has. -/
def deletedLunch : Transaction :=
  { id := some 7
    amount := { minorUnits := 25000 }
    timestampUtcMillis := 1704067200000
    note := none
    categoryId := none
    accountId := none
    type := .expense }

/-- The upsert of a transaction that has been deleted stores nothing. -/
theorem not_presentsMap_deleted : ¬∃ m,
    Reaches TransactionMap.Step TransactionMap.empty [.upsert deletedLunch] m ∧
      TransactionMap.Presents (run TransactionOp.step Database.empty [.upsert deletedLunch]) m := by
  rintro ⟨m, ⟨m', hstep, rfl⟩, hpresents⟩
  obtain ⟨row, hrow, -⟩ := known_of_presents hstep hpresents 7 rfl (by decide)
  cases hrow

end SpendCraft
