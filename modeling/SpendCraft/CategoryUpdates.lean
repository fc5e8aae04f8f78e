import SpendCraft.Repositories
import Mathlib.Logic.Function.Iterate

/-!
# Launched Updates

The functions of `TransactionsViewModel` launch coroutines in `viewModelScope`. One step runs
the first of them; what it launches itself comes after the others. The coroutine of
`deleteTransaction` calls the use case. The one of `updateTransactionCategory` calls the
function that launched it: inside the class, the name is that of the view model's own
function, and no use case has it.

## Conventions

A coroutine is a step of its own, and what it launches comes behind those that wait already. Calls
are made in a scope with nothing launched. A call finishes if some number of steps leaves nothing
to do (`Finishes`), and it updates the category if it finishes with a database in which the
transaction has the category and nothing else has changed (`WithCategory`).

## Proof

For the function that launches itself, the state after a step is the state before it, so no number
of steps gets further (`Function.iterate_fixed`). The property is not one that nothing could have:
an upsert of the stored transaction with the category is a write of this kind, and a function
whose coroutine calls the use case does finish.

## Main results

* `deleteTransaction_finishes`: a function whose coroutine does its work.
* `withCategory_upsert`: the write that would update the category.
* `not_updatesCategory`: the function that is there never finishes.
-/

namespace SpendCraft

open Kotlin

namespace TransactionsViewModel

/-- A launched coroutine, by the function that launches it. -/
inductive Coroutine
  | deleteTransaction (id : ℤ)
  | updateTransactionCategory (transactionId categoryId : ℤ)
  deriving DecidableEq, Repr

/-- The coroutines of the scope that have not run yet, and the database. -/
structure Scope where
  launched : List Coroutine
  db : Database

/-- The scope with nothing launched. -/
def Scope.idle (db : Database) : Scope :=
  { launched := [], db := db }

/-- `viewModelScope.launch`: the coroutine waits for its turn. -/
def launch (coroutine : Coroutine) (scope : Scope) : Scope :=
  { scope with launched := scope.launched ++ [coroutine] }

/-- `deleteTransaction` of the view model. -/
def deleteTransaction (id : ℤ) (scope : Scope) : Scope :=
  launch (.deleteTransaction id) scope

/-- `updateTransactionCategory` of the view model. -/
def updateTransactionCategory (transactionId categoryId : ℤ) (scope : Scope) : Scope :=
  launch (.updateTransactionCategory transactionId categoryId) scope

/-- What a coroutine does when it runs. -/
def Coroutine.body : Coroutine → Scope → Scope
  | deleteTransaction id, scope =>
      { scope with db := TransactionsRepositoryImpl.delete id scope.db }
  | updateTransactionCategory transactionId categoryId, scope =>
      TransactionsViewModel.updateTransactionCategory transactionId categoryId scope

/-- The next coroutine runs. -/
def runNext (scope : Scope) : Scope :=
  match scope.launched with
  | [] => scope
  | coroutine :: launched => coroutine.body { scope with launched := launched }

/-- The call has run to its end after `n` steps, in the state `after`. -/
def Finishes (call : Scope → Scope) (db : Database) (n : ℕ) (after : Scope) : Prop :=
  runNext^[n] (call (.idle db)) = after ∧ after.launched = []

/-- The transaction with the id has the category, and nothing else has changed. -/
def WithCategory (transactionId categoryId : ℤ) (before after : Database) : Prop :=
  (after.transactions.rows = before.transactions.rows.map fun row =>
      if row.id = transactionId then { row with categoryId := some categoryId } else row) ∧
    after.categories = before.categories ∧ after.budgets = before.budgets ∧
    after.budgetAlerts = before.budgetAlerts

/-- The call performs finitely many steps and then has updated the category. -/
def UpdatesCategory (transactionId categoryId : ℤ) (db : Database) : Prop :=
  ∃ n after, Finishes (updateTransactionCategory transactionId categoryId) db n after ∧
    WithCategory transactionId categoryId db after.db

/-! ### The repository's part -/

/-- Deleting finishes after the one step of its coroutine. -/
theorem deleteTransaction_finishes (id : ℤ) (db : Database) :
    Finishes (deleteTransaction id) db 1 (.idle (TransactionsRepositoryImpl.delete id db)) :=
  ⟨rfl, rfl⟩

/-- **The write of an update**: the stored transaction with the new category is upserted. -/
theorem withCategory_upsert {db : Database} {row : TransactionEntity}
    (hrow : row ∈ db.transactions.rows) (hid : row.id ≠ 0) (categoryId : ℤ) :
    WithCategory row.id categoryId db
      (TransactionsRepositoryImpl.upsert
        { TransactionMapper.fromEntity row with categoryId := some categoryId } db) := by
  refine ⟨?_, TransactionsRepositoryImpl.tables_upsert _ db⟩
  rw [TransactionsRepositoryImpl.rows_upsert_of_id rfl hid]
  refine List.map_congr_left fun other hother => ?_
  split_ifs with heq
  · obtain rfl : other = row := db.transactions.eq_of_id_eq hother hrow heq
    obtain ⟨id, amountMinor, timestampUtcMillis, note, categoryId, accountId, isExpense⟩ := other
    cases isExpense <;> rfl
  · rfl

/-! ### The view model's part -/

/-- The step runs the launched coroutine, which launches itself again. -/
theorem runNext_updateTransactionCategory (transactionId categoryId : ℤ) (db : Database) :
    runNext (updateTransactionCategory transactionId categoryId (.idle db)) =
      updateTransactionCategory transactionId categoryId (.idle db) := rfl

/-- **The call never gets anywhere**: after any number of steps it is where it was. -/
theorem iterate_runNext_updateTransactionCategory (transactionId categoryId : ℤ)
    (db : Database) (n : ℕ) :
    runNext^[n] (updateTransactionCategory transactionId categoryId (.idle db)) =
      updateTransactionCategory transactionId categoryId (.idle db) :=
  Function.iterate_fixed (runNext_updateTransactionCategory transactionId categoryId db) n

/-- The coroutine launches itself again each time it runs, so the scope is never empty. -/
theorem not_finishes_updateTransactionCategory (transactionId categoryId : ℤ) (db : Database)
    (n : ℕ) (after : Scope) :
    ¬ Finishes (updateTransactionCategory transactionId categoryId) db n after := by
  rintro ⟨hafter, hdone⟩
  rw [iterate_runNext_updateTransactionCategory] at hafter
  rw [← hafter] at hdone
  exact List.cons_ne_nil _ _ hdone

/-- **No category is ever updated**, whatever is stored. -/
theorem not_updatesCategory (transactionId categoryId : ℤ) (db : Database) :
    ¬ UpdatesCategory transactionId categoryId db := by
  rintro ⟨n, after, hfinishes, -⟩
  exact not_finishes_updateTransactionCategory transactionId categoryId db n after hfinishes

/-- A stored lunch is to get the category 2. -/
theorem not_updatesCategory_lunch :
    ¬ UpdatesCategory 1 2 (TransactionsRepositoryImpl.upsert
      { id := none
        amount := { minorUnits := 25000 }
        timestampUtcMillis := 0
        note := none
        categoryId := some 1
        accountId := none
        type := .expense } Database.empty) := by
  rintro ⟨n, after, hfinishes, -⟩
  exact not_finishes_updateTransactionCategory 1 2 _ n after hfinishes

end TransactionsViewModel

end SpendCraft
