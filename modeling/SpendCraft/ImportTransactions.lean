import SpendCraft.CsvRecords
import SpendCraft.TransactionsRepository

/-!
# Importing Transactions

`ImportTransactionsUseCase` parses a CSV content and upserts its transactions one after
the other, inside one `try` block and without a database transaction. An exception of the
repository ends the loop and becomes an `ImportResult.Error`; the rows written so far
stay.

The repository is given by `fails`: the message of the exception that the upsert number
`i` throws, or `none` when it succeeds.

## Conventions

A repository that throws writes nothing for that upsert. The parsed transactions have no id, so
that each upsert is an insert with a generated one. The contents, the conversion of amounts and
the readings of the clock are those of `CsvParser`, and any of them may come; a content from which
nothing is parsed is an error of its own, before the loop.

`Appended` says of two databases that the second is the first with these transactions behind the
rows, under the next ids, and that no other table has changed.

## Proof

The loop is a recursion over the transactions with the number of the upsert. Its lemma
`upsertAll_cases` is the induction: all are appended, or those in front of the first failure. The
use case adds the two branches around it.

## Main results

* `importsPrefix`: what the store holds after an import, for each result.
* `not_allOrNothing_second_upsert`: an error can leave rows behind.
-/

namespace SpendCraft

open Kotlin TransactionsRepositoryImpl

/-- What the use case returns. -/
inductive ImportResult
  | success (count : ℕ)
  | error (message : Text)
  deriving DecidableEq, Repr

namespace ImportTransactionsUseCase

/-- `transactions.forEach { repository.upsert(it) }`, from the upsert number `i` on. The
result is the message of the exception, if one was thrown. -/
def upsertAll (fails : ℕ → Option Text) (i : ℕ) :
    List Transaction → Database → Option Text × Database
  | [], db => (none, db)
  | transaction :: transactions, db =>
      match fails i with
      | some message => (some message, db)
      | none => upsertAll fails (i + 1) transactions (upsert transaction db)

/-- The transactions of a CSV content. -/
def parsedTransactions (minorUnits : Decimal → Int64) (now : ℕ → ℤ) (csvContent : Text) :
    List Transaction :=
  (CsvParser.parseTransactions minorUnits now csvContent).map CsvTransaction.toTransaction

/-- `invoke`: nothing is imported from a file without a transaction, and an error half-way is
returned with what was stored before it. -/
def invoke (minorUnits : Decimal → Int64) (now : ℕ → ℤ) (fails : ℕ → Option Text)
    (csvContent : Text) (db : Database) : ImportResult × Database :=
  let csvTransactions := CsvParser.parseTransactions minorUnits now csvContent
  if csvTransactions.isEmpty then (.error "No valid transactions found in CSV".toList, db)
  else
    let transactions := csvTransactions.map CsvTransaction.toTransaction
    match upsertAll fails 0 transactions db with
    | (none, after) => (.success csvTransactions.length, after)
    | (some message, after) =>
        (.error ("Failed to import transactions: ".toList ++ message), after)

/-! ### The loop -/

/-- The store `after` is `before` with the transactions appended, in order, under the
next ids; no other row and no other table is touched. -/
structure Appended (before after : Database) (transactions : List Transaction) : Prop where
  rows_eq : after.transactions.rows = before.transactions.rows ++
    transactions.mapIdx fun i transaction =>
      rowWithId (before.transactions.sequence + 1 + i) transaction
  categories_eq : after.categories = before.categories
  budgets_eq : after.budgets = before.budgets
  budgetAlerts_eq : after.budgetAlerts = before.budgetAlerts

/-- Appending nothing. -/
theorem Appended.refl (db : Database) : Appended db db [] :=
  ⟨by simp, rfl, rfl, rfl⟩

/-- One more upsert in front. -/
theorem Appended.cons {transaction : Transaction} {transactions : List Transaction}
    {before after : Database} (hid : transaction.id = none)
    (h : Appended (upsert transaction before) after transactions) :
    Appended before after (transaction :: transactions) := by
  obtain ⟨hcategories, hbudgets, halerts⟩ := tables_upsert transaction before
  refine ⟨?_, h.categories_eq.trans hcategories, h.budgets_eq.trans hbudgets,
    h.budgetAlerts_eq.trans halerts⟩
  have hids : ∀ i : ℕ, before.transactions.sequence + 1 + 1 + (i : ℤ) =
      before.transactions.sequence + 1 + ((i + 1 : ℕ) : ℤ) := by
    intro i
    omega
  rw [h.rows_eq, rows_upsert_new hid, sequence_upsert_new hid, List.append_assoc,
    List.singleton_append, List.mapIdx_cons]
  simp only [hids, Nat.cast_zero, add_zero]

/-- The upsert number `k` of the loop is the first one that fails. -/
structure FirstFailure (fails : ℕ → Option Text) (transactions : List Transaction) (k : ℕ) :
    Prop where
  lt_length : k < transactions.length
  fails_at : fails k ≠ none
  succeeds_before : ∀ j < k, fails j = none

/-- **The loop** appends all transactions, or those in front of the first failure. -/
theorem upsertAll_cases (fails : ℕ → Option Text) {transactions : List Transaction}
    (hids : ∀ transaction ∈ transactions, transaction.id = none) (i : ℕ) (before : Database) :
    ((upsertAll fails i transactions before).1 = none ∧
        Appended before (upsertAll fails i transactions before).2 transactions) ∨
      ((upsertAll fails i transactions before).1 ≠ none ∧
        ∃ k, FirstFailure (fun j => fails (i + j)) transactions k ∧
          Appended before (upsertAll fails i transactions before).2 (transactions.take k)) := by
  induction transactions generalizing i before with
  | nil => exact Or.inl ⟨rfl, Appended.refl before⟩
  | cons transaction transactions ih =>
      have hid := hids transaction List.mem_cons_self
      cases hfail : fails i with
      | some message =>
          rw [upsertAll, hfail]
          refine Or.inr ⟨Option.some_ne_none message, 0, ⟨Nat.zero_lt_succ _, ?_, ?_⟩,
            Appended.refl before⟩
          · rw [Nat.add_zero, hfail]
            exact Option.some_ne_none message
          · intro j hj
            exact absurd hj (Nat.not_lt_zero j)
      | none =>
          rw [upsertAll, hfail]
          rcases ih (fun t ht => hids t (List.mem_cons_of_mem transaction ht)) (i + 1)
            (upsert transaction before) with ⟨hnone, happended⟩ | ⟨hsome, k, hfirst, happended⟩
          · exact Or.inl ⟨hnone, happended.cons hid⟩
          · refine Or.inr ⟨hsome, k + 1, ⟨?_, ?_, ?_⟩, happended.cons hid⟩
            · exact Nat.succ_lt_succ hfirst.lt_length
            · have hat := hfirst.fails_at
              rwa [Nat.add_right_comm] at hat
            · intro j hj
              cases j with
              | zero => exact hfail
              | succ j =>
                  have hbefore := hfirst.succeeds_before j (Nat.lt_of_succ_lt_succ hj)
                  rwa [Nat.add_right_comm] at hbefore

/-! ### The use case -/

/-- An imported transaction comes without an id, so every one is inserted. -/
theorem ids_toTransaction (csvTransactions : List CsvTransaction) :
    ∀ transaction ∈ csvTransactions.map CsvTransaction.toTransaction,
      transaction.id = none := by
  intro transaction hmem
  obtain ⟨t, -, rfl⟩ := List.mem_map.mp hmem
  rfl

/-- All or nothing: a success reports the number of added transactions, an error leaves
the stored transactions as they were. -/
def AllOrNothing (before : Database) : ImportResult × Database → Prop
  | (.success count, after) => ∃ added : List TransactionEntity, added.length = count ∧
      after.transactions.rows = before.transactions.rows ++ added
  | (.error _, after) => after.transactions.rows = before.transactions.rows

/-- What an import does: a success has appended every parsed transaction and reports
their number; an error has appended the ones in front of the first failing upsert, and
none if there was nothing to import. -/
def ImportsPrefix (fails : ℕ → Option Text) (parsed : List Transaction) (before : Database) :
    ImportResult × Database → Prop
  | (.success count, after) => count = parsed.length ∧ Appended before after parsed
  | (.error _, after) => (parsed = [] ∧ after = before) ∨
      ∃ k, FirstFailure fails parsed k ∧ Appended before after (parsed.take k)

/-- **An import keeps the rows in front of the first failure**, and all of them if there
is none. -/
theorem importsPrefix (minorUnits : Decimal → Int64) (now : ℕ → ℤ) (fails : ℕ → Option Text)
    (csvContent : Text) (before : Database) :
    ImportsPrefix fails (parsedTransactions minorUnits now csvContent) before
      (invoke minorUnits now fails csvContent before) := by
  rw [invoke, parsedTransactions]
  generalize CsvParser.parseTransactions minorUnits now csvContent = csvTransactions
  cases hempty : csvTransactions.isEmpty with
  | true =>
      rw [List.isEmpty_iff] at hempty
      rw [hempty]
      exact Or.inl ⟨rfl, rfl⟩
  | false =>
      have hcases := upsertAll_cases fails (ids_toTransaction csvTransactions) 0 before
      simp only [Nat.zero_add] at hcases
      simp only [Bool.false_eq_true, if_false]
      generalize upsertAll fails 0 (csvTransactions.map CsvTransaction.toTransaction) before =
        outcome at hcases
      obtain ⟨message, after⟩ := outcome
      cases message with
      | none =>
          rcases hcases with ⟨-, happended⟩ | ⟨hsome, -⟩
          · exact ⟨(List.length_map _).symm, happended⟩
          · exact absurd rfl hsome
      | some message =>
          rcases hcases with ⟨hnone, -⟩ | ⟨-, k, hfirst, happended⟩
          · cases hnone
          · exact Or.inr ⟨k, hfirst, happended⟩

/-- Where no upsert fails, everything that is parsed is appended. -/
theorem appended_invoke (minorUnits : Decimal → Int64) (now : ℕ → ℤ) (csvContent : Text)
    (before : Database) :
    Appended before (invoke minorUnits now (fun _ => none) csvContent before).2
      (parsedTransactions minorUnits now csvContent) := by
  rw [invoke, parsedTransactions]
  generalize CsvParser.parseTransactions minorUnits now csvContent = csvTransactions
  cases hempty : csvTransactions.isEmpty with
  | true =>
      rw [List.isEmpty_iff] at hempty
      rw [hempty]
      exact Appended.refl before
  | false =>
      have hcases := upsertAll_cases (fun _ => none)
        (ids_toTransaction csvTransactions) 0 before
      simp only [Bool.false_eq_true, if_false]
      generalize upsertAll (fun _ => none) 0 (csvTransactions.map CsvTransaction.toTransaction)
        before = outcome at hcases
      obtain ⟨message, after⟩ := outcome
      rcases hcases with ⟨rfl, happended⟩ | ⟨-, k, hfirst, -⟩
      · exact happended
      · exact absurd rfl hfirst.fails_at

/-- The second of two rows cannot be written: the result is an error, and the first row
has been stored. -/
theorem not_allOrNothing_second_upsert :
    ¬ AllOrNothing Database.empty
      (invoke binary64MinorUnits (fun _ => 0)
        (fun i => if i = 1 then some "disk full".toList else none)
        "Date,Amount\n2024-01-15,1\n2024-01-16,1".toList Database.empty) := by
  intro h
  have herror : (invoke binary64MinorUnits (fun _ => 0)
      (fun i => if i = 1 then some "disk full".toList else none)
      "Date,Amount\n2024-01-15,1\n2024-01-16,1".toList Database.empty).1 =
        .error "Failed to import transactions: disk full".toList := by
    decide
  have hrows : (invoke binary64MinorUnits (fun _ => 0)
      (fun i => if i = 1 then some "disk full".toList else none)
      "Date,Amount\n2024-01-15,1\n2024-01-16,1".toList Database.empty).2.transactions.rows ≠
        [] := by
    decide
  generalize invoke binary64MinorUnits (fun _ => 0)
    (fun i => if i = 1 then some "disk full".toList else none)
    "Date,Amount\n2024-01-15,1\n2024-01-16,1".toList Database.empty = outcome at h herror hrows
  obtain ⟨result, after⟩ := outcome
  cases herror
  exact hrows h

end ImportTransactionsUseCase

end SpendCraft
