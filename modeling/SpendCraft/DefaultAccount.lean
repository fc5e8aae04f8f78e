import SpendCraft.Repositories

/-!
# The Default Account

The flag `isDefault` is a column of the accounts table that the domain `Account` does not
have: every write through `AccountMapper` rebuilds the row with the flag off. Deleting
relies on the flag, since the query spares the default account.

## Conventions

The operations are those of the repository on accounts, from any number of callers, one after the
other. An update is given a domain account, which has no flag, and writes the row that the mapper
makes of it. A run starts with the seeded store, and the step lemma is about any store.

## Proof

The step lemma goes through the operations: an insert that finds its id taken changes nothing and
otherwise adds a row without the flag, a delete spares the flagged row by its query, and an update
clears the flag of the row it writes. So the flag is lost just when the updated account is the
default one (`SparesDefault`), and the runs are the rule of `Machine` for exact conditions.

## Main results

* `oneDefault_step_iff`: which operations keep exactly one default account.
* `alwaysOneDefault_iff`: a run keeps it just when no update is of the default account.
-/

namespace SpendCraft

open Kotlin Relational Machine

/-- Exactly one account is the default one, and so there is one. -/
structure OneDefault (store : Store) : Prop where
  count_eq : store.accounts.rows.countP AccountEntity.isDefault = 1
  rows_ne_nil : store.accounts.rows ≠ []

/-- One default is one row with the flag. -/
theorem oneDefault_iff {store : Store} :
    OneDefault store ↔ store.accounts.rows.countP AccountEntity.isDefault = 1 := by
  refine ⟨OneDefault.count_eq, fun h => ⟨h, ?_⟩⟩
  intro hnil
  rw [hnil] at h
  exact Nat.zero_ne_one h

/-- The operation is not an update of the default account. -/
def SparesDefault (store : Store) : StoreOp → Prop
  | .updateAccount account =>
      ∀ row ∈ store.accounts.rows, row.isDefault = true → row.id ≠ account.id.getD 0
  | _ => True

/-! ### The operations on accounts -/

section Operations

variable (store : Store)

/-- An insert adds no default account. -/
theorem count_insertAccount (account : Account) :
    (TransactionsRepositoryImpl.insertAccount account store).accounts.rows.countP
        AccountEntity.isDefault =
      store.accounts.rows.countP AccountEntity.isDefault := by
  have hrows : (TransactionsRepositoryImpl.insertAccount account store).accounts =
      store.accounts.insertOrIgnore (AccountMapper.toEntity account false) := rfl
  rw [hrows]
  cases h : store.accounts.toTable.hasKey
      (store.accounts.storedId (AccountMapper.toEntity account false)) with
  | true => rw [AutoTable.rows_insertOrIgnore_of_hasKey h]
  | false =>
      rw [AutoTable.rows_insertOrIgnore h, List.countP_append]
      rfl

/-- A delete removes no default account: the query spares it. -/
theorem count_deleteAccount (accountId : ℤ) :
    (TransactionsRepositoryImpl.deleteAccount accountId store).accounts.rows.countP
        AccountEntity.isDefault =
      store.accounts.rows.countP AccountEntity.isDefault := by
  have hrows : (TransactionsRepositoryImpl.deleteAccount accountId store).accounts.rows =
      store.accounts.rows.filter fun row => !(row.id == accountId && !row.isDefault) := rfl
  rw [hrows, List.countP_filter]
  apply List.countP_congr
  intro row _
  cases row.isDefault with
  | true => simp
  | false => simp

/-- An update of a row clears its flag. -/
theorem count_updateAccount (account : Account) :
    (TransactionsRepositoryImpl.updateAccount account store).accounts.rows.countP
        AccountEntity.isDefault =
      store.accounts.rows.countP fun row => row.isDefault && row.id != account.id.getD 0 := by
  have hrows : (TransactionsRepositoryImpl.updateAccount account store).accounts.rows =
      store.accounts.rows.map fun row =>
        if row.id = account.id.getD 0 then AccountMapper.toEntity account false else row := rfl
  rw [hrows, List.countP_map]
  apply List.countP_congr
  intro row _
  by_cases h : row.id = account.id.getD 0
  · simp [h, AccountMapper.toEntity]
  · simp [h]

end Operations

/-- A count stays one under a stronger predicate just when the counted element
satisfies it. -/
theorem countP_and_eq_one_iff {α : Type*} {p q : α → Bool} {l : List α} (h : l.countP p = 1) :
    l.countP (fun a => p a && q a) = 1 ↔ ∀ a ∈ l, p a = true → q a = true := by
  have hfilter : l.countP (fun a => p a && q a) = (l.filter p).countP q := by
    rw [List.countP_filter]
    apply List.countP_congr
    intro a _
    rw [Bool.and_comm]
  rw [hfilter, ← h, List.countP_eq_length_filter (p := p), List.countP_eq_length]
  simp only [List.mem_filter, and_imp]

/-- **The step.** From one default account, exactly the update of it breaks the rule. -/
theorem oneDefault_step_iff {store : Store} (h : OneDefault store) (op : StoreOp) :
    OneDefault (op.step store) ↔ SparesDefault store op := by
  rw [oneDefault_iff]
  cases op with
  | insertAccount account =>
      exact iff_of_true ((count_insertAccount store account).trans h.count_eq) True.intro
  | deleteAccount accountId =>
      exact iff_of_true ((count_deleteAccount store accountId).trans h.count_eq) True.intro
  | updateAccount account =>
      have hcount := count_updateAccount store account
      rw [StoreOp.step, hcount, countP_and_eq_one_iff h.count_eq]
      simp only [SparesDefault, bne_iff_ne]
  | _ => exact iff_of_true h.count_eq True.intro

/-- The seeded store has one default account. -/
theorem oneDefault_seeded : OneDefault Store.seeded :=
  oneDefault_iff.mpr (by decide)

/-- **Exactly one default account** in every state of a run, just when no step of the run
updates the account that is the default one at that time. -/
theorem alwaysOneDefault_iff (ops : List StoreOp) :
    (∀ pre, pre <+: ops → OneDefault (run StoreOp.step Store.seeded pre)) ↔
      AllSteps StoreOp.step SparesDefault Store.seeded ops :=
  forall_prefix_iff_of_step (I := OneDefault) (fun _ op h => oneDefault_step_iff h op)
    oneDefault_seeded ops

/-- Renaming the only account and then deleting it leaves no account at all. -/
theorem not_oneDefault_renamed :
    ¬ OneDefault (run StoreOp.step Store.seeded
        [.updateAccount { id := some 1, name := "Cüzdan".toList }]) ∧
      (run StoreOp.step Store.seeded
        [.updateAccount { id := some 1, name := "Cüzdan".toList },
          .deleteAccount 1]).accounts.rows = [] := by
  refine ⟨fun h => ?_, by decide⟩
  have hcount := h.count_eq
  revert hcount
  decide

end SpendCraft
