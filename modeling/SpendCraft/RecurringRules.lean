import SpendCraft.Lib.Machine
import SpendCraft.Lib.SharedCell
import SpendCraft.Recurring
import Mathlib.Data.List.Sort
import Mathlib.Data.Set.Basic
import Mathlib.Logic.Function.Basic

/-!
# The Recurring Rules as a Map

What the screen of the recurring rules is for: a map from ids to rules, to which a rule is
added under a fresh id, in which a rule is replaced by an edited one, and from which a rule is
removed.

In `RecurringViewModel` the calls that would write an edited rule and delete a rule are
commented out. What is left of the two functions is the reload behind them, which collects the
query once more. The list follows the table all the same: the collectors bring the results of
the query in any order, and the last of them is that of the table.

## Conventions

A call of the view model is one event, with its launched work done; the results of the query
arrive by events of their own, at any collector, with any number of them dropped
(`Lib.SharedCell`). The insert of a new rule violates no constraint, while the upsert behind it
may fail. The specification `RuleMap` also has the ids of the deleted rules, so that it can be
said that a deleted one is not due. It is compared with the list when all results have arrived
(`Delivered`).

## Proof

The table after a run is that of its calls alone, and a delivered list is the query of the table
(`Current`). So the list is left out of the argument, and the calls are followed against the
specification: `Holds` says that the rows are the entries and nothing was deleted. It is kept by
an added rule, whose generated id no rule has had, and by a call that asks for no change
(`Harmless`); after any other call the list cannot show the map.

## Main results

* `source_run`, `current_run`: what a run of calls and arrivals does to the table and the list.
* `mirrorsRules_iff`: the list is the map of the specification in every run without edits and
  deletions of stored rules, and only there.
* `not_shows_deleted`: a deleted rule is still listed, and due.
-/

namespace SpendCraft

open Kotlin Relational Machine

/-! ### The queries -/

namespace RecurringTransactionDao

/-- `SELECT * … ORDER BY name ASC`. -/
def getAllRecurringTransactions (store : RecurringStore) : List RecurringTransactionEntity :=
  store.recurringTransactions.rows.insertionSort fun a b => a.name ≤ b.name

/-- `SELECT * … WHERE nextExecution <= :currentTime AND isActive = 1`. -/
def getDueRecurringTransactions (currentTime : ℤ) (store : RecurringStore) :
    List RecurringTransactionEntity :=
  store.recurringTransactions.rows.filter fun rule =>
    decide (rule.nextExecution ≤ currentTime) && rule.isActive

/-- The query lists every rule. -/
theorem mem_getAllRecurringTransactions {store : RecurringStore}
    {rule : RecurringTransactionEntity} :
    rule ∈ getAllRecurringTransactions store ↔ rule ∈ store.recurringTransactions.rows :=
  List.mem_insertionSort _

/-- The query lists no rule twice. -/
theorem nodup_getAllRecurringTransactions (store : RecurringStore) :
    (getAllRecurringTransactions store).Nodup :=
  (List.perm_insertionSort _ _).nodup_iff.mpr store.recurringTransactions.nodup

end RecurringTransactionDao

open RecurringTransactionDao

/-! ### The view model -/

/-- The tables, `_recurringTransactions`, and the collectors of the query. -/
abbrev RulesScreen := SharedCell RecurringStore (List RecurringTransactionEntity)

/-- The operations that a user asks for. -/
inductive RuleOp
  | add (now : ℤ) (upsertFails : Bool) (rule : RecurringViewModel.NewRule)
  | update (transaction : RecurringTransactionEntity)
  | delete (id : ℤ)

/-- A call whose launched work is done, or the arrival of a result at a collector. -/
inductive RulesEvent
  | call (op : RuleOp)
  | deliver (collector dropped : ℕ)

namespace RecurringViewModel

/-- `loadRecurringTransactions`: one more collector of the query. -/
def loadRecurringTransactions (screen : RulesScreen) : RulesScreen :=
  screen.collect getAllRecurringTransactions

/-- The `init` of the view model. -/
def start (store : RecurringStore) : RulesScreen :=
  loadRecurringTransactions { source := store, value := [], collectors := [] }

/-- `updateRecurringTransaction`: the line that would update the rule is a comment, and the list
is loaded again. -/
def updateRecurringTransaction (_transaction : RecurringTransactionEntity)
    (screen : RulesScreen) : RulesScreen :=
  -- recurringTransactionManager.updateRecurringTransaction(transaction)
  loadRecurringTransactions screen

/-- `deleteRecurringTransaction`: the same for the line that would delete it. -/
def deleteRecurringTransaction (_id : ℤ) (screen : RulesScreen) : RulesScreen :=
  -- recurringTransactionManager.deleteRecurringTransaction(id)
  loadRecurringTransactions screen

end RecurringViewModel

open RecurringViewModel

/-- The effect of a call on the tables. The insert violates no constraint. -/
def RuleOp.step (calendar : JavaCalendar) (store : RecurringStore) : RuleOp → RecurringStore
  | .add now upsertFails rule =>
      addRecurringTransaction calendar
        { insertRecurringTransaction := false, upsert := upsertFails } now rule store
  | .update _ => store
  | .delete _ => store

/-- A rule that is added is appended under the next id, whether its first booking fails or not. -/
theorem RuleOp.rows_step_add (calendar : JavaCalendar) (now : ℤ) (upsertFails : Bool)
    (rule : NewRule) (store : RecurringStore) :
    ((RuleOp.add now upsertFails rule).step calendar store).recurringTransactions.rows =
      store.recurringTransactions.rows ++ [{ newTransaction calendar rule with
        id := store.recurringTransactions.sequence + 1 }] :=
  addRecurringTransaction_rules

namespace RulesEvent

/-- One event: a call of the view model, or a result that reaches the screen. -/
def step (calendar : JavaCalendar) (screen : RulesScreen) : RulesEvent → RulesScreen
  | .call (.add now upsertFails rule) =>
      screen.write getAllRecurringTransactions
        fun store => (RuleOp.add now upsertFails rule).step calendar store
  | .call (.update transaction) => updateRecurringTransaction transaction screen
  | .call (.delete id) => deleteRecurringTransaction id screen
  | .deliver collector dropped => screen.deliver collector dropped

/-- The operation of an event, if it is a call. -/
def call? : RulesEvent → Option RuleOp
  | .call op => some op
  | .deliver _ _ => none

end RulesEvent

/-! ### Runs -/

section Run

variable {calendar : JavaCalendar} {screen : RulesScreen}

/-- **The tables** depend on the calls only. -/
theorem source_run (events : List RulesEvent) :
    (run (RulesEvent.step calendar) screen events).source =
      run (RuleOp.step calendar) screen.source (events.filterMap RulesEvent.call?) := by
  induction events generalizing screen with
  | nil => rfl
  | cons event events ih =>
      rw [run_cons, ih]
      cases event with
      | deliver collector dropped =>
          rw [RulesEvent.step, SharedCell.source_deliver]
          rfl
      | call op => cases op <;> rfl

/-- **The list** is on its way to the rules of the table. -/
theorem current_run (store : RecurringStore) (events : List RulesEvent) :
    (run (RulesEvent.step calendar) (start store) events).Current getAllRecurringTransactions ∧
      (run (RulesEvent.step calendar) (start store) events).collectors ≠ [] := by
  have hstart : (start store).Current getAllRecurringTransactions := by
    refine SharedCell.current_collect ⟨by simp, fun _ h => absurd rfl h⟩
  refine run_invariant_of_step
    (I := fun screen : RulesScreen =>
      screen.Current getAllRecurringTransactions ∧ screen.collectors ≠ []) ?_
    ⟨hstart, by simp [start, loadRecurringTransactions, SharedCell.collect]⟩ events
  rintro screen event ⟨hcurrent, hne⟩
  cases event with
  | deliver collector dropped =>
      refine ⟨hcurrent.deliver collector dropped, ?_⟩
      rw [← List.length_pos_iff] at hne ⊢
      rw [RulesEvent.step, SharedCell.length_collectors_deliver]
      exact hne
  | call op =>
      cases op with
      | add now upsertFails rule =>
          refine ⟨SharedCell.current_write fun store =>
            (RuleOp.add now upsertFails rule).step calendar store, ?_⟩
          simpa [RulesEvent.step, SharedCell.write] using hne
      | update transaction => exact ⟨SharedCell.current_collect hcurrent, by
          simp [RulesEvent.step, updateRecurringTransaction, loadRecurringTransactions,
            SharedCell.collect]⟩
      | delete id => exact ⟨SharedCell.current_collect hcurrent, by
          simp [RulesEvent.step, deleteRecurringTransaction, loadRecurringTransactions,
            SharedCell.collect]⟩

/-- **When all results have arrived**, the list is that of the table. -/
theorem run_of_delivered {store : RecurringStore} {events : List RulesEvent}
    (h : (run (RulesEvent.step calendar) (start store) events).Delivered) :
    (run (RulesEvent.step calendar) (start store) events).source =
        run (RuleOp.step calendar) store (events.filterMap RulesEvent.call?) ∧
      (run (RulesEvent.step calendar) (start store) events).value =
        getAllRecurringTransactions
          (run (RulesEvent.step calendar) (start store) events).source := by
  obtain ⟨hcurrent, hne⟩ := @current_run calendar store events
  exact ⟨source_run events, hcurrent.value h hne⟩

/-- The calls of a run can be made, and all results delivered. -/
theorem exists_delivered_run (ops : List RuleOp) :
    ∃ events : List RulesEvent, events.filterMap RulesEvent.call? = ops ∧
      (run (RulesEvent.step calendar) screen events).Delivered := by
  obtain ⟨arrivals, hdelivered⟩ :=
    (run (RulesEvent.step calendar) screen (ops.map RulesEvent.call)).exists_delivered
  refine ⟨ops.map RulesEvent.call ++ arrivals.map fun arrival => .deliver arrival.1 arrival.2,
    ?_, ?_⟩
  · rw [List.filterMap_append, List.filterMap_map, List.filterMap_map]
    simp [Function.comp_def, RulesEvent.call?]
  · rw [run_append]
    rw [run, List.foldl_map]
    exact hdelivered

end Run

/-! ### The specification -/

/-- The entries, and the ids of the rules that were deleted. -/
structure RuleMap where
  entries : ℤ → Option RecurringTransactionEntity
  deleted : Set ℤ

namespace RuleMap

/-- The map before the first operation. -/
def empty : RuleMap :=
  { entries := fun _ => none, deleted := ∅ }

/-- The map after a call. The fresh id is any that no rule has or had. -/
inductive Step (calendar : JavaCalendar) : RuleMap → RuleOp → RuleMap → Prop
  | add {m : RuleMap} {now : ℤ} {upsertFails : Bool} {rule : NewRule} {id : ℤ}
      (hfresh : m.entries id = none) (hnever : id ∉ m.deleted) :
      Step calendar m (.add now upsertFails rule)
        { m with
          entries := Function.update m.entries id
            (some { newTransaction calendar rule with id := id }) }
  | update {m : RuleMap} {transaction : RecurringTransactionEntity} :
      Step calendar m (.update transaction)
        { m with
          entries := Function.update m.entries transaction.id
            ((m.entries transaction.id).map fun _ => transaction) }
  | delete {m : RuleMap} {id : ℤ} :
      Step calendar m (.delete id)
        { entries := Function.update m.entries id none
          deleted := m.deleted ∪ {i | i = id ∧ (m.entries id).isSome} }

/-- The list has exactly the entries of the map, and no deleted rule is due. -/
structure Shows (rules : List RecurringTransactionEntity) (store : RecurringStore)
    (m : RuleMap) : Prop where
  nodup : rules.Nodup
  entries : ∀ rule, rule ∈ rules ↔ m.entries rule.id = some rule
  due : ∀ now, ∀ rule ∈ getDueRecurringTransactions now store, rule.id ∉ m.deleted

end RuleMap

/-- The call does not ask for a change of a stored rule. -/
def RuleOp.Harmless (store : RecurringStore) : RuleOp → Prop
  | .add _ _ _ => True
  | .update transaction =>
      ∀ row ∈ store.recurringTransactions.rows, row.id = transaction.id → row = transaction
  | .delete id => ∀ row ∈ store.recurringTransactions.rows, row.id ≠ id

/-- The table of rules is empty. -/
def emptyStore (others : Store) : RecurringStore :=
  { others with recurringTransactions := AutoTable.empty _ }

/-! ### The table -/

section Table

variable {calendar : JavaCalendar} {store : RecurringStore} {m m' : RuleMap} {op : RuleOp}

/-- The rows of the table are the entries of the map, from which nothing was deleted. -/
structure Holds (store : RecurringStore) (m : RuleMap) : Prop where
  entries : ∀ rule, rule ∈ store.recurringTransactions.rows ↔ m.entries rule.id = some rule
  key : ∀ id rule, m.entries id = some rule → rule.id = id
  deleted : m.deleted = ∅

/-- The query shows what the store holds. -/
theorem Holds.shows (h : Holds store m) :
    RuleMap.Shows (getAllRecurringTransactions store) store m where
  nodup := nodup_getAllRecurringTransactions store
  entries rule := mem_getAllRecurringTransactions.trans (h.entries rule)
  due := by simp [h.deleted]

/-- The map has no entry where the table has no row. -/
theorem Holds.entries_eq_none (h : Holds store m) {id : ℤ}
    (hid : ∀ row ∈ store.recurringTransactions.rows, row.id ≠ id) : m.entries id = none := by
  cases hentry : m.entries id with
  | none => rfl
  | some rule =>
      have hkey := h.key id rule hentry
      rw [← hkey] at hentry
      exact absurd hkey (hid rule ((h.entries rule).mpr hentry))

/-- **A new rule** gets an id that no rule has or had. -/
theorem Holds.exists_add (h : Holds store m) (now : ℤ) (upsertFails : Bool) (rule : NewRule) :
    ∃ m', RuleMap.Step calendar m (.add now upsertFails rule) m' ∧
      Holds ((RuleOp.add now upsertFails rule).step calendar store) m' := by
  obtain ⟨id, hid⟩ : ∃ id, id = store.recurringTransactions.sequence + 1 := ⟨_, rfl⟩
  have hrows :
      ((RuleOp.add now upsertFails rule).step calendar store).recurringTransactions.rows =
        store.recurringTransactions.rows ++ [{ newTransaction calendar rule with id := id }] := by
    rw [hid, RuleOp.rows_step_add]
  have hunused : ∀ row ∈ store.recurringTransactions.rows, row.id ≠ id := by
    intro row hrow
    rw [hid]
    exact store.recurringTransactions.generatedId_not_mem hrow
  refine ⟨_, .add (h.entries_eq_none hunused) (by simp [h.deleted]), ?_, ?_, h.deleted⟩
  · intro stored
    rw [hrows, List.mem_append, List.mem_singleton]
    by_cases hstored : stored.id = id
    · have hold : stored ∉ store.recurringTransactions.rows := fun hrow =>
        hunused stored hrow hstored
      simp only [hold, false_or, hstored, Function.update_self, Option.some_inj]
      exact eq_comm
    · have hnew : stored ≠ { newTransaction calendar rule with id := id } := by
        rintro rfl
        exact hstored rfl
      simp only [hnew, or_false, Function.update_of_ne hstored]
      exact h.entries stored
  · intro id' stored hentry
    by_cases hid' : id' = id
    · simp only [hid', Function.update_self, Option.some_inj] at hentry
      rw [← hentry, hid']
    · simp only [Function.update_of_ne hid'] at hentry
      exact h.key id' stored hentry

/-- Replacing a rule by itself, or one that is not stored, changes no entry. -/
theorem Holds.update_entries (h : Holds store m) {transaction : RecurringTransactionEntity}
    (hop : (RuleOp.update transaction).Harmless store) :
    Function.update m.entries transaction.id
      ((m.entries transaction.id).map fun _ => transaction) = m.entries := by
  rw [Function.update_eq_self_iff]
  cases hentry : m.entries transaction.id with
  | none => rfl
  | some row =>
      have hkey := h.key _ row hentry
      rw [← hkey] at hentry
      rw [hop row ((h.entries row).mpr hentry) hkey]
      rfl

/-- **The step.** The specification can follow a harmless call. -/
theorem Holds.exists_step (h : Holds store m) (hop : op.Harmless store) :
    ∃ m', RuleMap.Step calendar m op m' ∧ Holds (op.step calendar store) m' := by
  cases op with
  | add now upsertFails rule => exact h.exists_add now upsertFails rule
  | update transaction =>
      refine ⟨_, .update, ?_⟩
      rw [h.update_entries hop]
      exact h
  | delete id =>
      have hnone := h.entries_eq_none hop
      have hsame : Function.update m.entries id none = m.entries := by
        rw [← hnone, Function.update_eq_self]
      refine ⟨_, .delete, ?_⟩
      rw [hsame, hnone, h.deleted]
      exact ⟨h.entries, h.key, by simp⟩

/-- A call whose effect shows was harmless. -/
theorem harmless_of_shows (hstep : RuleMap.Step calendar m op m')
    (h : RuleMap.Shows (getAllRecurringTransactions (op.step calendar store))
      (op.step calendar store) m') : op.Harmless store := by
  cases hstep with
  | add hfresh hnever => trivial
  | @update transaction =>
      intro row hrow hid
      have hentry := (h.entries row).mp (mem_getAllRecurringTransactions.mpr hrow)
      rw [hid] at hentry
      simp only [Function.update_self, Option.map_eq_some_iff] at hentry
      obtain ⟨-, -, heq⟩ := hentry
      exact heq.symm
  | @delete id =>
      intro row hrow hid
      have hentry := (h.entries row).mp (mem_getAllRecurringTransactions.mpr hrow)
      rw [hid] at hentry
      simp only [Function.update_self] at hentry
      cases hentry

/-- **The table is the map** in every state of a run of harmless calls, and only there. -/
theorem forall_prefix_shows_iff (others : Store) (ops : List RuleOp) :
    (∀ pre, pre <+: ops → ∃ m, Reaches (RuleMap.Step calendar) RuleMap.empty pre m ∧
        RuleMap.Shows
          (getAllRecurringTransactions (run (RuleOp.step calendar) (emptyStore others) pre))
          (run (RuleOp.step calendar) (emptyStore others) pre) m) ↔
      AllSteps (RuleOp.step calendar) RuleOp.Harmless (emptyStore others) ops := by
  apply forall_prefix_exists_iff_allSteps (R := Holds)
    (V := fun store m => RuleMap.Shows (getAllRecurringTransactions store) store m)
  · exact fun store m h => h.shows
  · exact fun store op m h hop => h.exists_step hop
  · exact fun store op m m' hstep h => harmless_of_shows hstep h
  · exact ⟨by simp [emptyStore, RuleMap.empty, AutoTable.empty], by simp [RuleMap.empty], rfl⟩

end Table

/-! ### The screen -/

/-- **The list is the map** of the specification at every point of a run, once the results have
arrived, just when no call of the run edits or deletes a stored rule. -/
theorem mirrorsRules_iff (calendar : JavaCalendar) (others : Store) (ops : List RuleOp) :
    (∀ pre, pre <+: ops → ∀ events : List RulesEvent,
        events.filterMap RulesEvent.call? = pre →
        (run (RulesEvent.step calendar) (start (emptyStore others)) events).Delivered →
        ∃ m, Reaches (RuleMap.Step calendar) RuleMap.empty pre m ∧
          RuleMap.Shows
            (run (RulesEvent.step calendar) (start (emptyStore others)) events).value
            (run (RulesEvent.step calendar) (start (emptyStore others)) events).source m) ↔
      AllSteps (RuleOp.step calendar) RuleOp.Harmless (emptyStore others) ops := by
  rw [← forall_prefix_shows_iff]
  refine forall₂_congr fun pre _ => ?_
  constructor
  · intro h
    obtain ⟨events, hevents, hdelivered⟩ :
        ∃ events : List RulesEvent, events.filterMap RulesEvent.call? = pre ∧
          (run (RulesEvent.step calendar) (start (emptyStore others)) events).Delivered :=
      exists_delivered_run pre
    obtain ⟨hsource, hlist⟩ := run_of_delivered hdelivered
    have hshows := h events hevents hdelivered
    rwa [hlist, hsource, hevents] at hshows
  · intro h events hevents hdelivered
    obtain ⟨hsource, hlist⟩ := run_of_delivered hdelivered
    rwa [hlist, hsource, hevents]

/-- A rule is added and deleted, and everything arrives. -/
def addAndDelete : List RulesEvent :=
  [.call (.add 0 false rentFromTomorrow), .call (.delete 1), .deliver 0 1, .deliver 1 0]

/-- The deleted rule is still listed. -/
theorem not_shows_deleted :
    (run (RulesEvent.step (.gregorian 0)) (start (emptyStore .seeded)) addAndDelete).Delivered ∧
      ¬∃ m, Reaches (RuleMap.Step (.gregorian 0)) RuleMap.empty
          (addAndDelete.filterMap RulesEvent.call?) m ∧
        RuleMap.Shows
          (run (RulesEvent.step (.gregorian 0)) (start (emptyStore .seeded)) addAndDelete).value
          (run (RulesEvent.step (.gregorian 0)) (start (emptyStore .seeded)) addAndDelete).source
          m := by
  have hdelivered : (run (RulesEvent.step (.gregorian 0)) (start (emptyStore .seeded))
      addAndDelete).Delivered := by
    intro results hresults
    have hcollectors : (run (RulesEvent.step (.gregorian 0)) (start (emptyStore .seeded))
        addAndDelete).collectors = [[], []] := rfl
    rw [hcollectors] at hresults
    simpa using hresults
  refine ⟨hdelivered, ?_⟩
  rintro ⟨m, ⟨m₁, -, m₂, hdelete, rfl⟩, hshows⟩
  obtain ⟨hsource, hlist⟩ := run_of_delivered hdelivered
  rw [hlist, hsource] at hshows
  have hharmless : (RuleOp.delete 1).Harmless (run (RuleOp.step (.gregorian 0))
      (emptyStore .seeded) [.add 0 false rentFromTomorrow]) := harmless_of_shows hdelete hshows
  have hrow : { newTransaction (.gregorian 0) rentFromTomorrow with id := 1 } ∈
      ((RuleOp.add 0 false rentFromTomorrow).step (.gregorian 0)
        (emptyStore .seeded)).recurringTransactions.rows := by
    rw [RuleOp.rows_step_add]
    exact List.mem_append_right _ (List.mem_singleton_self _)
  exact hharmless _ hrow rfl

end SpendCraft
