import SpendCraft.CategoriesTab
import SpendCraft.Lib.CachedFlow
import SpendCraft.Lib.Machine
import SpendCraft.Repositories

/-!
# The Limit of Free Budgets

Users without premium have three budgets. `BudgetViewModel.addBudgetWithLimit` counts those in
`budgets.value`, the cached value of a flow that is empty at first, and upserts its budget when
there are fewer. Between the two it suspends, so that any number of calls can be behind the
guard when one of them writes.

## Conventions

The budgets are read through a flow with a cached value, which is `Lib.CachedFlow` over the
database: results arrive late, in order, and some may be dropped. A call of `addBudgetWithLimit`
is two steps, the guard on the cached value and the write of the row, and the calls that have
passed the guard are a list, so that any of them may write next. Nobody else writes the budget
table in a run.

The two promises, `UpdatesExisting` and `KeepsFreeLimit`, are about all calls of a run, and the
condition on a step, `GuardsTable`, is about the state before it.

## Proof

A write adds a row only for a category that has none, so the table grows past three only through a
write that finds three rows and a new category. Whether a guard lets a call pass is a fact about
the cached value. The sequential case needs an invariant on top of that of the flow: the rows of
the table together with the calls behind the guard are at most three.

## Main results

* `length_run_le_of_settled`: calls that are made one after the other.
* `updatesExisting_call_iff`: calls for a category that has a budget.
* `keepsFreeLimit_iff`: the calls of a run.
-/

namespace SpendCraft

open Kotlin Machine

namespace BudgetViewModel

/-- The database with the flow `budgets`, and the calls that have passed the guard. -/
structure Session where
  budgets : CachedFlow Database (List Budget)
  upserts : List Budget

namespace Session

/-- A session before its first call. -/
def initial (db : Database) : Session :=
  { budgets := .initial db [], upserts := [] }

/-- The rows of the budget table. -/
def rows (session : Session) : List BudgetEntity :=
  session.budgets.source.budgets.rows

/-- The category has a budget. -/
def HasBudget (session : Session) (categoryId : Text) : Prop :=
  categoryId ∈ session.rows.map BudgetEntity.categoryId

/-- Whether a budget is there is looked up in the table. -/
instance (session : Session) (categoryId : Text) : Decidable (session.HasBudget categoryId) :=
  inferInstanceAs (Decidable (categoryId ∈ session.rows.map BudgetEntity.categoryId))

end Session

/-- The guard. -/
def addBudgetWithLimit (budget : Budget) (isPremium : Bool) (session : Session) : Session :=
  let current := session.budgets.value
  if !isPremium && decide (3 ≤ current.length) then session
  else { session with upserts := session.upserts ++ [budget] }

/-- A call of a user without premium, the write of one that has passed the guard, or what
happens to the flow. -/
inductive LimitEvent
  | call (budget : Budget)
  | upsert (i : ℕ)
  | flow (e : FlowEvent)
  deriving DecidableEq, Repr

/-- The check of the budgets behind the write does not change them. -/
def LimitEvent.step (session : Session) : LimitEvent → Session
  | call budget => addBudgetWithLimit budget false session
  | upsert i =>
      match session.upserts[i]? with
      | some budget =>
          { budgets := session.budgets.write BudgetRepositoryImpl.observeBudgets
              (BudgetRepositoryImpl.upsertBudget budget)
            upserts := session.upserts.eraseIdx i }
      | none => session
  | flow e =>
      { session with budgets := session.budgets.event BudgetRepositoryImpl.observeBudgets e }

/-! ### The two promises -/

/-- A call for a category that has a budget passes the guard, and its write sets the limit. -/
def UpdatesExisting (session : Session) : LimitEvent → Prop
  | .call budget =>
      session.HasBudget budget.categoryId →
        (LimitEvent.step session (.call budget)).upserts = session.upserts ++ [budget]
  | .upsert i =>
      ∀ budget ∈ session.upserts[i]?,
        ((LimitEvent.step session (.upsert i)).rows.filter fun row =>
          decide (row.categoryId = budget.categoryId)) =
            [{ categoryId := budget.categoryId, monthlyLimitMinor := budget.monthlyLimitMinor }]
  | .flow _ => True

/-- **Free users keep at most three budgets**, and can update the limits of those. -/
def KeepsFreeLimit (db : Database) (events : List LimitEvent) : Prop :=
  (∀ pre, pre <+: events → (run LimitEvent.step (.initial db) pre).rows.length ≤ 3) ∧
    AllSteps LimitEvent.step UpdatesExisting (.initial db) events

/-- The guard lets calls for categories that have a budget pass, and no others whose write finds
three budgets. -/
def GuardsTable (session : Session) : LimitEvent → Prop
  | .call budget => session.HasBudget budget.categoryId → session.budgets.value.length < 3
  | .upsert i =>
      ∀ budget ∈ session.upserts[i]?,
        session.HasBudget budget.categoryId ∨ session.rows.length < 3
  | .flow _ => True

/-- Whether a step meets the condition is decided in the state before it. -/
instance (session : Session) : DecidablePred (GuardsTable session)
  | .call budget =>
      inferInstanceAs (Decidable (session.HasBudget budget.categoryId →
        session.budgets.value.length < 3))
  | .upsert i =>
      inferInstanceAs (Decidable (∀ budget ∈ session.upserts[i]?,
        session.HasBudget budget.categoryId ∨ session.rows.length < 3))
  | .flow _ => .isTrue trivial

/-! ### Steps -/

variable {session : Session} {budget : Budget} {i : ℕ}

/-- Below the limit the call goes on to its upsert. -/
theorem addBudgetWithLimit_of_lt (h : session.budgets.value.length < 3) :
    addBudgetWithLimit budget false session =
      { session with upserts := session.upserts ++ [budget] } := by
  simp [addBudgetWithLimit, h]

/-- At the limit the call ends at once. -/
theorem addBudgetWithLimit_of_le (h : 3 ≤ session.budgets.value.length) :
    addBudgetWithLimit budget false session = session := by
  simp [addBudgetWithLimit, h]

/-- An upsert that was launched is done. -/
theorem step_upsert (h : session.upserts[i]? = some budget) :
    LimitEvent.step session (.upsert i) =
      { budgets := session.budgets.write BudgetRepositoryImpl.observeBudgets
          (BudgetRepositoryImpl.upsertBudget budget)
        upserts := session.upserts.eraseIdx i } := by
  rw [LimitEvent.step, h]

/-- The guard writes nothing. -/
theorem rows_step_call (budget : Budget) (session : Session) :
    (LimitEvent.step session (.call budget)).rows = session.rows := by
  rw [LimitEvent.step, addBudgetWithLimit]
  split_ifs
  · rfl
  · rfl

/-- A step of the flow changes no row. -/
theorem rows_step_flow (e : FlowEvent) (session : Session) :
    (LimitEvent.step session (.flow e)).rows = session.rows := by
  rw [LimitEvent.step, Session.rows, Session.rows, CachedFlow.source_event]

/-- **A write** adds a row, unless its category has a budget. -/
theorem length_rows_step_upsert (h : session.upserts[i]? = some budget) :
    (LimitEvent.step session (.upsert i)).rows.length =
      if session.HasBudget budget.categoryId then session.rows.length
      else session.rows.length + 1 := by
  rw [step_upsert h]
  exact session.budgets.source.budgets.length_insertOrReplace
    { categoryId := budget.categoryId, monthlyLimitMinor := budget.monthlyLimitMinor }

/-- **Calls for a category that has a budget** pass the guard while the cached list is short. -/
theorem updatesExisting_call_iff :
    UpdatesExisting session (.call budget) ↔ GuardsTable session (.call budget) := by
  refine imp_congr_right fun _ => ?_
  rw [LimitEvent.step]
  obtain hlt | hle := Nat.lt_or_ge session.budgets.value.length 3
  · rw [addBudgetWithLimit_of_lt hlt]
    exact iff_of_true rfl hlt
  · rw [addBudgetWithLimit_of_le hle]
    refine iff_of_false ?_ (by omega)
    intro heq
    simpa using congrArg List.length heq

/-- A write sets the limit. -/
theorem updatesExisting_upsert : UpdatesExisting session (.upsert i) := by
  intro budget hbudget
  rw [step_upsert hbudget]
  have hrow := session.budgets.source.budgets.filter_key_insertOrReplace
    { categoryId := budget.categoryId, monthlyLimitMinor := budget.monthlyLimitMinor }
    budget.categoryId
  rwa [if_pos rfl] at hrow

/-- A step that guards the table lets the budgets that are there be updated. -/
theorem updatesExisting_of_guardsTable {event : LimitEvent} (h : GuardsTable session event) :
    UpdatesExisting session event := by
  cases event with
  | call budget => exact updatesExisting_call_iff.mpr h
  | upsert i => exact updatesExisting_upsert
  | flow e => trivial

/-- **The step of the count.** -/
theorem length_rows_step_le_iff {event : LimitEvent} (h : session.rows.length ≤ 3)
    (hupdates : UpdatesExisting session event) :
    (LimitEvent.step session event).rows.length ≤ 3 ↔ GuardsTable session event := by
  cases event with
  | call budget =>
      rw [rows_step_call]
      exact iff_of_true h (updatesExisting_call_iff.mp hupdates)
  | flow e =>
      rw [rows_step_flow]
      exact iff_of_true h trivial
  | upsert i =>
      rw [GuardsTable]
      cases hbudget : session.upserts[i]? with
      | none =>
          rw [LimitEvent.step, hbudget]
          exact iff_of_true h nofun
      | some budget =>
          rw [length_rows_step_upsert hbudget]
          simp only [Option.mem_some_iff, forall_eq']
          split_ifs with hhas
          · exact iff_of_true h (Or.inl hhas)
          · rw [or_iff_right hhas]
            omega

/-! ### Runs -/

variable {db : Database} {events : List LimitEvent}

/-- **The calls of a run** keep the three budgets just when the guard is right about the table
at each of them. -/
theorem keepsFreeLimit_iff (h : db.budgets.rows.length ≤ 3) :
    KeepsFreeLimit db events ↔ AllSteps LimitEvent.step GuardsTable (.initial db) events := by
  have hstart : (Session.initial db).rows.length ≤ 3 := h
  have hcount_iff (hupdates : AllSteps LimitEvent.step UpdatesExisting (.initial db) events) :
      (∀ pre, pre <+: events → (run LimitEvent.step (.initial db) pre).rows.length ≤ 3) ↔
        AllSteps LimitEvent.step GuardsTable (.initial db) events :=
    forall_prefix_iff_allSteps (I := fun session : Session => session.rows.length ≤ 3)
      (fun _ _ => length_rows_step_le_iff) hstart hupdates
  constructor
  · rintro ⟨hcount, hupdates⟩
    exact (hcount_iff hupdates).mp hcount
  · intro hguards
    have hupdates := hguards.mono fun _ _ => updatesExisting_of_guardsTable
    exact ⟨(hcount_iff hupdates).mpr hguards, hupdates⟩

/-- A budget for the market. -/
def marketBudget : Budget :=
  { categoryId := "Market".toList, monthlyLimitMinor := 50000 }

/-- The limit is raised before the first budget is in the cached list. -/
theorem keepsFreeLimit_market :
    KeepsFreeLimit Database.empty
      [.flow .subscribe, .call marketBudget, .upsert 0,
        .call { marketBudget with monthlyLimitMinor := 60000 }, .upsert 0] :=
  (keepsFreeLimit_iff (by decide)).mpr (by decide)

/-- Budgets of the same limit for several names. -/
def budgetsOf (names : List Text) : List Budget :=
  names.map fun name => { categoryId := name, monthlyLimitMinor := 50000 }

/-- One name more than a free user may have. -/
def fourNames : List Text :=
  ["Market".toList, "Yemek".toList, "Ulaşım".toList, "Eğlence".toList]

/-- Nobody collects the flow, and a fourth budget is added; or the cached list has three
budgets, and the limit of one cannot be raised. -/
theorem not_keepsFreeLimit :
    ¬ KeepsFreeLimit Database.empty
        ((budgetsOf fourNames).flatMap fun budget => [.call budget, .upsert 0]) ∧
      ¬ KeepsFreeLimit
        ((budgetsOf (fourNames.take 3)).foldl (fun db budget =>
          BudgetRepositoryImpl.upsertBudget budget db) Database.empty)
        [.flow .subscribe, .flow (.deliver 0), .call marketBudget] := by
  constructor
  · rintro ⟨hcount, -⟩
    exact absurd (hcount _ List.prefix_rfl) (by decide)
  · rintro ⟨-, -, -, hupdates, -⟩
    exact absurd (hupdates (by decide)) (by decide)

/-! ### Calls one after the other -/

/-- The results have arrived, and no call is behind the guard. -/
def Settled (session : Session) : LimitEvent → Prop
  | .call _ => session.budgets.results = some [] ∧ session.upserts = []
  | _ => True

/-- The flow is that of the table, which has room for the calls behind the guard. -/
def Sequential (session : Session) : Prop :=
  CachedFlow.Consistent BudgetRepositoryImpl.observeBudgets session.budgets ∧
    session.rows.length + session.upserts.length ≤ 3

/-- **Step lemma:** where every call waits for the last, the table keeps room for what is under
way. -/
theorem Sequential.step (h : Sequential session) {event : LimitEvent}
    (hsettled : Settled session event) : Sequential (LimitEvent.step session event) := by
  obtain ⟨hconsistent, hroom⟩ := h
  cases event with
  | call budget =>
      obtain ⟨hresults, hnone⟩ := hsettled
      have hvalue : session.budgets.value.length = session.rows.length := by
        rw [hconsistent.value_eq hresults]
        exact List.length_map _
      rw [LimitEvent.step]
      obtain hlt | hle := Nat.lt_or_ge session.budgets.value.length 3
      · rw [addBudgetWithLimit_of_lt hlt, hnone]
        refine ⟨hconsistent, ?_⟩
        change session.rows.length + 1 ≤ 3
        omega
      · rw [addBudgetWithLimit_of_le hle]
        exact ⟨hconsistent, hroom⟩
  | upsert i =>
      cases hbudget : session.upserts[i]? with
      | none =>
          rw [LimitEvent.step, hbudget]
          exact ⟨hconsistent, hroom⟩
      | some budget =>
          have hlength := length_rows_step_upsert hbudget
          obtain ⟨hi, -⟩ := List.getElem?_eq_some_iff.mp hbudget
          have herase := List.length_eraseIdx_of_lt hi
          rw [Sequential, hlength, step_upsert hbudget]
          refine ⟨CachedFlow.Consistent.write _, ?_⟩
          rw [herase]
          split_ifs <;> omega
  | flow e =>
      rw [Sequential, rows_step_flow]
      exact ⟨hconsistent.event e, hroom⟩

/-- **Calls that are made one after the other** keep at most three budgets. -/
theorem length_run_le_of_settled (h : db.budgets.rows.length ≤ 3)
    (hsettled : AllSteps LimitEvent.step Settled (.initial db) events) :
    (run LimitEvent.step (.initial db) events).rows.length ≤ 3 := by
  have hrun := run_invariant (I := Sequential) (fun _ _ hs => hs.step) hsettled
    ⟨CachedFlow.consistent_initial db [], h⟩
  exact (Nat.le_add_right _ _).trans hrun.2

end BudgetViewModel

end SpendCraft
