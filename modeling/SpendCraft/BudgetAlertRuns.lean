import SpendCraft.BudgetBreaches
import SpendCraft.Lib.CheckThenAct
import SpendCraft.Lib.Machine

/-!
# Concurrent Budget Checks

`TransactionsViewModel` and `BudgetViewModel` launch `checkBudgetBreaches` independently
of each other, so any number of calls can be in progress on one database. A `World` is
the database with the calls made so far; its events are new calls, the completion or the
failure of the pending DAO call of one of them, and the writes of others to the tables
that the calls read.

Each call checks for the row of an alert, adds its message, and inserts the row behind
the next suspension point: the calls are the parties of a check-then-act protocol whose
marks are the rows of `budget_alert`.

## Conventions

A world is the database and the calls in the order of their starts; an event names the call that
goes on. Others may write the transactions, the categories and the budgets between any two steps,
but not the alerts, which the check alone writes. A call that fails returns nothing, so its
messages are never shown, but the rows it has inserted stay.

`NoOvertaking` says of a step that no call finds the row of an alert missing while another call is
about to insert it. It is a condition on the schedule, decided in the state before the step.

## Proof

The calls are the parties of the protocol in `Lib.CheckThenAct`, and the rows of `budget_alert`
its marks. A call that is about to insert a row has announced its alert and has it pending. Each
event of the world is a few steps of the protocol or none (`steps_abs_step`), given
`NoOvertaking`, and the protocol's own theorem says that nothing is announced twice.

## Main results

* `steps_abs_step`: the calls simulate the protocol while no call overtakes an insert.
* `announcedOnce_of_noOvertaking`: in such a run every alert is announced at most once.
-/

namespace SpendCraft

open Kotlin BudgetRepositoryImpl CheckThenAct

namespace Call

/-- The breach messages the call has collected. -/
def messages (c : Call) : List BreachMessage :=
  match c.phase with
  | .checking _ _ _ breachMessages => breachMessages
  | .inserting _ message _ breachMessages => breachMessages ++ [message]
  | .returned breachMessages => breachMessages
  | _ => []

/-- The alert whose row the call is looking for. -/
def checkingAlert (c : Call) : Option BudgetAlertEntity :=
  match c.phase with
  | .checking _ message _ _ => some (message.alert c.currentMonth)
  | _ => none

/-- The alert whose row the call is about to insert. -/
def insertingAlert (c : Call) : Option BudgetAlertEntity :=
  match c.phase with
  | .inserting _ message _ _ => some (message.alert c.currentMonth)
  | _ => none

/-- The alerts announced by the returned list. -/
def announcedAlerts (c : Call) : List BudgetAlertEntity :=
  (c.result.getD []).map (BreachMessage.alert c.currentMonth)

end Call

/-- One database and the calls made on it. -/
structure World where
  db : Database
  calls : List Call

/-- What happens in the world of the checks: a call starts, goes on or fails, and the tables that
it reads are written. -/
inductive BudgetEvent
  | start (keyNow boundariesNow : ℤ)
  | resume (i : ℕ)
  | fail (i : ℕ)
  | write (transactions : Relational.AutoTable TransactionEntity)
      (categories : Relational.AutoTable CategoryEntity)
      (budgets : Relational.Table BudgetEntity.categoryId)

namespace World

/-- One event. A call is named by its place in the order of starts. -/
def step (w : World) : BudgetEvent → World
  | .start keyNow boundariesNow =>
      { w with calls := w.calls ++ [Call.start keyNow boundariesNow] }
  | .resume i =>
      match w.calls[i]? with
      | some c => { db := (c.resume w.db).2, calls := w.calls.set i (c.resume w.db).1 }
      | none => w
  | .fail i =>
      match w.calls[i]? with
      | some c => { w with calls := w.calls.set i c.fail }
      | none => w
  | .write transactions categories budgets =>
      { w with db := { w.db with
          transactions := transactions, categories := categories, budgets := budgets } }

/-- What a call does when it goes on. -/
theorem step_resume {w : World} {i : ℕ} {c : Call} (h : w.calls[i]? = some c) :
    w.step (.resume i) =
      { db := (c.resume w.db).2, calls := w.calls.set i (c.resume w.db).1 } := by
  rw [step, h]

/-- What a call does when it fails. -/
theorem step_fail {w : World} {i : ℕ} {c : Call} (h : w.calls[i]? = some c) :
    w.step (.fail i) = { w with calls := w.calls.set i c.fail } := by
  rw [step, h]

/-- No call finds the row of an alert missing while another call is about to insert it. -/
def NoOvertaking (w : World) : BudgetEvent → Prop
  | .resume i =>
      ∀ alert ∈ w.calls[i]? >>= Call.checkingAlert, alert ∉ w.db.budgetAlerts.rows →
        ∀ c ∈ w.calls, c.insertingAlert ≠ some alert
  | _ => True

/-- Whether a step overtakes is decided by the calls in flight. -/
instance : DecidableRel NoOvertaking
  | w, .resume i =>
      inferInstanceAs (Decidable (∀ alert ∈ w.calls[i]? >>= Call.checkingAlert,
        alert ∉ w.db.budgetAlerts.rows → ∀ c ∈ w.calls, c.insertingAlert ≠ some alert))
  | _, .start .. => .isTrue trivial
  | _, .fail _ => .isTrue trivial
  | _, .write .. => .isTrue trivial

/-- Each alert has at most one message over all returned lists. -/
def AnnouncedOnce (w : World) : Prop :=
  ∀ alert, (w.calls.flatMap Call.announcedAlerts).count alert ≤ 1

end World

/-! ### The calls as parties -/

namespace Call

/-- What the protocol sees of a call. -/
def party (c : Call) : Party BudgetAlertEntity :=
  { announced := c.messages.map (BreachMessage.alert c.currentMonth)
    pending := c.insertingAlert
    mem_announced := by
      obtain ⟨month, boundaries, phase⟩ := c
      cases phase <;> simp [insertingAlert, messages] }

/-- Between two sentences, a call has announced what it has collected and has nothing pending. -/
theorem party_forEachBudget (month : Text) (boundaries : ℤ × ℤ) (snapshot : Snapshot)
    (budgets : List BudgetEntity) (ms : List BreachMessage) :
    (party ⟨month, boundaries, forEachBudget snapshot budgets ms⟩).announced =
        ms.map (BreachMessage.alert month) ∧
      (party ⟨month, boundaries, forEachBudget snapshot budgets ms⟩).pending = none := by
  rcases forEachBudget_eq snapshot budgets ms with ⟨-, heq⟩ | ⟨m, rest, -, heq⟩
  · rw [heq]
    exact ⟨rfl, rfl⟩
  · rw [heq]
    exact ⟨rfl, rfl⟩

/-- **What a DAO call does to the protocol**: nothing, an announcement, or a mark. -/
theorem resume_cases (c : Call) (db : Database) :
    ((c.resume db).1.party = c.party ∧ (c.resume db).2 = db) ∨
    (∃ alert, c.checkingAlert = some alert ∧ alert ∉ db.budgetAlerts.rows ∧
      c.party.pending = none ∧ (c.resume db).1.party = c.party.announce alert ∧
      (c.resume db).2 = db) ∨
    (∃ alert, c.party.pending = some alert ∧ (c.resume db).1.party = c.party.marked ∧
      (c.resume db).2 = BudgetAlertDao.insert alert db) := by
  obtain ⟨month, boundaries, phase⟩ := c
  cases phase with
  | readingBudgets => exact Or.inl ⟨rfl, rfl⟩
  | readingTransactions budgets => exact Or.inl ⟨rfl, rfl⟩
  | readingCategories budgets transactions =>
      obtain ⟨hann, hpend⟩ := party_forEachBudget month boundaries
        { monthTransactions := transactions.filter (isMonthExpense boundaries)
          categories := CategoryDao.getAllAscending db } budgets []
      exact Or.inl ⟨Party.ext hann hpend, rfl⟩
  | checking snapshot m rest ms =>
      cases hrec : recorded month db m with
      | true =>
          rw [resume_checking_recorded hrec]
          obtain ⟨hann, hpend⟩ := party_forEachBudget month boundaries snapshot rest ms
          exact Or.inl ⟨Party.ext hann hpend, rfl⟩
      | false =>
          rw [resume_checking_new hrec]
          rw [recorded, decide_eq_false_iff_not] at hrec
          refine Or.inr (Or.inl ⟨m.alert month, rfl, hrec, rfl, Party.ext ?_ rfl, rfl⟩)
          exact List.map_append
  | inserting snapshot m rest ms =>
      obtain ⟨hann, hpend⟩ := party_forEachBudget month boundaries snapshot rest (ms ++ [m])
      exact Or.inr (Or.inr ⟨m.alert month, rfl, Party.ext hann hpend, rfl⟩)
  | returned ms => exact Or.inl ⟨rfl, rfl⟩
  | failed => exact Or.inl ⟨rfl, rfl⟩

/-- A failed call keeps what it has returned, or has returned nothing. -/
theorem party_fail (c : Call) : c.fail.party = c.party ∨ c.fail.party = Party.idle := by
  obtain ⟨month, boundaries, phase⟩ := c
  cases phase with
  | returned ms => exact Or.inl rfl
  | _ => exact Or.inr rfl

/-- The returned list is the collected one, or empty. -/
theorem announcedAlerts_sublist (c : Call) : c.announcedAlerts.Sublist c.party.announced := by
  obtain ⟨month, boundaries, phase⟩ := c
  cases phase with
  | returned ms => exact List.Sublist.refl _
  | _ => exact List.nil_sublist _

end Call

namespace World

/-- The protocol state of a world. -/
def abs (w : World) : State BudgetAlertEntity :=
  { marks := {alert | alert ∈ w.db.budgetAlerts.rows}
    parties := w.calls.map Call.party }

/-- A call in the list, with what is before and behind it. -/
theorem exists_calls_split {w : World} {i : ℕ} {c : Call} (h : w.calls[i]? = some c) (c' : Call) :
    ∃ pre post, w.calls = pre ++ c :: post ∧ w.calls.set i c' = pre ++ c' :: post := by
  obtain ⟨hi, rfl⟩ := List.getElem?_eq_some_iff.mp h
  obtain ⟨pre, post, heq, -, hset⟩ := @List.exists_of_set _ i c' w.calls hi
  exact ⟨pre, post, heq, hset⟩

/-- **Simulation.** A step that does not overtake an insert is a step of the protocol, or
none. -/
theorem steps_abs_step {w : World} {e : BudgetEvent} (h : NoOvertaking w e) :
    Relation.ReflTransGen Step w.abs (w.step e).abs := by
  cases e with
  | start keyNow boundariesNow =>
      apply Relation.ReflTransGen.single
      have habs : (w.step (.start keyNow boundariesNow)).abs =
          ⟨w.abs.marks, w.abs.parties ++ [Party.idle]⟩ := by
        simp only [step, abs, List.map_append]
        rfl
      rw [habs]
      exact Step.join _ _
  | write transactions categories budgets => exact Relation.ReflTransGen.refl
  | fail i =>
      cases hc : w.calls[i]? with
      | none =>
          rw [step, hc]
      | some c =>
          obtain ⟨pre, post, hcalls, hset⟩ := exists_calls_split hc c.fail
          rw [step_fail hc, hset, abs, abs, hcalls]
          simp only [List.map_append, List.map_cons]
          rcases c.party_fail with hsame | hidle
          · rw [hsame]
          · rw [hidle]
            exact Relation.ReflTransGen.single (Step.drop _ _ _ _)
  | resume i =>
      cases hc : w.calls[i]? with
      | none =>
          rw [step, hc]
      | some c =>
          obtain ⟨pre, post, hcalls, hset⟩ := exists_calls_split hc (c.resume w.db).1
          rw [step_resume hc, hset, abs, abs, hcalls]
          simp only [List.map_append, List.map_cons]
          rcases c.resume_cases w.db with ⟨hparty, hdb⟩ |
            ⟨alert, hcheck, hmark, hidle, hparty, hdb⟩ | ⟨alert, hpend, hparty, hdb⟩
          · rw [hparty, hdb]
          · rw [hparty, hdb]
            refine Relation.ReflTransGen.single (Step.announce _ _ _ _ _ hidle hmark ?_)
            have hothers := h alert (by simp [hc, hcheck]) hmark
            intro q hq
            rw [← List.map_cons, ← List.map_append, ← hcalls] at hq
            obtain ⟨c', hc', rfl⟩ := List.mem_map.mp hq
            exact hothers c' hc'
          · rw [hparty, hdb]
            have hmarks : {a | a ∈ (BudgetAlertDao.insert alert w.db).budgetAlerts.rows} =
                insert alert {a | a ∈ w.db.budgetAlerts.rows} := by
              ext a
              rw [Set.mem_ofPred_eq, BudgetAlertDao.mem_insert, Set.mem_insert_iff, or_comm]
              rfl
            rw [hmarks]
            exact Relation.ReflTransGen.single (Step.mark _ _ _ _ _ hpend)

/-- In a settled world, each alert is announced at most once. -/
theorem announcedOnce_of_settled {w : World} (h : w.abs.Settled) : w.AnnouncedOnce := by
  have hsub : ∀ calls : List Call, (calls.flatMap Call.announcedAlerts).Sublist
      ((calls.map Call.party).flatMap Party.announced) := by
    intro calls
    induction calls with
    | nil => exact List.Sublist.slnil
    | cons c calls ih =>
        rw [List.flatMap_cons, List.map_cons, List.flatMap_cons]
        exact c.announcedAlerts_sublist.append ih
  intro alert
  exact List.nodup_iff_count_le_one.mp (h.nodup.sublist (hsub w.calls)) alert

/-- **Every alert is announced at most once** in a run whose calls do not overtake each
other's inserts. -/
theorem announcedOnce_of_noOvertaking {db : Database} {es : List BudgetEvent}
    (h : Machine.AllSteps step NoOvertaking ⟨db, []⟩ es) :
    AnnouncedOnce (Machine.run step ⟨db, []⟩ es) := by
  apply announcedOnce_of_settled
  refine Machine.run_invariant (I := fun w => w.abs.Settled) ?_ h (settled_init _)
  intro w e hsettled hover
  exact settled_of_steps (steps_abs_step hover) hsettled

/-- Two calls on two exceeded budgets, the second one started while the first is on its
way, but checking only what the first has recorded. -/
theorem announcedOnce_two_calls :
    AnnouncedOnce (Machine.run step ⟨Call.twoExceeded, []⟩
      ([.start 0 0, .start 0 0] ++ List.replicate 5 (.resume 1) ++ List.replicate 6 (.resume 0) ++
        [.resume 1])) :=
  announcedOnce_of_noOvertaking (by decide)

/-- Both calls find the row of the first alert missing before either inserts it. -/
theorem not_announcedOnce_overtaking :
    ¬ AnnouncedOnce (Machine.run step ⟨Call.twoExceeded, []⟩
      ([.start 0 0, .start 0 0] ++ List.replicate 4 (.resume 0) ++ List.replicate 4 (.resume 1) ++
        List.replicate 3 (.resume 0) ++ List.replicate 2 (.resume 1))) := by
  intro h
  exact absurd (h ⟨"Food".toList, 100, "1970-01".toList⟩) (by decide)

end World

end SpendCraft
