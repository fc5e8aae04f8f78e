import SpendCraft.Ios.RecurringRuns

/-!
# The End of a Rule

A rule may have an end date. `processDueRecurringTransactions` reads it: a rule that is due
after its end is made inactive, and creates nothing. `executeDueTransactions` does not, and
the toggle of the view can make a rule active again at any time.

## Conventions

An end date is a time or zero, which stands for none. The executors and the toggle come in any
order, at times that need not go forward. What a call creates is noted with the time of the call,
so that the property can say of each transaction whether it came after the end of its rule.

## Proof

Each call is judged by itself: what it creates depends on the rules before it, and the executor in
the background creates nothing after an end. So the property of a run is one of its steps
(`InTime`), by the library's rule for the outputs of a machine. No invariant is needed, since a
rule that was switched on again may be due at any call.

## Main results

* `noneAfterEnd_iff`: in which runs of the executors and the toggle a rule creates nothing
  after its end.
-/

namespace SpendCraft.Ios

open Kotlin Relational Machine

variable {calendar : CalendarSystem} {context : Context} {row : RecurringTransactionEntity}
  {rule : ℤ}

/-! ### The toggle -/

namespace RecurringViewModel

/-- `toggleRecurringTransaction`: the rule is switched on or off, and the date at which it is due
stays. -/
def toggleRecurringTransaction (recurring : ℤ) (context : Context) : Context :=
  { context with
    recurringTransactions := context.recurringTransactions.updateSet
      (fun row => if row.objectID = recurring then { row with isActive := !row.isActive } else row)
      (by
        intro row
        split_ifs
        · rfl
        · rfl) }

/-- It toggles, too. -/
def deactivateRecurringTransaction (recurring : ℤ) (context : Context) : Context :=
  toggleRecurringTransaction recurring context

end RecurringViewModel

/-! ### The machine -/

/-- What runs on the rules: an executor, or the user switches a rule. -/
inductive RecurringOp
  | execute (call : ExecutorCall)
  | toggleRecurringTransaction (recurring : ℤ)
  | deactivateRecurringTransaction (recurring : ℤ)

namespace RecurringOp

/-- One operation on the context. -/
def step (calendar : CalendarSystem) (context : Context) : RecurringOp → Context
  | execute call => call.step calendar context
  | toggleRecurringTransaction recurring =>
      RecurringViewModel.toggleRecurringTransaction recurring context
  | deactivateRecurringTransaction recurring =>
      RecurringViewModel.deactivateRecurringTransaction recurring context

/-- What is created, with the time. -/
def created (calendar : CalendarSystem) (context : Context) : RecurringOp → List (ℤ × Created)
  | execute call => (call.created calendar context).map fun c => (call.now, c)
  | toggleRecurringTransaction _ => []
  | deactivateRecurringTransaction _ => []

/-- `executeDueTransactions` does not find the rule active and due after its end, with its
category and its account. -/
def InTime (rule : ℤ) (context : Context) : RecurringOp → Prop
  | execute (.executeDueTransactions now _) =>
      ∀ row ∈ context.recurringTransactions.rows, row.objectID = rule →
        0 < row.endDate → row.endDate < now →
          ¬(row.isActive = true ∧ row.nextExecution ≤ now ∧ ExecutorCall.HasObjects context row)
  | _ => True

end RecurringOp

/-! ### One call -/

namespace ExecutorCall

variable {now : ℤ} {randomId : ℤ → ℤ}

/-- The background executor creates nothing for a rule that has ended. -/
theorem le_endDate_of_processDue {transaction : TransactionEntity}
    (hbody : (body calendar context (.processDueRecurringTransactions now randomId) row).2 =
      some transaction) (hend : 0 < row.endDate) : now ≤ row.endDate := by
  by_contra hlate
  have hended : row.endDate > 0 ∧ row.endDate < now := ⟨hend, not_le.mp hlate⟩
  rw [body, RecurringAutomationManager.executeRecurring, if_pos hended] at hbody
  cases hbody

end ExecutorCall

/-- **The step.** -/
theorem forall_created_iff_inTime (op : RecurringOp) :
    (∀ c ∈ op.created calendar context, c.2.1.objectID = rule → 0 < c.2.1.endDate →
        c.1 ≤ c.2.1.endDate) ↔
      op.InTime rule context := by
  rcases op with call | recurring | recurring
  · rw [RecurringOp.created, List.forall_mem_map]
    rcases call with ⟨now, randomId⟩ | ⟨now, randomId⟩
    · constructor
      · rintro h row hrow hrule hend hlate ⟨hactive, hdue, hobjects⟩
        obtain ⟨transaction, hbody⟩ := ExecutorCall.exists_of_executeDue.mpr hobjects
        have hcreated : (row, transaction) ∈ ExecutorCall.created calendar context
            (.executeDueTransactions now randomId) :=
          ExecutorCall.mem_created_iff.mpr ⟨hrow, hactive, hdue, hbody⟩
        exact absurd (h _ hcreated hrule hend) (not_le.mpr hlate)
      · rintro h ⟨row, transaction⟩ hcreated hrule hend
        obtain ⟨hrow, hactive, hdue, hbody⟩ := ExecutorCall.mem_created_iff.mp hcreated
        by_contra hlate
        exact h row hrow hrule hend (not_le.mp hlate)
          ⟨hactive, hdue, ExecutorCall.exists_of_executeDue.mp ⟨transaction, hbody⟩⟩
    · refine iff_of_true ?_ True.intro
      rintro ⟨row, transaction⟩ hcreated - hend
      obtain ⟨-, -, -, hbody⟩ := ExecutorCall.mem_created_iff.mp hcreated
      exact ExecutorCall.le_endDate_of_processDue hbody hend
  · exact iff_of_true (by simp [RecurringOp.created]) True.intro
  · exact iff_of_true (by simp [RecurringOp.created]) True.intro

/-! ### Runs -/

/-- **No transaction after the end** of a rule is created by a run, just when the view finds
the rule active and due after its end in no state of the run. -/
theorem noneAfterEnd_iff (calendar : CalendarSystem) (context : Context) (rule : ℤ)
    (ops : List RecurringOp) :
    (∀ c ∈ outputs (RecurringOp.step calendar) (RecurringOp.created calendar) context ops,
        c.2.1.objectID = rule → 0 < c.2.1.endDate → c.1 ≤ c.2.1.endDate) ↔
      AllSteps (RecurringOp.step calendar) (RecurringOp.InTime rule) context ops := by
  rw [forall_mem_outputs_iff]
  constructor
  · intro h
    exact h.mono fun _ op => (forall_created_iff_inTime op).mp
  · intro h
    exact h.mono fun _ op => (forall_created_iff_inTime op).mpr

/-- A daily rule that ends on its first day. -/
def endedRent : RecurringTransactionEntity :=
  { dailyRent 0 1700049600000 with endDate := 1700049600000 }

/-- A context with the rule for the rent that has ended. -/
def endedRentContext : Context :=
  { dailyRentContext with recurringTransactions := (AutoTable.empty _).insertOrReplace endedRent }

/-- A day after the end of the rule, the view creates a transaction for it. -/
theorem not_noneAfterEnd_next_day :
    ¬∀ c ∈ outputs (RecurringOp.step .utc) (RecurringOp.created .utc) endedRentContext
        [.execute (.executeDueTransactions (1700049600000 + 86400000) fun _ => 3)],
      c.2.1.objectID = 1 → 0 < c.2.1.endDate → c.1 ≤ c.2.1.endDate := by
  intro h
  have hrow : endedRent ∈ endedRentContext.recurringTransactions.rows :=
    List.mem_singleton_self _
  have hobjects : ExecutorCall.HasObjects endedRentContext endedRent :=
    ⟨⟨_, List.mem_singleton_self _, rfl⟩, ⟨_, List.mem_singleton_self _, rfl⟩⟩
  rw [forall_mem_outputs_iff] at h
  have hinTime := (forall_created_iff_inTime _).mp h.1
  exact hinTime endedRent hrow rfl (by simp [endedRent]) (by simp [endedRent])
    ⟨rfl, by simp [endedRent, dailyRent], hobjects⟩

end SpendCraft.Ios
