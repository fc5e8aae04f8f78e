import SpendCraft.Ios.Recurring
import Mathlib.Tactic.Linarith
import Mathlib.Tactic.Ring

/-!
# How Often a Rule Is Executed

The occurrences of a rule form a `Schedule`: its start, and one period after another. The
two executors read the period from different dates. `executeDueTransactions` adds it to the
date that was due, `processDueRecurringTransactions` to the current time, so that the
schedule is left when it runs late. A rule that `saveTransaction` enters is due at its start
although the transaction of that date has just been saved.

## Conventions

A `Schedule` is built from a calendar for which adding a component leads to a later date; the
start is occurrence zero. A run is a list of executor calls with their times, and the rule in
question is an active one, without an end, whose category and account exist. Other rules may do
what they like. `OnSchedule` is the condition on a call: if the rule is due, one period after the
date that the executor reads is the occurrence after the one that was due.

## Proof

The invariant is `IsAt`: the rule is due next at its occurrence `n`, and the occurrences before it
are in the past. A call that finds it due creates one and moves it to `n + 1` under the condition;
one that does not find it due leaves it. So the transactions are counted by the occurrences that
have been, and the library counts those (`Schedule.ncard_upTo`). The start of an entered rule is
occurrence zero a second time, which the last part of the module counts.

## Main results

* `countsOccurrences`: a run whose calls stay on the schedule creates one transaction for
  every occurrence.
* `onSchedule_iff_of_fixed`: with a fixed period, these are the calls that read the date of
  the occurrence.
* `startsOnce_iff`: the start of an entered rule has one transaction just when no executor
  is called.
-/

namespace SpendCraft.Ios

open Kotlin Relational

variable {calendar : CalendarSystem} {component : Component} {context : Context}
  {row : RecurringTransactionEntity} {call : ExecutorCall} {calls : List ExecutorCall}
  {start T : ℤ} {n : ℕ}

/-! ### Schedules of a calendar -/

/-- `start` and one component after another. -/
def CalendarSystem.schedule (calendar : CalendarSystem) (component : Component) (start : ℤ) :
    Schedule :=
  { occurrence := fun k => calendar.dateByAdding component k start
    increasing := fun k l d e hkl => calendar.dateByAdding_lt component start k l d e
      (by exact_mod_cast hkl) }

/-- The first occurrence is the start. -/
theorem CalendarSystem.schedule_zero :
    (calendar.schedule component start).occurrence 0 = some start :=
  calendar.dateByAdding_zero component start

/-- With a fixed period, the occurrences are that far apart. -/
theorem CalendarSystem.schedule_of_fixed {period : ℤ}
    (hfixed : ∀ k date, calendar.dateByAdding component k date = some (date + k * period))
    (k : ℕ) : (calendar.schedule component start).occurrence k = some (start + k * period) :=
  hfixed k start

/-- A calendar whose components have fixed lengths. -/
def CalendarSystem.fixed (millis : Component → ℤ) (h : ∀ component, 0 < millis component) :
    CalendarSystem :=
  { dateByAdding := fun component k date => some (date + k * millis component)
    dateByAdding_zero := by
      intro component date
      rw [zero_mul, add_zero]
    dateByAdding_lt := by
      intro component date k l d e hkl hd he
      rw [Option.some_inj] at hd he
      have hmul := mul_lt_mul_of_pos_right hkl (h component)
      omega }

/-- Days without a change of the clock, as in UTC. -/
def CalendarSystem.utc : CalendarSystem :=
  .fixed (fun component =>
    match component with
    | .day => 86400000
    | .weekOfYear => 7 * 86400000
    | .month => 30 * 86400000
    | .year => 365 * 86400000) (by intro component; cases component <;> decide)

/-! ### One call -/

namespace ExecutorCall

/-- The date that an executor adds a period to. -/
def base (row : RecurringTransactionEntity) : ExecutorCall → ℤ
  | executeDueTransactions _ _ => dateOfMillis row.nextExecution
  | processDueRecurringTransactions now _ => dateOfMillis now

/-- The rules after a call: those that are due as the body leaves them. -/
theorem rows_step : (call.step calendar context).recurringTransactions.rows =
    context.recurringTransactions.rows.map fun recurring =>
      if recurring.isActive && decide (recurring.nextExecution ≤ call.now) then
        (call.body calendar context recurring).1
      else recurring := by
  cases call <;> rfl

/-- The category and the account of a rule exist. -/
structure HasObjects (context : Context) (row : RecurringTransactionEntity) : Prop where
  category : ∃ category ∈ context.categories, category.id = row.categoryId
  account : ∃ account ∈ context.accounts.rows, account.id = row.accountId

/-- A call leaves the category and the account of a rule in the context. -/
theorem HasObjects.step {rule : RecurringTransactionEntity} (h : HasObjects context rule)
    (hcategory : row.categoryId = rule.categoryId) (haccount : row.accountId = rule.accountId) :
    HasObjects (call.step calendar context) row := by
  have hcategories : (call.step calendar context).categories = context.categories := by
    cases call <;> rfl
  have haccounts : (call.step calendar context).accounts = context.accounts := by
    cases call <;> rfl
  refine ⟨?_, ?_⟩
  · rw [hcategories, hcategory]
    exact h.category
  · rw [haccounts, haccount]
    exact h.account

/-- The view creates a transaction for a rule that is due just when its category and its
account exist. -/
theorem exists_of_executeDue {now : ℤ} {randomId : ℤ → ℤ} :
    (∃ transaction,
        (body calendar context (.executeDueTransactions now randomId) row).2 = some transaction) ↔
      HasObjects context row := by
  rw [body, RecurringViewModel.executeRecurring]
  rcases hcategory : context.categories.find? (fun category => category.id == row.categoryId)
    with _ | category
  · refine iff_of_false (by simp [hcategory]) ?_
    rintro ⟨⟨category, hmem, hid⟩, -⟩
    simpa [hid] using List.find?_eq_none.mp hcategory category hmem
  · rcases haccount : context.accounts.rows.find? (fun account => account.id == row.accountId)
      with _ | account
    · refine iff_of_false (by simp [hcategory, haccount]) ?_
      rintro ⟨-, ⟨account, hmem, hid⟩⟩
      simpa [hid] using List.find?_eq_none.mp haccount account hmem
    · simp only [hcategory, haccount]
      refine iff_of_true ⟨_, rfl⟩ ⟨⟨category, List.mem_of_find?_eq_some hcategory, ?_⟩,
        ⟨account, List.mem_of_find?_eq_some haccount, ?_⟩⟩
      · simpa using List.find?_some hcategory
      · simpa using List.find?_some haccount

/-- **What an executor makes of a rule** without an end date: it creates a transaction, and
the rule is due one period after the base date. -/
theorem body_spec (calendar : CalendarSystem) (component : Component) (call : ExecutorCall)
    (hend : row.endDate = 0) (hobjects : HasObjects context row) :
    (∃ transaction, (call.body calendar context row).2 = some transaction) ∧
      ∃ next, (call.body calendar context row).1 =
          { row with lastExecuted := call.now, nextExecution := next } ∧
        (frequencyComponent row.frequency = some component →
          next = (calendar.dateByAdding component 1 (call.base row)).getD (call.base row)) := by
  cases call with
  | executeDueTransactions now randomId =>
      refine ⟨exists_of_executeDue.mpr hobjects, _, rfl, ?_⟩
      intro hcomponent
      rw [RecurringViewModel.calculateNextExecution, hcomponent]
      rfl
  | processDueRecurringTransactions now randomId =>
      have hnotEnded : ¬(row.endDate > 0 ∧ row.endDate < now) := by omega
      simp only [body, RecurringAutomationManager.executeRecurring, if_neg hnotEnded]
      refine ⟨⟨_, rfl⟩, _, rfl, ?_⟩
      intro hcomponent
      rw [RecurringAutomationManager.calculateNextExecution, hcomponent]
      rfl

/-- The body keeps the identity of the rule. -/
theorem objectID_body : (call.body calendar context row).1.objectID = row.objectID := by
  cases call with
  | executeDueTransactions now randomId => rfl
  | processDueRecurringTransactions now randomId =>
      exact RecurringAutomationManager.objectID_executeRecurring calendar now randomId row

/-- What is created is created for a rule that is due, by its round. -/
theorem mem_created_iff {transaction : TransactionEntity} :
    (row, transaction) ∈ call.created calendar context ↔
      row ∈ context.recurringTransactions.rows ∧ row.isActive = true ∧
        row.nextExecution ≤ call.now ∧
        (call.body calendar context row).2 = some transaction := by
  rw [created, Context.createdForDue, List.mem_filterMap]
  constructor
  · rintro ⟨row', hrow', heq⟩
    rw [Option.map_eq_some_iff] at heq
    obtain ⟨transaction', hbody, heq⟩ := heq
    obtain ⟨rfl, rfl⟩ := Prod.mk.inj heq
    rw [Context.dueRecurring, List.mem_filter, Bool.and_eq_true, decide_eq_true_iff] at hrow'
    exact ⟨hrow'.1, hrow'.2.1, hrow'.2.2, hbody⟩
  · rintro ⟨hrow, hactive, hdue, hbody⟩
    refine ⟨row, ?_, by rw [hbody]; rfl⟩
    rw [Context.dueRecurring, List.mem_filter, hactive, decide_eq_true hdue]
    exact ⟨hrow, rfl⟩

/-- A call creates what its round for the rule creates, if the rule is due. -/
theorem filter_created (calendar : CalendarSystem) (call : ExecutorCall)
    (hrow : row ∈ context.recurringTransactions.rows) :
    (call.created calendar context).filter (fun c => c.1.objectID == row.objectID) =
      if row.isActive && decide (row.nextExecution ≤ call.now) then
        ((call.body calendar context row).2.map fun transaction => (row, transaction)).toList
      else [] := by
  rw [created, Context.createdForDue, Context.dueRecurring, List.filterMap_filter,
    List.filter_filterMap]
  rw [filterMap_of_key context.recurringTransactions.nodup_keys hrow]
  · split_ifs with hdue
    · cases (call.body calendar context row).2 with
      | none => rfl
      | some transaction => simp
    · rfl
  · intro row' hne
    have hobjectID : row'.objectID ≠ row.objectID := hne
    split_ifs with hdue
    · cases (call.body calendar context row').2 with
      | none => rfl
      | some transaction => simp [hobjectID]
    · rfl

/-- The call leaves the rule on its schedule: if the rule is due, one period after the base
date is the occurrence after the one that is due. -/
def OnSchedule (calendar : CalendarSystem) (component : Component) (start rule : ℤ)
    (context : Context) (call : ExecutorCall) : Prop :=
  ∀ row ∈ context.recurringTransactions.rows, row.objectID = rule →
    row.nextExecution ≤ call.now →
      ∃ next, calendar.dateByAdding component 1 (call.base row) = some next ∧
        (calendar.schedule component start).Next row.nextExecution next

/-- **Fixed periods.** A call stays on the schedule if its base date is the date that is
due, and otherwise not. -/
theorem onSchedule_iff_of_fixed {period : ℤ}
    (hfixed : ∀ k date, calendar.dateByAdding component k date = some (date + k * period))
    (hrow : row ∈ context.recurringTransactions.rows) (hdue : row.nextExecution ≤ call.now)
    (hn : (calendar.schedule component start).occurrence n = some row.nextExecution) :
    OnSchedule calendar component start row.objectID context call ↔
      call.base row = row.nextExecution := by
  have hdate : start + n * period = row.nextExecution := by
    rwa [CalendarSystem.schedule_of_fixed hfixed, Option.some_inj] at hn
  constructor
  · intro h
    obtain ⟨next, hnext, hsucc⟩ := h row hrow rfl hdue
    have hafter := hsucc.occurrence_succ hn
    rw [hfixed, Option.some_inj] at hnext
    rw [CalendarSystem.schedule_of_fixed hfixed, Option.some_inj] at hafter
    push_cast at hafter
    linarith
  · intro hbase row' hrow' hid _
    rw [AutoTable.eq_of_id_eq hrow' hrow hid]
    refine ⟨row.nextExecution + 1 * period, by rw [hbase, hfixed], n, hn, ?_⟩
    rw [CalendarSystem.schedule_of_fixed hfixed, Option.some_inj, ← hdate]
    push_cast
    ring

end ExecutorCall

/-! ### Runs -/

/-- What the calls create for one rule. -/
def createdFor (calendar : CalendarSystem) (rule : ℤ) (context : Context)
    (calls : List ExecutorCall) : List Created :=
  (Machine.outputs (ExecutorCall.step calendar) (ExecutorCall.created calendar) context
    calls).filter fun c => c.1.objectID == rule

/-- The transactions created for a rule in a run, from the first call on. -/
theorem length_createdFor_cons (rule : ℤ) :
    (createdFor calendar rule context (call :: calls)).length =
      ((call.created calendar context).filter fun c => c.1.objectID == rule).length +
        (createdFor calendar rule (call.step calendar context) calls).length :=
  Machine.length_outputs_filter_cons _ context call calls

/-- The rule is not due. -/
def Settled (T rule : ℤ) (context : Context) : Prop :=
  ∀ row ∈ context.recurringTransactions.rows, row.objectID = rule → row.isActive = true →
    T < row.nextExecution

/-- The rule is an active one without an end date, and its `n`-th occurrence is the one
that is due next. -/
structure IsAt (calendar : CalendarSystem) (component : Component) (start T : ℤ)
    (context : Context) (row : RecurringTransactionEntity) (n : ℕ) : Prop where
  mem : row ∈ context.recurringTransactions.rows
  active : row.isActive = true
  noEnd : row.endDate = 0
  frequency : frequencyComponent row.frequency = some component
  objects : ExecutorCall.HasObjects context row
  next : (calendar.schedule component start).occurrence n = some row.nextExecution
  before : ∀ k < n, k ∈ (calendar.schedule component start).upTo T

/-- **The step**: a call for a rule that is not due leaves it alone. -/
theorem IsAt.step_of_not_due (h : IsAt calendar component start T context row n)
    (hdue : ¬row.nextExecution ≤ call.now) :
    IsAt calendar component start T (call.step calendar context) row n ∧
      ((call.created calendar context).filter fun c => c.1.objectID == row.objectID) = [] := by
  have hcond : ¬(row.isActive && decide (row.nextExecution ≤ call.now)) = true := by
    simp [hdue]
  refine ⟨{ h with mem := ?_, objects := h.objects.step rfl rfl }, ?_⟩
  · rw [ExecutorCall.rows_step, List.mem_map]
    exact ⟨row, h.mem, if_neg hcond⟩
  · rw [ExecutorCall.filter_created calendar call h.mem, if_neg hcond]

/-- **The step**: a call on the schedule creates a transaction for the occurrence that is
due and goes on to the next one. -/
theorem IsAt.step_of_due (h : IsAt calendar component start T context row n)
    (hdue : row.nextExecution ≤ call.now) (hnow : call.now ≤ T)
    (hschedule : call.OnSchedule calendar component start row.objectID context) :
    (∃ row', row'.objectID = row.objectID ∧
        IsAt calendar component start T (call.step calendar context) row' (n + 1)) ∧
      ((call.created calendar context).filter
        fun c => c.1.objectID == row.objectID).length = 1 := by
  have hcond : (row.isActive && decide (row.nextExecution ≤ call.now)) = true := by
    rw [h.active, decide_eq_true hdue]
    rfl
  obtain ⟨⟨transaction, htransaction⟩, next, hbody, hnext⟩ :=
    ExecutorCall.body_spec calendar component call h.noEnd h.objects
  obtain ⟨next', hadd, hsucc⟩ := hschedule row h.mem rfl hdue
  have heq : next = next' := by rw [hnext h.frequency, hadd, Option.getD_some]
  refine ⟨⟨(call.body calendar context row).1, by rw [hbody], ?_⟩, ?_⟩
  · have hmem : (call.body calendar context row).1 ∈
        (call.step calendar context).recurringTransactions.rows := by
      rw [ExecutorCall.rows_step, List.mem_map]
      exact ⟨row, h.mem, if_pos hcond⟩
    rw [hbody] at hmem ⊢
    refine ⟨hmem, h.active, h.noEnd, h.frequency, h.objects.step rfl rfl, ?_, ?_⟩
    · rw [heq]
      exact hsucc.occurrence_succ h.next
    · intro k hk
      rcases Nat.lt_succ_iff_lt_or_eq.mp hk with hlt | rfl
      · exact h.before k hlt
      · exact ⟨row.nextExecution, h.next, le_trans hdue hnow⟩
  · rw [ExecutorCall.filter_created calendar call h.mem, if_pos hcond, htransaction]
    rfl

/-- **The run**: one transaction for every occurrence from the one that is due on. -/
theorem IsAt.length_createdFor (h : IsAt calendar component start T context row n)
    (hclock : ∀ call ∈ calls, call.now ≤ T)
    (hschedule : Machine.AllSteps (ExecutorCall.step calendar)
      (ExecutorCall.OnSchedule calendar component start row.objectID) context calls)
    (hsettled : Settled T row.objectID
      (Machine.run (ExecutorCall.step calendar) context calls)) :
    n + (createdFor calendar row.objectID context calls).length =
      ((calendar.schedule component start).upTo T).ncard := by
  induction calls generalizing context row n with
  | nil =>
      have hlater := hsettled row h.mem rfl h.active
      rw [Schedule.ncard_upTo h.before h.next hlater]
      rfl
  | cons call calls ih =>
      obtain ⟨hcall, hcalls⟩ := hschedule
      have hclocks : ∀ call ∈ calls, call.now ≤ T := fun call hmem =>
        hclock call (List.mem_cons_of_mem _ hmem)
      rw [length_createdFor_cons]
      by_cases hdue : row.nextExecution ≤ call.now
      · obtain ⟨⟨row', hid, hrow'⟩, hone⟩ :=
          h.step_of_due hdue (hclock call List.mem_cons_self) hcall
        have hrest := ih hrow' hclocks (by rwa [hid]) (by rwa [hid])
        rw [hid] at hrest
        omega
      · obtain ⟨hrow', hnone⟩ := h.step_of_not_due hdue
        have hrest := ih hrow' hclocks hcalls hsettled
        rw [hnone, List.length_nil]
        omega

/-- **One transaction for every occurrence**: a rule without an end date, and any calls that
leave it on its schedule until it is not due any more. -/
theorem countsOccurrences {rule : RecurringTransactionEntity}
    (hrule : rule ∈ context.recurringTransactions.rows) (hactive : rule.isActive = true)
    (hend : rule.endDate = 0) (hfrequency : frequencyComponent rule.frequency = some component)
    (hobjects : ExecutorCall.HasObjects context rule) (hclock : ∀ call ∈ calls, call.now ≤ T)
    (hschedule : Machine.AllSteps (ExecutorCall.step calendar)
      (ExecutorCall.OnSchedule calendar component rule.nextExecution rule.objectID) context calls)
    (hsettled : Settled T rule.objectID
      (Machine.run (ExecutorCall.step calendar) context calls)) :
    (createdFor calendar rule.objectID context calls).length =
      ((calendar.schedule component rule.nextExecution).upTo T).ncard := by
  have hat : IsAt calendar component rule.nextExecution T context rule 0 :=
    { mem := hrule
      active := hactive
      noEnd := hend
      frequency := hfrequency
      objects := hobjects
      next := CalendarSystem.schedule_zero
      before := fun k hk => absurd hk (Nat.not_lt_zero k) }
  have hcount := hat.length_createdFor hclock hschedule hsettled
  rwa [Nat.zero_add] at hcount

/-- A daily rule that starts at noon. -/
def dailyRent (lastExecuted nextExecution : ℤ) : RecurringTransactionEntity :=
  { objectID := 1
    id := 51
    name := "Kira".toList
    amount := 1500
    categoryId := 7
    accountId := 9
    isIncome := false
    frequency := "DAILY".toList
    startDate := 1700049600000
    endDate := 0
    isActive := true
    lastExecuted := lastExecuted
    nextExecution := nextExecution
    note := none }

/-- A context with a daily rule for the rent, due at noon. -/
def dailyRentContext : Context :=
  { categories := [{ id := 7, name := "Kira".toList }]
    accounts := seededAccounts 9
    transactions := []
    recurringTransactions :=
      (AutoTable.empty _).insertOrReplace (dailyRent 0 1700049600000) }

/-- The theorem at a rule that is two days late: three transactions for three occurrences. -/
theorem countsOccurrences_two_days_late :
    (createdFor .utc 1 dailyRentContext
        [.processDueRecurringTransactions 1700049600000 (fun _ => 3),
          .executeDueTransactions (1700049600000 + 2 * 86400000) (fun _ => 4),
          .executeDueTransactions (1700049600000 + 2 * 86400000) (fun _ => 5)]).length =
      ((CalendarSystem.utc.schedule .day 1700049600000).upTo
        (1700049600000 + 2 * 86400000)).ncard := by
  refine @countsOccurrences _ _ _ _ _ (dailyRent 0 1700049600000) (List.mem_singleton_self _) rfl
    rfl rfl ⟨⟨_, List.mem_singleton_self _, rfl⟩, ⟨_, List.mem_singleton_self _, rfl⟩⟩ ?_
    ⟨?_, ?_, ?_, trivial⟩ ?_
  · simp [ExecutorCall.now]
  · intro row hrow _ _
    obtain rfl : row = dailyRent 0 1700049600000 := List.mem_singleton.mp hrow
    exact ⟨_, rfl, 0, rfl, rfl⟩
  · intro row hrow _ _
    obtain rfl : row = dailyRent 1700049600000 (1700049600000 + 86400000) :=
      List.mem_singleton.mp hrow
    exact ⟨_, rfl, 1, rfl, rfl⟩
  · intro row hrow _ _
    obtain rfl : row = dailyRent (1700049600000 + 2 * 86400000) (1700049600000 + 2 * 86400000) :=
      List.mem_singleton.mp hrow
    exact ⟨_, rfl, 2, rfl, rfl⟩
  · intro row hrow _ _
    obtain rfl : row = dailyRent (1700049600000 + 2 * 86400000) (1700049600000 + 3 * 86400000) :=
      List.mem_singleton.mp hrow
    decide

/-- Three days late, the background executor creates one transaction and goes on from the
current day. -/
theorem not_countsOccurrences_processed_late :
    Settled (1700049600000 + 3 * 86400000) 1
        (Machine.run (ExecutorCall.step .utc) dailyRentContext
          [.processDueRecurringTransactions (1700049600000 + 3 * 86400000) (fun _ => 3)]) ∧
      (createdFor .utc 1 dailyRentContext
          [.processDueRecurringTransactions (1700049600000 + 3 * 86400000)
            (fun _ => 3)]).length ≠
        ((CalendarSystem.utc.schedule .day 1700049600000).upTo
          (1700049600000 + 3 * 86400000)).ncard := by
  refine ⟨?_, ?_⟩
  · intro row hrow _ _
    obtain rfl : row = dailyRent (1700049600000 + 3 * 86400000) (1700049600000 + 4 * 86400000) :=
      List.mem_singleton.mp hrow
    decide
  · have hevery : CalendarSystem.utc.schedule .day 1700049600000 =
        Schedule.every 1700049600000 86400000 (by decide) := rfl
    rw [hevery, Schedule.ncard_upTo_every _ (by decide)]
    decide

/-! ### The start of an entered rule -/

/-- A rule that is not in the store creates nothing. -/
theorem createdFor_eq_nil {rule : ℤ}
    (h : ∀ row ∈ context.recurringTransactions.rows, row.objectID ≠ rule) :
    createdFor calendar rule context calls = [] := by
  induction calls generalizing context with
  | nil => rfl
  | cons call calls ih =>
      have hstep : ∀ row ∈ (call.step calendar context).recurringTransactions.rows,
          row.objectID ≠ rule := by
        intro row hrow
        rw [ExecutorCall.rows_step, List.mem_map] at hrow
        obtain ⟨row₀, hrow₀, rfl⟩ := hrow
        rw [apply_ite RecurringTransactionEntity.objectID, ExecutorCall.objectID_body, ite_self]
        exact h row₀ hrow₀
      have hcreated : ((call.created calendar context).filter
          fun c => c.1.objectID == rule) = [] := by
        rw [List.filter_eq_nil_iff]
        rintro ⟨row, transaction⟩ hmem
        obtain ⟨hrow, -⟩ := ExecutorCall.mem_created_iff.mp hmem
        rw [beq_iff_eq]
        exact h row hrow
      rw [← List.length_eq_zero_iff, length_createdFor_cons, hcreated, ih hstep]
      rfl

/-- The transactions for the start of the rule that a save enters: the one that is saved,
and those that the calls after it create while the rule is due at its start. -/
def createdForStart (calendar : CalendarSystem) (view : AddTransactionView)
    (now randomId randomRuleId : ℤ) (context : Context) (calls : List ExecutorCall) :
    List Created :=
  let saved := view.saveTransaction now randomId randomRuleId context
  (saved.2 ++ createdFor calendar (context.recurringTransactions.sequence + 1) saved.1
    calls).filter fun c => c.1.nextExecution == view.date

section Entered

variable {view : AddTransactionView} {amount : ℚ} {category : CategoryEntity}
  {account : AccountEntity} {now randomId randomRuleId : ℤ}

/-- **What is entered** is one transaction and an active rule that is due at its start. -/
theorem saveTransaction_of_fits (now randomId randomRuleId : ℤ)
    (hamount : view.amount = some amount)
    (hcategory : view.selectedCategory = some category)
    (hcategoryMem : category ∈ context.categories)
    (haccount : view.selectedAccount = some account)
    (haccountMem : account ∈ context.accounts.rows) (hrecurring : view.isRecurring = true)
    (hfits : FitsInt64 (minorUnits amount)) :
    ∃ rule transaction, (view.saveTransaction now randomId randomRuleId context).2 =
        [(rule, transaction)] ∧
      rule ∈ (view.saveTransaction now randomId randomRuleId
        context).1.recurringTransactions.rows ∧
      ExecutorCall.HasObjects (view.saveTransaction now randomId randomRuleId context).1 rule ∧
      rule.objectID = context.recurringTransactions.sequence + 1 ∧ rule.isActive = true ∧
      rule.endDate = 0 ∧ rule.nextExecution = view.date := by
  simp only [AddTransactionView.saveTransaction, hamount, hcategory, haccount, if_pos hfits,
    if_pos hrecurring]
  refine ⟨_, _, rfl, ?_, ⟨⟨category, hcategoryMem, rfl⟩, ⟨account, haccountMem, rfl⟩⟩, rfl,
    rfl, rfl, rfl⟩
  exact AutoTable.mem_insertOrReplace.mpr (Or.inr rfl)

/-- An amount that does not fit: nothing is ever created for the rule. -/
theorem createdForStart_of_not_fits (hamount : view.amount = some amount)
    (hfits : ¬FitsInt64 (minorUnits amount)) :
    createdForStart calendar view now randomId randomRuleId context calls = [] := by
  have hsaved : view.saveTransaction now randomId randomRuleId context = (context, []) := by
    rw [AddTransactionView.saveTransaction, hamount]
    cases view.selectedCategory with
    | none => rfl
    | some category =>
        cases view.selectedAccount with
        | none => rfl
        | some account => exact if_neg hfits
  have habsent : ∀ row ∈ context.recurringTransactions.rows,
      row.objectID ≠ context.recurringTransactions.sequence + 1 := fun row hrow =>
    context.recurringTransactions.generatedId_not_mem hrow
  rw [createdForStart, hsaved, createdFor_eq_nil habsent]
  rfl

/-- A call after the start finds the rule due. -/
theorem one_le_createdFor_filter (calendar : CalendarSystem) (calls : List ExecutorCall)
    (hrow : row ∈ context.recurringTransactions.rows)
    (hobjects : ExecutorCall.HasObjects context row) (hactive : row.isActive = true)
    (hend : row.endDate = 0) (hdue : row.nextExecution ≤ call.now) :
    1 ≤ ((createdFor calendar row.objectID context (call :: calls)).filter
      fun c => c.1.nextExecution == row.nextExecution).length := by
  obtain ⟨⟨transaction, htransaction⟩, -⟩ :=
    ExecutorCall.body_spec calendar .day call hend hobjects
  have hcond : (row.isActive && decide (row.nextExecution ≤ call.now)) = true := by
    rw [hactive, decide_eq_true hdue]
    rfl
  have hcreated := ExecutorCall.filter_created calendar call hrow
  rw [if_pos hcond, htransaction] at hcreated
  rw [createdFor, Machine.outputs_cons, List.filter_append, hcreated, List.filter_append,
    List.length_append]
  simp

/-- The saved transaction is one for the start; the calls may add to it. -/
theorem exists_length_createdForStart (calendar : CalendarSystem) (calls : List ExecutorCall)
    (now randomId randomRuleId : ℤ) (hamount : view.amount = some amount)
    (hcategory : view.selectedCategory = some category)
    (hcategoryMem : category ∈ context.categories)
    (haccount : view.selectedAccount = some account)
    (haccountMem : account ∈ context.accounts.rows) (hrecurring : view.isRecurring = true)
    (hfits : FitsInt64 (minorUnits amount))
    (hcall : ∀ call ∈ calls.head?, view.date ≤ call.now) :
    ∃ k, (createdForStart calendar view now randomId randomRuleId context calls).length = 1 + k ∧
      (k = 0 ↔ calls = []) := by
  obtain ⟨rule, transaction, hsaved, hrow, hobjects, hid, hactive, hend, hstart⟩ :=
    saveTransaction_of_fits now randomId randomRuleId hamount hcategory hcategoryMem haccount
      haccountMem hrecurring hfits
  refine ⟨((createdFor calendar rule.objectID
    (view.saveTransaction now randomId randomRuleId context).1 calls).filter
      fun c => c.1.nextExecution == rule.nextExecution).length, ?_, ?_⟩
  · rw [createdForStart, hsaved, List.filter_append, List.length_append, hid, hstart]
    simp [hstart]
  · cases calls with
    | nil => simp [createdFor]
    | cons call calls =>
        have hdue : rule.nextExecution ≤ call.now := by
          rw [hstart]
          exact hcall call rfl
        have hagain := one_le_createdFor_filter calendar calls hrow hobjects hactive hend hdue
        refine iff_of_false (by omega) ?_
        exact List.cons_ne_nil call calls

/-- **The start of an entered rule** has exactly one transaction just when the amount can
be saved and no executor is called. -/
theorem startsOnce_iff (hamount : view.amount = some amount)
    (hcategory : view.selectedCategory = some category)
    (hcategoryMem : category ∈ context.categories)
    (haccount : view.selectedAccount = some account)
    (haccountMem : account ∈ context.accounts.rows) (hrecurring : view.isRecurring = true)
    (hdate : view.date ≤ now) (hclock : ∀ call ∈ calls, now ≤ call.now) :
    (createdForStart calendar view now randomId randomRuleId context calls).length = 1 ↔
      FitsInt64 (minorUnits amount) ∧ calls = [] := by
  by_cases hfits : FitsInt64 (minorUnits amount)
  · have hcall : ∀ call ∈ calls.head?, view.date ≤ call.now := fun call hmem =>
      le_trans hdate (hclock call (List.mem_of_mem_head? hmem))
    obtain ⟨k, hlength, hzero⟩ := exists_length_createdForStart calendar calls now randomId
      randomRuleId hamount hcategory hcategoryMem haccount haccountMem hrecurring hfits hcall
    rw [hlength, ← hzero]
    refine ⟨fun h => ⟨hfits, by omega⟩, ?_⟩
    rintro ⟨-, rfl⟩
    rfl
  · rw [createdForStart_of_not_fits hamount hfits]
    exact iff_of_false (by simp) (fun h => hfits h.1)

end Entered

/-- Whole amounts are exact. -/
theorem minorUnits_natCast {n : ℕ} (h : n * 100 < 2 ^ 53) : minorUnits n = n * 100 := by
  have hcast : (n : ℚ) * 100 = ((n * 100 : ℕ) : ℚ) := by push_cast; rfl
  rw [minorUnits, hcast, Binary64.signedRounded_natCast h, Binary64.truncated,
    Rat.num_natCast, Rat.den_natCast]
  simp

/-- Rent that is entered on the day it starts. -/
def rentView : AddTransactionView :=
  { amount := some (15 : ℕ)
    note := []
    selectedCategory := some { id := 7, name := "Kira".toList }
    selectedAccount := (seededAccounts 9).rows.head?
    isIncome := false
    date := 1700049600000
    isRecurring := true
    recurringFrequency := "MONTHLY".toList }

/-- The theorem at one further call: it creates the transaction of the start a second time. -/
theorem startsOnce_iff_processed :
    (createdForStart .utc rentView 1700049600500 11 12 dailyRentContext
        [.processDueRecurringTransactions 1700053200000 (fun _ => 13)]).length = 1 ↔
      FitsInt64 (minorUnits (15 : ℕ)) ∧
        [ExecutorCall.processDueRecurringTransactions 1700053200000 (fun _ => 13)] = [] :=
  startsOnce_iff rfl rfl (List.mem_singleton_self _) rfl (List.mem_singleton_self _) rfl
    (by decide) (by simp [ExecutorCall.now])

/-- The next launch of the app finds the rule due. -/
theorem not_startsOnce_executed :
    (createdForStart .utc rentView 1700049600500 11 12 dailyRentContext
        [.executeDueTransactions 1700053200000 (fun _ => 13)]).length ≠ 1 := by
  have hfits : FitsInt64 (minorUnits (15 : ℕ)) := by
    rw [minorUnits_natCast (by decide)]
    decide
  have hcall : ∀ call ∈ [ExecutorCall.executeDueTransactions 1700053200000
      (fun _ => 13)].head?, rentView.date ≤ call.now := by
    rintro call ⟨rfl⟩
    decide
  obtain ⟨k, hlength, hzero⟩ := @exists_length_createdForStart dailyRentContext rentView _ _ _
    .utc _ 1700049600500 11 12 rfl rfl (List.mem_singleton_self _) rfl
    (List.mem_singleton_self _) rfl hfits hcall
  have hne : k ≠ 0 := fun h => List.cons_ne_nil _ _ (hzero.mp h)
  omega

end SpendCraft.Ios
