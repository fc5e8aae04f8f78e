import SpendCraft.Ios.RecurringEnd

/-!
# Editing a Rule

`updateRecurringTransaction` may give a rule a new start and a new frequency. It does not
touch `nextExecution`, which the executors go by. They move it on, one of them from the date
that was due and the other from the current time.

## Conventions

A schedule is a start and a frequency, as the rule has them now: an edit changes it, and
`nextExecution` may then be a date of the old one. The property is about what is created: each
transaction of an executor is for a rule that was due at an occurrence of its schedule, not before
its start. Runs are any lists of entries, edits, toggles and executors.

## Proof

The invariant is `Pending`: every rule is due at an occurrence of its schedule. An entered rule is
due at its start, an edit keeps the invariant if the old date is an occurrence of the new
schedule, and an executor if it moves each rule to an occurrence; both are `TakesEffect`. A run
whose calls all take effect creates for occurrences only, by the invariant before each call;
`pending_step_iff` says that the condition is no stronger than what keeps the invariant.

## Main results

* `pending_step_iff`: what a call must not do for every rule to be due at an occurrence of
  its schedule.
* `consumesOccurrences_of_takesEffect`: runs whose calls keep to that create transactions for
  occurrences only.
-/

namespace SpendCraft.Ios

open Kotlin Relational Machine

/-! ### Edits -/

namespace RecurringViewModel

/-- The rule of the second `addRecurringTransaction`, with the loaded accounts. -/
def addRecurringTransactionFor (accounts : List AccountEntity) (randomId : ℤ) (name : Text)
    (amount : ℚ) (category : CategoryEntity) (frequency : Text) (startDate : ℤ)
    (isIncome isActive : Bool) : RecurringTransactionEntity :=
  { addRecurringTransaction randomId name amount category.id
      ((accounts.head?.map AccountEntity.id).getD 0) isIncome frequency startDate none none with
    isActive := isActive }

/-- The assignments to the rule. -/
def updateRecurringTransaction (name : Text) (amount : ℚ) (categoryId accountId : ℤ)
    (isIncome : Bool) (frequency : Text) (startDate : ℤ) (endDate : Option ℤ)
    (note : Option Text) (recurring : RecurringTransactionEntity) :
    RecurringTransactionEntity :=
  { recurring with
    name := name
    amount := minorUnits amount
    categoryId := categoryId
    accountId := accountId
    isIncome := isIncome
    frequency := frequency
    startDate := startDate
    endDate := endDate.getD 0
    note := note }

end RecurringViewModel

/-- A call on the rules: an entry, an edit, or one of the executors and toggles. -/
inductive RuleCall
  | addRecurringTransaction (randomId : ℤ) (name : Text) (amount : ℚ) (categoryId accountId : ℤ)
      (isIncome : Bool) (frequency : Text) (startDate : ℤ) (endDate : Option ℤ)
      (note : Option Text)
  | addRecurringTransactionFor (randomId : ℤ) (name : Text) (amount : ℚ)
      (category : CategoryEntity) (frequency : Text) (startDate : ℤ) (isIncome isActive : Bool)
  | updateRecurringTransaction (recurring : ℤ) (name : Text) (amount : ℚ)
      (categoryId accountId : ℤ) (isIncome : Bool) (frequency : Text) (startDate : ℤ)
      (endDate : Option ℤ) (note : Option Text)
  | operate (op : RecurringOp)

namespace Context

/-- An amount that does not fit ends the app before the rule is saved. -/
def enter (amount : ℚ) (recurring : RecurringTransactionEntity) (context : Context) : Context :=
  if FitsInt64 (minorUnits amount) then
    { context with
      recurringTransactions := context.recurringTransactions.insertOrReplace recurring }
  else context

/-- A rule is edited, unless the amount ends the app. -/
def edit (recurring : ℤ) (amount : ℚ)
    (f : RecurringTransactionEntity → RecurringTransactionEntity)
    (hf : ∀ row, (f row).objectID = row.objectID) (context : Context) : Context :=
  if FitsInt64 (minorUnits amount) then
    { context with
      recurringTransactions := context.recurringTransactions.updateSet
        (fun row => if row.objectID = recurring then f row else row) (by
          intro row
          split_ifs
          · exact hf row
          · rfl) }
  else context

end Context

namespace RuleCall

/-- One call on the context: a rule is entered or edited, or an operation on the rules runs. -/
def step (calendar : CalendarSystem) (context : Context) : RuleCall → Context
  | addRecurringTransaction randomId name amount categoryId accountId isIncome frequency startDate
      endDate note =>
      context.enter amount (RecurringViewModel.addRecurringTransaction randomId name amount
        categoryId accountId isIncome frequency startDate endDate note)
  | addRecurringTransactionFor randomId name amount category frequency startDate isIncome
      isActive =>
      context.enter amount (RecurringViewModel.addRecurringTransactionFor
        (AccountsViewModel.loadAccounts context.accounts) randomId name amount category frequency
        startDate isIncome isActive)
  | updateRecurringTransaction recurring name amount categoryId accountId isIncome frequency
      startDate endDate note =>
      context.edit recurring amount (RecurringViewModel.updateRecurringTransaction name amount
        categoryId accountId isIncome frequency startDate endDate note) fun _ => rfl
  | operate op => op.step calendar context

/-- The transactions that the call creates. -/
def created (calendar : CalendarSystem) (context : Context) : RuleCall → List (ℤ × Created)
  | operate op => op.created calendar context
  | _ => []

end RuleCall

/-! ### Schedules -/

/-- The date is the start, or a whole number of periods after it. -/
def CalendarSystem.IsOccurrence (calendar : CalendarSystem) (frequency : Text)
    (startDate date : ℤ) : Prop :=
  date = startDate ∨ ∃ component, frequencyComponent frequency = some component ∧
    ∃ k, (calendar.schedule component startDate).occurrence k = some date

/-- Every rule is due at an occurrence of its schedule. -/
def Context.Pending (calendar : CalendarSystem) (context : Context) : Prop :=
  ∀ row ∈ context.recurringTransactions.rows,
    calendar.IsOccurrence row.frequency row.startDate row.nextExecution

/-- The date at which an executor makes a rule due next. -/
def ExecutorCall.nextDate (calendar : CalendarSystem) (row : RecurringTransactionEntity) :
    ExecutorCall → ℤ
  | executeDueTransactions _ _ =>
      RecurringViewModel.calculateNextExecution calendar row.nextExecution row.frequency
  | processDueRecurringTransactions now _ =>
      RecurringAutomationManager.calculateNextExecution calendar (dateOfMillis now) row.frequency

/-- The executor finds the rule past its end, and stops it. -/
def ExecutorCall.Stops (row : RecurringTransactionEntity) : ExecutorCall → Prop
  | executeDueTransactions _ _ => False
  | processDueRecurringTransactions now _ => row.endDate > 0 ∧ row.endDate < now

/-- An edit leaves the rule due at an occurrence of its new schedule, and an executor moves
each rule that it executes to an occurrence. -/
def RuleCall.TakesEffect (calendar : CalendarSystem) (context : Context) : RuleCall → Prop
  | updateRecurringTransaction recurring _ amount _ _ _ frequency startDate _ _ =>
      FitsInt64 (minorUnits amount) → ∀ row ∈ context.recurringTransactions.rows,
        row.objectID = recurring → calendar.IsOccurrence frequency startDate row.nextExecution
  | operate (.execute call) =>
      ∀ row ∈ context.recurringTransactions.rows, row.isActive = true →
        row.nextExecution ≤ call.now → ¬call.Stops row →
          calendar.IsOccurrence row.frequency row.startDate (call.nextDate calendar row)
  | _ => True

variable {calendar : CalendarSystem} {context : Context} {row : RecurringTransactionEntity}
  {call : ExecutorCall}

/-- No occurrence is before the start. -/
theorem CalendarSystem.IsOccurrence.le {frequency : Text} {startDate date : ℤ}
    (h : calendar.IsOccurrence frequency startDate date) : startDate ≤ date := by
  obtain rfl | ⟨component, -, k, hk⟩ := h
  · exact le_refl _
  · have hzero : (calendar.schedule component startDate).occurrence 0 = some startDate :=
      calendar.schedule_zero
    rcases Nat.eq_zero_or_pos k with rfl | hpos
    · rw [hzero, Option.some_inj] at hk
      exact hk.le
    · exact ((calendar.schedule component startDate).increasing 0 k _ _ hpos hzero hk).le

/-! ### One call -/

/-- What an executor does to the dates of a rule. -/
theorem ExecutorCall.dates_body : (call.body calendar context row).1.frequency = row.frequency ∧
    (call.body calendar context row).1.startDate = row.startDate ∧
    (call.Stops row → (call.body calendar context row).1.nextExecution = row.nextExecution) ∧
    (¬call.Stops row →
      (call.body calendar context row).1.nextExecution = call.nextDate calendar row) := by
  cases call with
  | executeDueTransactions now randomId => exact ⟨rfl, rfl, False.elim, fun _ => rfl⟩
  | processDueRecurringTransactions now randomId =>
      rw [body, RecurringAutomationManager.executeRecurring]
      split_ifs with hended
      · exact ⟨rfl, rfl, fun _ => rfl, fun hrunning => absurd hended hrunning⟩
      · exact ⟨rfl, rfl, fun hstops => absurd hstops hended, fun _ => rfl⟩

/-- A new rule waits for its start, which is an occurrence. -/
theorem pending_enter (h : context.Pending calendar) (amount : ℚ)
    {recurring : RecurringTransactionEntity} (hnew : recurring.objectID = 0)
    (hstart : recurring.nextExecution = recurring.startDate) :
    (context.enter amount recurring).Pending calendar := by
  rw [Context.enter]
  split_ifs
  · intro row hrow
    dsimp only at hrow
    rw [AutoTable.rows_insertOrReplace_generated _ hnew, List.mem_append,
      List.mem_singleton] at hrow
    obtain hrow | rfl := hrow
    · exact h row hrow
    · exact Or.inl hstart
  · exact h

/-- The rules after an edit. -/
theorem rows_edit {recurring : ℤ} {amount : ℚ} (hfits : FitsInt64 (minorUnits amount))
    {f : RecurringTransactionEntity → RecurringTransactionEntity}
    (hf : ∀ row, (f row).objectID = row.objectID) :
    (context.edit recurring amount f hf).recurringTransactions.rows =
      context.recurringTransactions.rows.map fun row =>
        if row.objectID = recurring then f row else row := by
  rw [Context.edit, if_pos hfits]
  rfl

/-- An edit keeps the rules pending exactly if the date at which the edited rule is next due is an
occurrence of it as edited. -/
theorem pending_edit_iff (h : context.Pending calendar) {recurring : ℤ} {amount : ℚ}
    {f : RecurringTransactionEntity → RecurringTransactionEntity}
    (hf : ∀ row, (f row).objectID = row.objectID) {frequency : Text} {startDate : ℤ}
    (hdates : ∀ row, (f row).frequency = frequency ∧ (f row).startDate = startDate ∧
      (f row).nextExecution = row.nextExecution) :
    (context.edit recurring amount f hf).Pending calendar ↔
      (FitsInt64 (minorUnits amount) → ∀ row ∈ context.recurringTransactions.rows,
        row.objectID = recurring →
          calendar.IsOccurrence frequency startDate row.nextExecution) := by
  by_cases hfits : FitsInt64 (minorUnits amount)
  · rw [forall_prop_of_true hfits, Context.Pending, rows_edit hfits, List.forall_mem_map]
    apply forall₂_congr
    intro row hrow
    obtain ⟨hfrequency, hstart, hnext⟩ := hdates row
    split_ifs with hid
    · rw [hfrequency, hstart, hnext, forall_prop_of_true hid]
    · exact iff_of_true (h row hrow) fun heq => absurd heq hid
  · rw [Context.edit, if_neg hfits]
    exact iff_of_true h fun hfits' => absurd hfits' hfits

/-- An execution keeps the rules pending exactly if it takes effect as meant. -/
theorem pending_execute_iff (h : context.Pending calendar) :
    (call.step calendar context).Pending calendar ↔
      (RuleCall.operate (.execute call)).TakesEffect calendar context := by
  rw [Context.Pending, ExecutorCall.rows_step, List.forall_mem_map, RuleCall.TakesEffect]
  apply forall₂_congr
  intro row hrow
  obtain ⟨hfrequency, hstart, hstopped, hnext⟩ :=
    @ExecutorCall.dates_body calendar context row call
  by_cases hdue : row.isActive = true ∧ row.nextExecution ≤ call.now
  · rw [if_pos (by rw [hdue.1]; exact decide_eq_true hdue.2), hfrequency, hstart,
      forall_prop_of_true hdue.1, forall_prop_of_true hdue.2]
    by_cases hstops : call.Stops row
    · rw [hstopped hstops]
      exact iff_of_true (h row hrow) fun hrunning => absurd hstops hrunning
    · rw [hnext hstops, forall_prop_of_true hstops]
  · have hnot : ¬(row.isActive && decide (row.nextExecution ≤ call.now)) = true := by
      rw [Bool.and_eq_true, decide_eq_true_iff]
      exact hdue
    rw [if_neg hnot]
    exact iff_of_true (h row hrow) fun hactive hle => absurd ⟨hactive, hle⟩ hdue

/-- **One call** leaves every rule due at an occurrence of its schedule, just when it takes
effect on the schedule. -/
theorem pending_step_iff (h : context.Pending calendar) (call : RuleCall) :
    (call.step calendar context).Pending calendar ↔ call.TakesEffect calendar context := by
  cases call with
  | addRecurringTransaction randomId name amount categoryId accountId isIncome frequency startDate
      endDate note => exact iff_of_true (pending_enter h amount rfl rfl) trivial
  | addRecurringTransactionFor randomId name amount category frequency startDate isIncome
      isActive => exact iff_of_true (pending_enter h amount rfl rfl) trivial
  | updateRecurringTransaction recurring name amount categoryId accountId isIncome frequency
      startDate endDate note =>
      exact pending_edit_iff h (f := RecurringViewModel.updateRecurringTransaction name amount
        categoryId accountId isIncome frequency startDate endDate note) (fun _ => rfl)
        fun _ => ⟨rfl, rfl, rfl⟩
  | operate op =>
      have htoggle : ∀ recurring,
          (RecurringViewModel.toggleRecurringTransaction recurring context).Pending calendar := by
        intro recurring row hrow
        obtain ⟨toggled, htoggled, rfl⟩ := List.mem_map.mp hrow
        split_ifs
        · exact h toggled htoggled
        · exact h toggled htoggled
      cases op with
      | execute call => exact pending_execute_iff h
      | toggleRecurringTransaction recurring => exact iff_of_true (htoggle recurring) trivial
      | deactivateRecurringTransaction recurring => exact iff_of_true (htoggle recurring) trivial

/-- What a call creates, it creates for a stored rule. -/
theorem mem_rows_of_created {call : RuleCall} {c : ℤ × Created}
    (hc : c ∈ call.created calendar context) : c.2.1 ∈ context.recurringTransactions.rows := by
  cases call with
  | operate op =>
      cases op with
      | execute call =>
          obtain ⟨⟨row, transaction⟩, hcreated, rfl⟩ := List.mem_map.mp hc
          exact (ExecutorCall.mem_created_iff.mp hcreated).1
      | toggleRecurringTransaction recurring => cases hc
      | deactivateRecurringTransaction recurring => cases hc
  | _ => cases hc

/-! ### Runs -/

/-- **Every rule is due at an occurrence** in every state of a run, just when all of its
calls take effect on the schedules. -/
theorem forall_pending_iff (h : context.Pending calendar) (calls : List RuleCall) :
    (∀ pre, pre <+: calls → (run (RuleCall.step calendar) context pre).Pending calendar) ↔
      AllSteps (RuleCall.step calendar) (RuleCall.TakesEffect calendar) context calls :=
  forall_prefix_iff_of_step (I := Context.Pending calendar)
    (fun _ call h => pending_step_iff h call) h calls

/-- The store before any rule is entered. -/
def Context.withoutRules (categories : List CategoryEntity) (accounts : Accounts)
    (transactions : List TransactionEntity) : Context :=
  { categories := categories
    accounts := accounts
    transactions := transactions
    recurringTransactions := AutoTable.empty _ }

/-- A transaction is created for a rule that is due at an occurrence, not before the start. -/
def ConsumesOccurrence (calendar : CalendarSystem) (row : RecurringTransactionEntity) : Prop :=
  row.startDate ≤ row.nextExecution ∧
    calendar.IsOccurrence row.frequency row.startDate row.nextExecution

/-- **What is consumed is an occurrence**, in runs whose calls take effect on the
schedules. -/
theorem consumesOccurrences_of_takesEffect (calendar : CalendarSystem)
    (categories : List CategoryEntity) (accounts : Accounts)
    (transactions : List TransactionEntity) (calls : List RuleCall)
    (hcalls : AllSteps (RuleCall.step calendar) (RuleCall.TakesEffect calendar)
      (Context.withoutRules categories accounts transactions) calls) :
    ∀ c ∈ outputs (RuleCall.step calendar) (RuleCall.created calendar)
        (Context.withoutRules categories accounts transactions) calls,
      ConsumesOccurrence calendar c.2.1 := by
  have hpending : (Context.withoutRules categories accounts transactions).Pending calendar := by
    intro row hrow
    cases hrow
  rw [forall_mem_outputs_iff, allSteps_iff]
  rintro pre call post rfl c hc
  have hstate := (forall_pending_iff hpending _).mpr hcalls pre (List.prefix_append _ _)
  have hoccurrence := hstate _ (mem_rows_of_created hc)
  exact ⟨hoccurrence.le, hoccurrence⟩

/-- A daily rule from the start of 1970 on. -/
def addDaily : RuleCall :=
  .addRecurringTransaction 7 "Rent".toList (1 : ℕ) 1 1 false "DAILY".toList 0 none none

/-- Its start is put off by ten days. -/
def putOff : RuleCall :=
  .updateRecurringTransaction 1 "Rent".toList (1 : ℕ) 1 1 false "DAILY".toList 864000000 none none

/-- The due rules are processed at a time. -/
def processAt (now : ℤ) : RuleCall :=
  .operate (.execute (.processDueRecurringTransactions now fun _ => 1))

/-- The amount of one unit fits. -/
theorem fits_one : FitsInt64 (minorUnits (1 : ℕ)) := by
  rw [minorUnits_natCast (by norm_num)]
  decide

/-- A daily rule as it is entered. -/
def addedDaily : RecurringTransactionEntity :=
  { RecurringViewModel.addRecurringTransaction 7 "Rent".toList (1 : ℕ) 1 1 false "DAILY".toList 0
      none none with
    objectID := 1 }

/-- The rule is the only one. -/
theorem rows_addDaily : (addDaily.step .utc (Context.withoutRules [] (AutoTable.empty _)
    [])).recurringTransactions.rows = [addedDaily] := by
  rw [addDaily, RuleCall.step, Context.enter, if_pos fits_one]
  rfl

/-- Entering the rule and processing it is what is meant. -/
theorem takesEffect_addDaily : AllSteps (RuleCall.step .utc) (RuleCall.TakesEffect .utc)
    (Context.withoutRules [] (AutoTable.empty _) []) [addDaily, processAt 0] := by
  refine ⟨trivial, ?_, trivial⟩
  rintro row hrow - - -
  rw [rows_addDaily, List.mem_singleton] at hrow
  subst hrow
  refine Or.inr ⟨.day, by decide, 1, ?_⟩
  rfl

/-- The theorem at this rule: its transaction is its first occurrence. -/
theorem consumesOccurrences_addDaily :
    AllSteps (RuleCall.step .utc) (RuleCall.TakesEffect .utc)
        (Context.withoutRules [] (AutoTable.empty _) []) [addDaily, processAt 0] ∧
      ∀ c ∈ outputs (RuleCall.step .utc) (RuleCall.created .utc)
          (Context.withoutRules [] (AutoTable.empty _) []) [addDaily, processAt 0],
        ConsumesOccurrence .utc c.2.1 :=
  ⟨takesEffect_addDaily,
    consumesOccurrences_of_takesEffect .utc [] (AutoTable.empty _) [] _ takesEffect_addDaily⟩

/-- The rule with its start put off by ten days. -/
def postponedDaily : RecurringTransactionEntity :=
  { addedDaily with startDate := 864000000 }

/-- Putting the start off leaves the date at which the rule is due. -/
theorem rows_putOff : (putOff.step .utc (addDaily.step .utc (Context.withoutRules []
    (AutoTable.empty _) []))).recurringTransactions.rows = [postponedDaily] := by
  have hedited := @rows_edit (addDaily.step .utc (Context.withoutRules [] (AutoTable.empty _) []))
    1 (1 : ℕ) fits_one (RecurringViewModel.updateRecurringTransaction "Rent".toList (1 : ℕ) 1 1
      false "DAILY".toList 864000000 none none) fun _ => rfl
  rw [rows_addDaily] at hedited
  exact hedited

/-- The executor in the background then makes a transaction ten days before the new start. -/
theorem not_consumesOccurrences_putOff :
    ¬∀ c ∈ outputs (RuleCall.step .utc) (RuleCall.created .utc)
        (Context.withoutRules [] (AutoTable.empty _) []) [addDaily, putOff, processAt 0],
      ConsumesOccurrence .utc c.2.1 := by
  intro hall
  rw [forall_mem_outputs_iff] at hall
  obtain ⟨-, -, hprocess, -⟩ := hall
  have hrow := List.mem_singleton_self postponedDaily
  rw [← rows_putOff] at hrow
  obtain ⟨transaction, hbody⟩ : ∃ transaction, (ExecutorCall.body .utc
      (putOff.step .utc (addDaily.step .utc (Context.withoutRules [] (AutoTable.empty _) [])))
      (.processDueRecurringTransactions 0 fun _ => 1) postponedDaily).2 = some transaction := by
    rw [ExecutorCall.body, RecurringAutomationManager.executeRecurring, if_neg (by decide)]
    exact ⟨_, rfl⟩
  have hcreated := ExecutorCall.mem_created_iff.mpr ⟨hrow, rfl, le_refl 0, hbody⟩
  have hstart : postponedDaily.startDate ≤ postponedDaily.nextExecution :=
    (hprocess _ (List.mem_map_of_mem hcreated)).1
  exact absurd hstart (by decide)

end SpendCraft.Ios
