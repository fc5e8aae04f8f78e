import SpendCraft.Ios.RecurringRuns

/-!
# Booking a Rule and Moving It On

`executeDueTransactions` books a rule that is due when it finds the category and the account
of the rule. It moves the rule on in any case.

The amount of a rule goes through a `Double` on its way into the transaction. One that does
not come back as an `Int64` ends the app.

## Conventions

A call ends the app when the amount of a rule that it books does not come back from a `Double` as
an `Int64`; what it has booked before that is not saved, which is the `none` of the call. The
rules are executed in the order in which they were fetched. That a rule is moved on says nothing
of a transaction: the category or the account may be gone, or without one of its own.

## Proof

The transactions for one rule are counted over the list of those the call creates, by the identity
of the rule: one if its category and its account are found, none otherwise. The rule is moved on
in any case. So a due rule with both objects needs an amount that fits, since otherwise the call
ends the app; and one without them must be a rule that being moved on leaves as it is.

## Main results

* `length_filter_created_executeDue`: which rules are booked, and how often.
* `consumesWhatItBooks_iff`: when every rule that is moved on is booked.
-/

namespace SpendCraft.Ios

open Kotlin Relational

variable {calendar : CalendarSystem} {context : Context} {row : RecurringTransactionEntity}
  {now : ℤ} {randomId : ℤ → ℤ}

namespace RecurringViewModel

/-- The assignments to a rule that is due. -/
def movedOn (calendar : CalendarSystem) (now : ℤ) (recurring : RecurringTransactionEntity) :
    RecurringTransactionEntity :=
  { recurring with
    lastExecuted := now
    nextExecution :=
      calculateNextExecution calendar recurring.nextExecution recurring.frequency }

/-- `executeDueTransactions`, or `none` when an amount ends the app: it creates transactions with
the amounts of the loop of `executeDueTransactions`, as long as each of them fits. -/
def executeDueTransactionsOrEnd (calendar : CalendarSystem) (now : ℤ) (randomId : ℤ → ℤ)
    (context : Context) : Option Context :=
  if ∀ c ∈ (ExecutorCall.executeDueTransactions now randomId).created calendar context,
      FitsInt64 c.2.amountMinor then
    some (executeDueTransactions calendar now randomId context)
  else none

/-! ### One rule -/

/-- The rules that are due: those of the store that are active and whose time has come. -/
theorem mem_dueRecurring_iff :
    row ∈ context.dueRecurring now ↔
      row ∈ context.recurringTransactions.rows ∧ row.isActive = true ∧ row.nextExecution ≤ now := by
  rw [Context.dueRecurring, List.mem_filter, Bool.and_eq_true, decide_eq_true_iff]

/-- The amount of the transaction that is made of a rule. -/
theorem amountMinor_of_executeDue {transaction : TransactionEntity}
    (h : ((ExecutorCall.executeDueTransactions now randomId).body calendar context row).2 =
      some transaction) : transaction.amountMinor = minorUnits (majorUnits row.amount) := by
  rw [ExecutorCall.body, executeRecurring] at h
  dsimp only at h
  split at h
  · rw [Option.some_inj] at h
    rw [← h]
    rfl
  · cases h

/-- A rule that is due is moved on, any other is left alone. -/
theorem mem_rows_executeDue (calendar : CalendarSystem) (now : ℤ) (randomId : ℤ → ℤ)
    (hrow : row ∈ context.recurringTransactions.rows) :
    (if row ∈ context.dueRecurring now then movedOn calendar now row else row) ∈
      (executeDueTransactions calendar now randomId context).recurringTransactions.rows := by
  have hrows := @ExecutorCall.rows_step calendar context
    (ExecutorCall.executeDueTransactions now randomId)
  rw [ExecutorCall.step] at hrows
  rw [hrows, List.mem_map]
  refine ⟨row, hrow, ?_⟩
  by_cases hdue : row.isActive = true ∧ row.nextExecution ≤ now
  · have hcond : (row.isActive && decide (row.nextExecution ≤ now)) = true := by
      rw [hdue.1, decide_eq_true hdue.2]
      rfl
    rw [if_pos (mem_dueRecurring_iff.mpr ⟨hrow, hdue⟩)]
    exact if_pos hcond
  · have hcond : ¬(row.isActive && decide (row.nextExecution ≤ now)) = true := by
      rwa [Bool.and_eq_true, decide_eq_true_iff]
    rw [if_neg fun hmem => hdue (mem_dueRecurring_iff.mp hmem).2]
    exact if_neg hcond

/-- **What is booked for a rule**: one transaction if it is due and has its category and its
account, and nothing otherwise. -/
theorem length_filter_created_executeDue (calendar : CalendarSystem) (now : ℤ) (randomId : ℤ → ℤ)
    (hrow : row ∈ context.recurringTransactions.rows) :
    ((((ExecutorCall.executeDueTransactions now randomId).created calendar context).filter
          fun c => c.1.objectID == row.objectID).length = 1 ↔
        row ∈ context.dueRecurring now ∧ ExecutorCall.HasObjects context row) ∧
      ((((ExecutorCall.executeDueTransactions now randomId).created calendar context).filter
          fun c => c.1.objectID == row.objectID) = [] ↔
        ¬(row ∈ context.dueRecurring now ∧ ExecutorCall.HasObjects context row)) := by
  rw [ExecutorCall.filter_created calendar _ hrow, ← @ExecutorCall.exists_of_executeDue calendar
    context row now randomId, mem_dueRecurring_iff]
  by_cases hdue : row.isActive = true ∧ row.nextExecution ≤ now
  · have hcond : (row.isActive && decide (row.nextExecution ≤
        (ExecutorCall.executeDueTransactions now randomId).now)) = true := by
      rw [hdue.1, ExecutorCall.now, decide_eq_true hdue.2]
      rfl
    rw [if_pos hcond]
    cases (ExecutorCall.body calendar context
        (ExecutorCall.executeDueTransactions now randomId) row).2 with
    | none => simp
    | some transaction => simp [hrow, hdue]
  · have hcond : ¬(row.isActive && decide (row.nextExecution ≤
        (ExecutorCall.executeDueTransactions now randomId).now)) = true := by
      rwa [Bool.and_eq_true, decide_eq_true_iff]
    rw [if_neg hcond]
    simp [hdue]

/-- The app ends at the amounts of the rules that are booked. -/
theorem fits_created_iff :
    (∀ c ∈ (ExecutorCall.executeDueTransactions now randomId).created calendar context,
        FitsInt64 c.2.amountMinor) ↔
      ∀ row ∈ context.dueRecurring now, ExecutorCall.HasObjects context row →
        FitsInt64 (minorUnits (majorUnits row.amount)) := by
  constructor
  · intro hfits row hdue hobjects
    obtain ⟨transaction, hbody⟩ :=
      (@ExecutorCall.exists_of_executeDue calendar context row now randomId).mpr hobjects
    rw [← amountMinor_of_executeDue hbody]
    obtain ⟨hrow, hactive, hnext⟩ := mem_dueRecurring_iff.mp hdue
    exact hfits (row, transaction) (ExecutorCall.mem_created_iff.mpr ⟨hrow, hactive, hnext, hbody⟩)
  · rintro hfits ⟨row, transaction⟩ hmem
    obtain ⟨hrow, hactive, hnext, hbody⟩ := ExecutorCall.mem_created_iff.mp hmem
    rw [amountMinor_of_executeDue hbody]
    exact hfits row (mem_dueRecurring_iff.mpr ⟨hrow, hactive, hnext⟩)
      (ExecutorCall.exists_of_executeDue.mp ⟨transaction, hbody⟩)

/-! ### The whole call -/

/-- The call comes to its end. A rule is moved on and has one transaction among the new
ones, or it is left alone and has none; it is left alone when its category or its account
does not exist. -/
def ConsumesWhatItBooks (calendar : CalendarSystem) (now : ℤ) (randomId : ℤ → ℤ)
    (context : Context) : Prop :=
  ∃ after, executeDueTransactionsOrEnd calendar now randomId context = some after ∧
    ∃ booked, booked = (ExecutorCall.executeDueTransactions now randomId).created calendar context ∧
      after.transactions = context.transactions ++ booked.map Prod.snd ∧
      ∀ row ∈ context.recurringTransactions.rows,
        ∃ row' ∈ after.recurringTransactions.rows, row'.objectID = row.objectID ∧
          ((row' = movedOn calendar now row ∧
              (booked.filter fun c => c.1.objectID == row.objectID).length = 1) ∨
            (row' = row ∧ (booked.filter fun c => c.1.objectID == row.objectID) = [])) ∧
          (¬ExecutorCall.HasObjects context row → row' = row)

/-- **A rule is moved on only when it is booked** just when every rule that is due has its
category, its account and an amount that fits, or would not change by being moved on. -/
theorem consumesWhatItBooks_iff :
    ConsumesWhatItBooks calendar now randomId context ↔
      ∀ row ∈ context.dueRecurring now,
        (ExecutorCall.HasObjects context row → FitsInt64 (minorUnits (majorUnits row.amount))) ∧
          (¬ExecutorCall.HasObjects context row → movedOn calendar now row = row) := by
  constructor
  · rintro ⟨after, hafter, booked, -, -, hrows⟩ row hdue
    rw [executeDueTransactionsOrEnd] at hafter
    split_ifs at hafter with hfits
    rw [Option.some_inj] at hafter
    refine ⟨fits_created_iff.mp hfits row hdue, ?_⟩
    intro hobjects
    have hrow := (mem_dueRecurring_iff.mp hdue).1
    have hmem := mem_rows_executeDue calendar now randomId hrow
    rw [if_pos hdue, hafter] at hmem
    obtain ⟨row', hrow', hid, -, huntouched⟩ := hrows row hrow
    rw [AutoTable.eq_of_id_eq hmem hrow' hid.symm]
    exact huntouched hobjects
  · intro hall
    have hfits := (@fits_created_iff calendar context now randomId).mpr fun row hdue =>
      (hall row hdue).1
    refine ⟨_, if_pos hfits, _, rfl, rfl, ?_⟩
    intro row hrow
    have hmem := mem_rows_executeDue calendar now randomId hrow
    obtain ⟨hone, hnone⟩ := length_filter_created_executeDue calendar now randomId hrow
    by_cases hdue : row ∈ context.dueRecurring now
    · rw [if_pos hdue] at hmem
      refine ⟨movedOn calendar now row, hmem, rfl, ?_, (hall row hdue).2⟩
      by_cases hobjects : ExecutorCall.HasObjects context row
      · exact Or.inl ⟨rfl, hone.mpr ⟨hdue, hobjects⟩⟩
      · exact Or.inr ⟨(hall row hdue).2 hobjects, hnone.mpr fun h => hobjects h.2⟩
    · rw [if_neg hdue] at hmem
      exact ⟨row, hmem, rfl, Or.inr ⟨rfl, hnone.mpr fun h => hdue h.1⟩, fun _ => rfl⟩

/-- The rent of a category that has been deleted. -/
def deletedCategoryContext : Context :=
  { dailyRentContext with categories := [] }

/-- The rule is moved on to the next day without a transaction. -/
theorem not_consumesWhatItBooks_deletedCategory :
    ¬ConsumesWhatItBooks (.gregorian 0) 1700049600000 (fun _ => 3) deletedCategoryContext := by
  rintro ⟨after, hafter, booked, -, -, hrows⟩
  have hrule : dailyRent 0 1700049600000 ∈ deletedCategoryContext.recurringTransactions.rows := by
    decide
  have hobjects : ¬ExecutorCall.HasObjects deletedCategoryContext (dailyRent 0 1700049600000) := by
    rintro ⟨⟨category, hmem, -⟩, -⟩
    exact absurd hmem List.not_mem_nil
  obtain ⟨row, hrow, -, -, huntouched⟩ := hrows _ hrule
  rw [huntouched hobjects] at hrow
  obtain rfl : executeDueTransactions (.gregorian 0) 1700049600000 (fun _ => 3)
      deletedCategoryContext = after := Option.some_inj.mp hafter
  exact absurd hrow (by decide)

end RecurringViewModel

end SpendCraft.Ios
