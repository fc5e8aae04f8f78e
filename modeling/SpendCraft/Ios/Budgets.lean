import SpendCraft.Ios.Recurring

/-!
# The Budgets of the iOS App

A `BudgetEntity` names its category twice: by the text of the category's id and by a
relation to the category. What is spent is summed in `Double`s, over all transactions of
the category.

## Conventions

A transaction belongs to a category if its relation points to the object; the text of an id plays
no part in the sums. `totalSpentForCategory` adds in the order of the list, and has no month. An
amount in major units is the rational number; where the rounding of `Double`s matters, a module
rounds it (`BudgetAgreement`, `MonthlyAlerts`).

## Main definitions

* `BudgetEntity`: a budget.
* `TransactionsViewModel.totalSpentForCategory`: what is spent.
* `BudgetViewModel.budgetProgress`: the share of the limit.
-/

namespace SpendCraft.Ios

open Kotlin

/-- A budget of the iOS store: the category is named twice, by the text of its id and by the
relation. -/
structure BudgetEntity where
  categoryId : Text
  monthlyLimitMinor : ℤ
  category : Option CategoryEntity
  deriving DecidableEq, Repr

/-- Whole amounts are exact. -/
theorem majorUnits_natCast {n : ℕ} (h : n * 100 < 2 ^ 53) : majorUnits ((n * 100 : ℕ) : ℤ) = n := by
  have hcast : (((n * 100 : ℕ) : ℤ) : ℚ) = ((n * 100 : ℕ) : ℚ) := Int.cast_natCast _
  have hdiv : ((n * 100 : ℕ) : ℚ) / 100 = n := by
    push_cast
    ring
  rw [majorUnits, hcast, Binary64.signedRounded_natCast h, hdiv,
    Binary64.signedRounded_natCast (by omega)]

namespace TransactionEntity

/-- The amount of a transaction in major units, a `Double` of the source. -/
def amount (transaction : TransactionEntity) : ℚ :=
  majorUnits transaction.amountMinor

end TransactionEntity

namespace TransactionsViewModel

/-- `transactionsForCategory`: the loaded transactions whose relation points to the category. -/
def transactionsForCategory (category : CategoryEntity) (transactions : List TransactionEntity) :
    List TransactionEntity :=
  transactions.filter fun transaction => transaction.categoryId == category.id

/-- `totalSpentForCategory`: the expenses of the category, added up as `Double`s in the order of
the list. -/
def totalSpentForCategory (category : CategoryEntity) (transactions : List TransactionEntity) :
    ℚ :=
  ((transactionsForCategory category transactions).filter fun transaction =>
    !transaction.isIncome).foldl
      (fun total transaction => Binary64.signedRounded (total + transaction.amount)) 0

end TransactionsViewModel

namespace BudgetViewModel

/-- `spentForCategory`: the budget screen asks the view model of the transactions. -/
def spentForCategory (category : CategoryEntity) (transactions : List TransactionEntity) : ℚ :=
  TransactionsViewModel.totalSpentForCategory category transactions

/-- `budgetProgress`: the share of the limit that is spent, at most 1, and 0 without a category or
a limit. -/
def budgetProgress (budget : BudgetEntity) (transactions : List TransactionEntity) : ℚ :=
  match budget.category with
  | none => 0
  | some category =>
      let spent := spentForCategory category transactions
      let limit := majorUnits budget.monthlyLimitMinor
      if limit > 0 then min (Binary64.signedRounded (spent / limit)) 1 else 0

end BudgetViewModel

end SpendCraft.Ios
