import SpendCraft.CategoriesTab
import SpendCraft.Lib.Months
import Mathlib.Algebra.BigOperators.Ring.Finset
import Mathlib.Data.ZMod.Basic

/-!
# The Spending of a Month

`getSpentAmountsByCategory` sums the expenses of the current month once, into a map under
names; an expense whose category is not found goes under a name of its own. The breach check
sums them again for each budget, where such an expense has no name, and compares the sum
with the limit. All sums are `Long`s and wrap around.

Both read a list of transactions and a list of categories. Here the lists are any two.

## Conventions

The map and the check are given the same two lists, so that nothing has to be said about writes in
between. A month is that of the instant, in UTC. `exactSum` is the sum in integers, and every sum
of the source is that one modulo `2 ^ 64`. The text `Bilinmeyen` is the name under which the map
puts the expenses of no category; a budget may be stored under it, too.

## Proof

The map is filled by a fold, whose sums are those of the library (`SumsByKey`, `LinkedMap`): a sum
under each name that has expenses, and nothing else. The check sums the expenses of the categories
with the name, which is the same sum except for the name `Bilinmeyen`. For the thresholds, the
wrapped product with a hundred is compared with the exact one: `StaysAbove` says that no residue
of it falls below the threshold, and `keepsThreshold_of_lt` that none does for moderate sums.

## Main results

* `inMonth_iff`: the boundaries enclose the month.
* `sumsExpenses_spentByCategory`: every expense of the month is in just one sum of the map.
* `seesSame_iff`: when the check counts what the map has.
* `decidesExactly_iff`: when the thresholds are decided as the exact sum would decide them.
* `keepsThreshold_of_lt`: spending that is not too large is decided so.
-/

namespace SpendCraft

open Kotlin Calendar JavaTime BudgetRepositoryImpl

/-! ### The month -/

/-- An instant of the month of `now`. -/
def InMonth (now millis : ℤ) : Prop :=
  (utcDate millis).year = (utcDate now).year ∧ (utcDate millis).month = (utcDate now).month

/-- Whether a time is in the month is decided by its bounds. -/
instance (now millis : ℤ) : Decidable (InMonth now millis) :=
  inferInstanceAs (Decidable (_ ∧ _))

/-- **The boundaries** are the first instants of the month and of the next one. -/
theorem inMonth_iff {now millis : ℤ} :
    InMonth now millis ↔
      (getMonthBoundaries now).1 ≤ millis ∧ millis < (getMonthBoundaries now).2 := by
  have hday := atStartOfDay_utcDate millis
  rw [InMonth, ← LocalDate.monthIndex_eq_iff_year_month, LocalDate.monthIndex_eq_iff,
    getMonthBoundaries, atStartOfDay, atStartOfDay]
  rw [atStartOfDay] at hday
  constructor
  · rintro ⟨hfirst, hnext⟩
    refine ⟨?_, ?_⟩ <;> omega
  · rintro ⟨hfirst, hnext⟩
    refine ⟨?_, ?_⟩ <;> omega

/-- The expenses of the month. -/
def monthExpenses (now : ℤ) (transactions : List TransactionEntity) : List TransactionEntity :=
  transactions.filter fun tx => decide (InMonth now tx.timestampUtcMillis) && !tx.isIncome

/-- The filter of the code. -/
theorem filter_isMonthExpense (now : ℤ) (transactions : List TransactionEntity) :
    transactions.filter (isMonthExpense (getMonthBoundaries now)) =
      monthExpenses now transactions := by
  apply List.filter_congr
  intro tx _
  rw [isMonthExpense, ← Bool.decide_and, decide_eq_decide.mpr inMonth_iff.symm]

/-- The sum of the amounts, without wrapping around. -/
def exactSum (transactions : List TransactionEntity) : ℤ :=
  (transactions.map fun tx => tx.amountMinor.toInt).sum

variable {now : ℤ} {transactions : List TransactionEntity} {categories : List CategoryEntity}
  {name : Text}

/-! ### The map -/

open TransactionsRepositoryImpl

/-- The expenses of the month that belong under a name. -/
def expensesUnder (now : ℤ) (transactions : List TransactionEntity)
    (categories : List CategoryEntity) (name : Text) : List TransactionEntity :=
  (monthExpenses now transactions).filter fun tx =>
    decide ((categoryNameOf categories tx).getD "Bilinmeyen".toList = name)

/-- A map of sums that has each expense of the month in just one sum. -/
structure SumsExpenses (now : ℤ) (transactions : List TransactionEntity)
    (categories : List CategoryEntity) (sums : LinkedMap Text Int64) : Prop where
  isSome_iff : ∀ name, (sums.get name).isSome ↔
    expensesUnder now transactions categories name ≠ []
  sum_eq : ∀ name value, sums.get name = some value →
    value.toInt = (exactSum (expensesUnder now transactions categories name)).bmod (2 ^ 64)
  total_eq : (sums.rows.map fun entry => entry.2.toInt).sum ≡
    exactSum (monthExpenses now transactions) [ZMOD 2 ^ 64]

/-- The sum under a name. -/
theorem get_spentByCategory (name : Text) :
    (spentByCategory now transactions categories).get name =
      SumsByKey.total
        ((expensesUnder now transactions categories name).map TransactionEntity.amountMinor) := by
  rw [spentByCategory, LinkedMap.get_sums, SumsByKey.sumsByKey_apply, filter_isMonthExpense,
    expensesUnder]
  rfl

/-- An integer and what is left of it in a `Long` are the same modulo `2 ^ 64`. -/
theorem cast_bmod (n : ℤ) : ((n.bmod (2 ^ 64) : ℤ) : ZMod (2 ^ 64)) = n := by
  rw [ZMod.intCast_eq_intCast_iff_dvd_sub]
  exact Int.dvd_self_sub_bmod

/-- A map of `Long` sums has every entry in just one sum, modulo `2 ^ 64`. -/
theorem sum_toInt_sums {κ ε : Type*} [DecidableEq κ] (key : ε → κ) (value : ε → Int64)
    (entries : List ε) :
    ((LinkedMap.sums key value entries).rows.map fun entry => entry.2.toInt).sum ≡
      (entries.map fun x => (value x).toInt).sum [ZMOD 2 ^ 64] := by
  have hadd : ∀ a b : Int64, (((a + b).toInt : ℤ) : ZMod (2 ^ 64)) = a.toInt + b.toInt := by
    intro a b
    rw [Int64.toInt_add, cast_bmod, Int.cast_add]
  have hsum := LinkedMap.sum_sums (fun n : Int64 => (n.toInt : ZMod (2 ^ 64))) (by simp) hadd
    key value entries
  have hcast := ZMod.intCast_eq_intCast_iff
    ((LinkedMap.sums key value entries).rows.map fun entry => entry.2.toInt).sum
    (entries.map fun x => (value x).toInt).sum (2 ^ 64)
  rw [Int.cast_list_sum, Int.cast_list_sum, List.map_map, List.map_map] at hcast
  exact hcast.mp hsum

/-- A name has a sum just when there are expenses under it. -/
theorem isSome_get_spentByCategory_iff :
    ((spentByCategory now transactions categories).get name).isSome ↔
      expensesUnder now transactions categories name ≠ [] := by
  rw [get_spentByCategory, SumsByKey.total, List.isEmpty_map]
  cases expensesUnder now transactions categories name with
  | nil => simp
  | cons tx rest => simp

/-- A sum is that of the expenses under its name, as a `Long`. -/
theorem toInt_of_get_spentByCategory {value : Int64}
    (hvalue : (spentByCategory now transactions categories).get name = some value) :
    value.toInt = (exactSum (expensesUnder now transactions categories name)).bmod (2 ^ 64) := by
  rw [get_spentByCategory, SumsByKey.total] at hvalue
  split_ifs at hvalue
  obtain rfl := Option.some_inj.mp hvalue
  rw [toInt_foldl_add, Int64.toInt_zero, zero_add, List.map_map, exactSum]
  rfl

/-- **The map is conservative and complete.** -/
theorem sumsExpenses_spentByCategory (now : ℤ) (transactions : List TransactionEntity)
    (categories : List CategoryEntity) :
    SumsExpenses now transactions categories (spentByCategory now transactions categories) := by
  refine ⟨fun name => isSome_get_spentByCategory_iff,
    fun name value hvalue => toInt_of_get_spentByCategory hvalue, ?_⟩
  have hsum := sum_toInt_sums
    (fun tx => (categoryNameOf categories tx).getD "Bilinmeyen".toList)
    TransactionEntity.amountMinor (monthExpenses now transactions)
  rw [← filter_isMonthExpense, ← spentByCategory, filter_isMonthExpense] at hsum
  exact hsum

/-! ### The check -/

/-- The expenses of the month in the categories with a name. -/
def expensesNamed (now : ℤ) (transactions : List TransactionEntity)
    (categories : List CategoryEntity) (name : Text) : List TransactionEntity :=
  (monthExpenses now transactions).filter fun tx =>
    decide (categoryNameOf categories tx = some name)

/-- The expenses of the month whose category is not found. -/
def unresolvedExpenses (now : ℤ) (transactions : List TransactionEntity)
    (categories : List CategoryEntity) : List TransactionEntity :=
  (monthExpenses now transactions).filter fun tx =>
    decide (categoryNameOf categories tx = none)

/-- The spent amount is the exact sum, wrapped around to a `Long`. -/
theorem toInt_spentAmount_read :
    (spentAmount (Snapshot.read now transactions categories) name).toInt =
      (exactSum (expensesNamed now transactions categories name)).bmod (2 ^ 64) := by
  rw [spentAmount, Snapshot.read, filter_isMonthExpense, toInt_foldl_add, Int64.toInt_zero,
    zero_add, List.map_map, exactSum, expensesNamed]
  rfl

/-- What the map has under a name, where nothing counts as zero. -/
theorem toInt_get_spentByCategory :
    (((spentByCategory now transactions categories).get name).getD 0).toInt =
      (exactSum (expensesUnder now transactions categories name)).bmod (2 ^ 64) := by
  cases hget : (spentByCategory now transactions categories).get name with
  | some value => exact toInt_of_get_spentByCategory hget
  | none =>
      have hempty : expensesUnder now transactions categories name = [] := by
        by_contra hne
        have hsome := isSome_get_spentByCategory_iff.mpr hne
        rw [hget] at hsome
        exact Bool.false_ne_true hsome
      rw [hempty]
      rfl

/-- The expenses under another name than that of the unknown category. -/
theorem expensesUnder_of_ne (hname : name ≠ "Bilinmeyen".toList) :
    expensesUnder now transactions categories name =
      expensesNamed now transactions categories name := by
  apply List.filter_congr
  intro tx _
  rw [decide_eq_decide, Option.getD_eq_iff]
  constructor
  · rintro (hnamed | ⟨-, hunknown⟩)
    · exact hnamed
    · exact absurd hunknown.symm hname
  · exact Or.inl

/-- The name of the unknown category has both kinds of expenses. -/
theorem exactSum_expensesUnder_unknown :
    exactSum (expensesUnder now transactions categories "Bilinmeyen".toList) =
      exactSum (expensesNamed now transactions categories "Bilinmeyen".toList) +
        exactSum (unresolvedExpenses now transactions categories) := by
  have hsplit := List.sum_map_filter_add_sum_map_filter_not
    (fun tx => categoryNameOf categories tx = none)
    (fun tx : TransactionEntity => tx.amountMinor.toInt)
    (expensesUnder now transactions categories "Bilinmeyen".toList)
  have hunresolved : (expensesUnder now transactions categories "Bilinmeyen".toList).filter
      (fun tx => decide (categoryNameOf categories tx = none)) =
        unresolvedExpenses now transactions categories := by
    rw [expensesUnder, List.filter_filter]
    apply List.filter_congr
    intro tx _
    rw [← Bool.decide_and, decide_eq_decide, Option.getD_eq_iff]
    constructor
    · exact And.left
    · intro hnone
      exact ⟨hnone, Or.inr ⟨hnone, rfl⟩⟩
  have hnamed : (expensesUnder now transactions categories "Bilinmeyen".toList).filter
      (fun tx => decide ¬categoryNameOf categories tx = none) =
        expensesNamed now transactions categories "Bilinmeyen".toList := by
    rw [expensesUnder, List.filter_filter]
    apply List.filter_congr
    intro tx _
    rw [← Bool.decide_and, decide_eq_decide, Option.getD_eq_iff]
    constructor
    · rintro ⟨hsome, hnamed | ⟨hnone, -⟩⟩
      · exact hnamed
      · exact absurd hnone hsome
    · intro hnamed
      exact ⟨by rw [hnamed]; exact Option.some_ne_none _, Or.inl hnamed⟩
  rw [hunresolved, hnamed] at hsplit
  rw [exactSum, ← hsplit, add_comm, exactSum, exactSum]

/-- The check counts for each budget what the map has under its key. -/
def SeesSame (now : ℤ) (transactions : List TransactionEntity) (categories : List CategoryEntity)
    (budgets : List BudgetEntity) : Prop :=
  ∀ budget ∈ budgets,
    spentAmount (Snapshot.read now transactions categories) budget.categoryId =
      ((spentByCategory now transactions categories).get budget.categoryId).getD 0

/-- One key. -/
theorem spentAmount_eq_get_iff :
    spentAmount (Snapshot.read now transactions categories) name =
        ((spentByCategory now transactions categories).get name).getD 0 ↔
      name ≠ "Bilinmeyen".toList ∨
        (2 ^ 64 : ℤ) ∣ exactSum (unresolvedExpenses now transactions categories) := by
  rw [← Int64.toInt_inj, toInt_spentAmount_read, toInt_get_spentByCategory]
  by_cases hname : name = "Bilinmeyen".toList
  · rw [hname, exactSum_expensesUnder_unknown]
    have hcancel : ∀ a b : ℤ, a.bmod (2 ^ 64) = (a + b).bmod (2 ^ 64) ↔ (2 ^ 64 : ℤ) ∣ b := by
      intro a b
      have hdvd := ZMod.intCast_eq_intCast_iff_dvd_sub a (a + b) (2 ^ 64)
      rw [add_sub_cancel_left] at hdvd
      constructor
      · intro h
        have hcast := congrArg (fun n : ℤ => (n : ZMod (2 ^ 64))) h
        simp only [cast_bmod] at hcast
        exact hdvd.mp hcast
      · intro h
        rw [Int.add_bmod, Int.bmod_eq_zero_of_dvd h, add_zero, Int.bmod_bmod]
    rw [hcancel]
    exact ⟨Or.inr, fun h => h.resolve_left (fun hne => hne rfl)⟩
  · rw [expensesUnder_of_ne hname]
    exact iff_of_true rfl (Or.inl hname)

/-- **The check and the map agree** just when no budget is kept under the name of the unknown
category, or the expenses without a category do not count. -/
theorem seesSame_iff (budgets : List BudgetEntity) :
    SeesSame now transactions categories budgets ↔
      (∀ budget ∈ budgets, budget.categoryId ≠ "Bilinmeyen".toList) ∨
        (2 ^ 64 : ℤ) ∣ exactSum (unresolvedExpenses now transactions categories) := by
  rw [SeesSame]
  simp only [spentAmount_eq_get_iff]
  constructor
  · intro h
    by_cases hdvd : (2 ^ 64 : ℤ) ∣ exactSum (unresolvedExpenses now transactions categories)
    · exact Or.inr hdvd
    · exact Or.inl fun budget hbudget => (h budget hbudget).resolve_right hdvd
  · rintro (hnames | hdvd) budget hbudget
    · exact Or.inl (hnames budget hbudget)
    · exact Or.inr hdvd

/-- A category has the name that stands for unknown ones, and an expense has no category. -/
theorem not_seesSame_unknown :
    ¬SeesSame 0
      [{ id := 1, amountMinor := 500, timestampUtcMillis := 0, note := none, categoryId := none,
         accountId := none, isIncome := false }]
      [{ id := 1, name := "Bilinmeyen".toList, color := [], icon := none, isIncome := false }]
      [{ categoryId := "Bilinmeyen".toList, monthlyLimitMinor := 500 }] := by
  intro h
  exact absurd (h _ (List.mem_singleton_self _)) (by decide)

/-! ### The thresholds -/

/-- The branches that the check takes are those of the exact sum. -/
structure DecidesExactly (now : ℤ) (transactions : List TransactionEntity)
    (categories : List CategoryEntity) (budget : BudgetEntity) : Prop where
  exceeded_iff :
    (∃ m, breach (Snapshot.read now transactions categories) budget = some m ∧ m.level = 100) ↔
      budget.monthlyLimitMinor.toInt ≤
        exactSum (expensesNamed now transactions categories budget.categoryId)
  warning_iff :
    (∃ m, breach (Snapshot.read now transactions categories) budget = some m ∧ m.level = 80) ↔
      exactSum (expensesNamed now transactions categories budget.categoryId) <
          budget.monthlyLimitMinor.toInt ∧
        80 * budget.monthlyLimitMinor.toInt ≤
          100 * exactSum (expensesNamed now transactions categories budget.categoryId)

/-- No number from `-2 ^ 63` on that is `n` modulo `2 ^ 64` lies below the threshold. -/
def StaysAbove (threshold n : ℤ) : Prop :=
  ∀ r, r ≡ n [ZMOD 2 ^ 64] → -2 ^ 63 ≤ r → threshold ≤ r

/-- A hundred times the spending stays above the highest threshold that the spending has
reached. -/
structure KeepsThreshold (spending limit : ℤ) : Prop where
  exceeded : limit ≤ spending → StaysAbove (100 * limit) (100 * spending)
  warning : spending < limit → 80 * limit ≤ 100 * spending →
    StaysAbove (80 * limit) (100 * spending)

/-- What is left of a number in a `Long` is the least of its residues from `-2 ^ 63` on. -/
theorem staysAbove_iff {threshold n : ℤ} :
    StaysAbove threshold n ↔ threshold ≤ n.bmod (2 ^ 64) := by
  have hlow : -2 ^ 63 ≤ n.bmod (2 ^ 64) := Int.le_bmod (by decide)
  have hhigh : n.bmod (2 ^ 64) < 2 ^ 63 := Int.bmod_lt (by decide)
  have hself : n.bmod (2 ^ 64) ≡ n [ZMOD 2 ^ 64] :=
    (Int.modEq_iff_dvd.mpr Int.dvd_self_sub_bmod)
  constructor
  · intro h
    exact h _ hself hlow
  · intro hle r hr hr_low
    obtain ⟨q, hq⟩ := Int.modEq_iff_dvd.mp (hself.trans hr.symm)
    omega

/-- Spending that is not that large is safe. -/
theorem keepsThreshold_of_lt {spending limit : ℤ} (hnonneg : 0 ≤ spending)
    (hlt : 100 * spending < 2 ^ 63) : KeepsThreshold spending limit := by
  have hfits : (100 * spending).bmod (2 ^ 64) = 100 * spending :=
    Int.bmod_eq_of_le (by omega) (by omega)
  refine ⟨?_, ?_⟩
  · intro hreached
    rw [staysAbove_iff, hfits]
    omega
  · intro _ hreached
    rw [staysAbove_iff, hfits]
    omega

/-- A `Long` is at most the nonnegative number it is left of. -/
theorem bmod_le_self {n : ℤ} (h : 0 ≤ n) : n.bmod (2 ^ 64) ≤ n := by
  rw [Int.bmod_def]
  split_ifs <;> omega

/-- The comparisons of the wrapped product with the two thresholds, and those of the exact
one. -/
theorem keepsThreshold_iff {spending limit : ℤ} (hnonneg : 0 ≤ spending) :
    KeepsThreshold spending limit ↔
      (100 * limit ≤ (100 * spending).bmod (2 ^ 64) ↔ limit ≤ spending) ∧
        ((100 * spending).bmod (2 ^ 64) < 100 * limit ∧
            80 * limit ≤ (100 * spending).bmod (2 ^ 64) ↔
          spending < limit ∧ 80 * limit ≤ 100 * spending) := by
  have hle := bmod_le_self (Int.mul_nonneg (show (0 : ℤ) ≤ 100 by decide) hnonneg)
  constructor
  · rintro ⟨hexceeded, hwarning⟩
    have hkeep100 := fun hreached => staysAbove_iff.mp (hexceeded hreached)
    have hkeep80 := fun hlt hreached => staysAbove_iff.mp (hwarning hlt hreached)
    refine ⟨⟨?_, hkeep100⟩, ⟨?_, ?_⟩⟩
    · intro hreached
      omega
    · rintro ⟨hnot100, hreached⟩
      have hlt : spending < limit := by
        by_contra hge
        have hkept := hkeep100 (not_lt.mp hge)
        omega
      refine ⟨hlt, ?_⟩
      omega
    · rintro ⟨hlt, hreached⟩
      have hkept := hkeep80 hlt hreached
      refine ⟨?_, hkept⟩
      omega
  · rintro ⟨hexceeded, hwarning⟩
    refine ⟨?_, ?_⟩
    · intro hreached
      exact staysAbove_iff.mpr (hexceeded.mpr hreached)
    · intro hlt hreached
      exact staysAbove_iff.mpr (hwarning.mpr ⟨hlt, hreached⟩).2

/-- Amounts that are not negative have such a sum. -/
theorem exactSum_nonneg {l : List TransactionEntity} (h : ∀ tx ∈ l, 0 ≤ tx.amountMinor) :
    0 ≤ exactSum l := by
  apply List.sum_nonneg
  intro n hn
  obtain ⟨tx, htx, rfl⟩ := List.mem_map.mp hn
  have hamount := h tx htx
  rwa [Int64.le_iff_toInt_le] at hamount

/-- The branches of the check, by the product that is divided. -/
theorem breach_levels {snapshot : Snapshot} {budget : BudgetEntity}
    (hlimit : 0 < budget.monthlyLimitMinor) :
    ((∃ m, breach snapshot budget = some m ∧ m.level = 100) ↔
        100 * budget.monthlyLimitMinor.toInt ≤
          (spentAmount snapshot budget.categoryId * 100).toInt) ∧
      ((∃ m, breach snapshot budget = some m ∧ m.level = 80) ↔
        (spentAmount snapshot budget.categoryId * 100).toInt <
            100 * budget.monthlyLimitMinor.toInt ∧
          80 * budget.monthlyLimitMinor.toInt ≤
            (spentAmount snapshot budget.categoryId * 100).toInt) := by
  have hhundred := @le_percentage_iff (spentAmount snapshot budget.categoryId)
    budget.monthlyLimitMinor 100 hlimit (by decide)
  have heighty := @le_percentage_iff (spentAmount snapshot budget.categoryId)
    budget.monthlyLimitMinor 80 hlimit (by decide)
  rw [show (100 : Int64).toInt = 100 from rfl] at hhundred
  rw [show (80 : Int64).toInt = 80 from rfl] at heighty
  rw [← not_le, ← hhundred, ← heighty, breach]
  split_ifs with h100 h80
  · simp [BreachMessage.level, h100]
  · simp [BreachMessage.level, h100, h80]
  · simp [h100, h80]

/-- **The thresholds are decided exactly** just when the hundredfold spending stays above the
one that was reached. -/
theorem decidesExactly_iff {budget : BudgetEntity}
    (hamounts : ∀ tx ∈ transactions, 0 ≤ tx.amountMinor)
    (hlimit : 0 < budget.monthlyLimitMinor) :
    DecidesExactly now transactions categories budget ↔
      KeepsThreshold (exactSum (expensesNamed now transactions categories budget.categoryId))
        budget.monthlyLimitMinor.toInt := by
  obtain ⟨hexceeded, hwarning⟩ := @breach_levels
    (Snapshot.read now transactions categories) budget hlimit
  have hproduct : (spentAmount (Snapshot.read now transactions categories) budget.categoryId *
      100).toInt = (100 * exactSum (expensesNamed now transactions categories
        budget.categoryId)).bmod (2 ^ 64) := by
    have hhundred : (100 : Int64).toInt = 100 := rfl
    rw [Int64.toInt_mul, toInt_spentAmount_read, hhundred, Int.bmod_mul_bmod, mul_comm]
  have hnonneg : 0 ≤ exactSum (expensesNamed now transactions categories budget.categoryId) :=
    exactSum_nonneg fun tx htx => hamounts tx
      (List.mem_of_mem_filter (List.mem_of_mem_filter htx))
  rw [hproduct] at hexceeded hwarning
  constructor
  · rintro ⟨hexceeded', hwarning'⟩
    exact (keepsThreshold_iff hnonneg).mpr
      ⟨hexceeded.symm.trans hexceeded', hwarning.symm.trans hwarning'⟩
  · intro hkeeps
    obtain ⟨hexceeded', hwarning'⟩ := (keepsThreshold_iff hnonneg).mp hkeeps
    exact ⟨hexceeded.trans hexceeded', hwarning.trans hwarning'⟩

/-- An expense of a category. -/
def foodExpense (amountMinor : Int64) : TransactionEntity :=
  { id := 1, amountMinor := amountMinor, timestampUtcMillis := 0, note := none,
    categoryId := some 1, accountId := none, isIncome := false }

/-- The category that the budget is for. -/
def foodCategory : CategoryEntity :=
  { id := 1, name := "Food".toList, color := [], icon := none, isIncome := false }

/-- The theorem at an expense of 4.50 against a limit of 5. -/
theorem decidesExactly_food :
    DecidesExactly 0 [foodExpense 450] [foodCategory]
        { categoryId := "Food".toList, monthlyLimitMinor := 500 } ↔
      KeepsThreshold (exactSum (expensesNamed 0 [foodExpense 450] [foodCategory] "Food".toList))
        500 :=
  decidesExactly_iff (by decide) (by decide)

/-- The largest amount: a hundred times as much wraps around to a negative number. -/
theorem not_decidesExactly_largest :
    ¬DecidesExactly 0 [foodExpense 9223372036854775807] [foodCategory]
      { categoryId := "Food".toList, monthlyLimitMinor := 500 } := by
  rintro ⟨hexceeded, -⟩
  have hspending : exactSum (expensesNamed 0 [foodExpense 9223372036854775807] [foodCategory]
      "Food".toList) = 9223372036854775807 := by
    decide
  have hnone : breach (Snapshot.read 0 [foodExpense 9223372036854775807] [foodCategory])
      { categoryId := "Food".toList, monthlyLimitMinor := 500 } = none := by
    decide
  rw [hspending, hnone] at hexceeded
  obtain ⟨m, hm, -⟩ := hexceeded.mpr (by decide)
  cases hm

end SpendCraft
