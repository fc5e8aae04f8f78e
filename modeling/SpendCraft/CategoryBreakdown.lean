import SpendCraft.ExpenseShares
import SpendCraft.Lib.Rekeying

/-!
# The Spending Breakdown of the AI Suggestions

The route of the AI suggestions sums the expenses by their nullable category id and then
renames the ids. Where two ids get one name, a later sum replaces an earlier one. The prompt
lists what is left, each amount with its percentage of the total; percentages are computed
exactly here.

## Conventions

Sums are kept in a map whose keys are the ids, in the order of the first expense, and renaming the
keys puts the values under their new names one after the other. Amounts are `Long`s that wrap. A
category that is missing and a category that was deleted are both renamed to the text
`Bilinmeyen`, and so is one of that name.

The property `WholeExpense` has three parts: the amounts of the breakdown, the amount of each
name, and the percentages. The condition `NothingOverwritten` is about the expenses.

## Proof

The library module `Rekeying` says which sum a name ends up with: that of its last id. What is
lost is `overwrittenExpenses`, and the name carries its expenses just when their sum is zero in 64
bits. The percentages are quotients by the total, so they add up to a hundred when the sums add up
to the total and it is positive; where it is not, the prompt writes zeros.

## Main results

* `get_categoryBreakdown_iff`: when a name carries all of its expenses.
* `wholeExpense_iff`: when the breakdown accounts for the whole expense.
-/

namespace SpendCraft

open Kotlin Relational Grouping
open ReportsScreen (expenses sumOf totalExpense longSum longSum_modEq longSum_mem toInt_sumOf
  pos_iff)

/-! ### The route -/

namespace AppNavHost

/-- `categories.find { it.id == categoryId }?.name ?: "Bilinmeyen"` -/
def categoryName (categories : List Category) (categoryId : Option ℤ) : Text :=
  ((categories.find? fun c => c.id == categoryId).map Category.name).getD "Bilinmeyen".toList

/-- `categoryBreakdown`: the sums by category id under the names of the categories. Of ids with
one name, the last one counts. -/
def categoryBreakdown (transactions : List Transaction) (categories : List Category) :
    LinkedMap Text Int64 :=
  (LinkedMap.sums Transaction.categoryId (fun tx => tx.amount.minorUnits)
    (expenses transactions)).mapKeys (categoryName categories)

end AppNavHost

/-! ### The prompt -/

namespace GroqClient

/-- What a line of the prompt writes down. -/
structure SpendingLine where
  category : Text
  amount : Int64
  percentage : ℚ

/-- `amount.toFloat() / totalExpense.toFloat() * 100`, exactly. -/
def percentage (totalExpense amount : Int64) : ℚ :=
  if 0 < totalExpense then amount.toInt / totalExpense.toInt * 100 else 0

/-- The lines that `generateSpendingAdvice` appends for the categories. -/
def spendingLines (categoryBreakdown : LinkedMap Text Int64) (totalExpense : Int64) :
    List SpendingLine :=
  categoryBreakdown.rows.map fun entry => ⟨entry.1, entry.2, percentage totalExpense entry.2⟩

end GroqClient

open AppNavHost GroqClient

section Breakdown

variable (transactions : List Transaction) (categories : List Category)

/-! ### What the breakdown should hold -/

/-- The expenses that resolve to a name. -/
def expensesResolving (name : Text) : List Transaction :=
  group (fun tx => categoryName categories tx.categoryId) (expenses transactions) name

/-- The amounts sum to the total, each name carries its expenses, and the percentages sum to
a hundred. -/
structure WholeExpense : Prop where
  total : ((categoryBreakdown transactions categories).rows.map fun entry =>
    entry.2.toInt).sum = (totalExpense transactions).toInt
  named : ∀ name, (categoryBreakdown transactions categories).get name =
    SumsByKey.total ((expensesResolving transactions categories name).map fun tx =>
      tx.amount.minorUnits)
  percentages : ((spendingLines (categoryBreakdown transactions categories)
    (totalExpense transactions)).map SpendingLine.percentage).sum = 100

/-- The expenses under a name whose category is not the last one with this name. -/
def overwrittenExpenses (name : Text) : List Transaction :=
  LinkedMap.overwritten Transaction.categoryId (categoryName categories)
    (expenses transactions) name

/-- The names that the expenses resolve to. -/
def expenseNames : List Text :=
  LinkedMap.firstKeys ((expenses transactions).map fun tx =>
    categoryName categories tx.categoryId)

/-- Nothing is lost under a name, and the sums are those of a positive total. -/
structure NothingOverwritten : Prop where
  total_pos : 0 < longSum (expenses transactions)
  overwritten : ∀ name, longSum (overwrittenExpenses transactions categories name) = 0
  fits : ((expenseNames transactions categories).map fun name =>
    longSum (expensesResolving transactions categories name)).sum ∈ Set.Ico (-2 ^ 63) (2 ^ 63)

/-! ### The names -/

variable {transactions categories}

/-- The total of no entries is absent, any other is the `Long` sum. -/
theorem total_minorUnits (entries : List Transaction) :
    SumsByKey.total (entries.map fun tx => tx.amount.minorUnits) =
      if entries = [] then none else some (sumOf entries) := by
  rw [SumsByKey.total, List.isEmpty_map]
  cases entries with
  | nil => rfl
  | cons tx entries => rfl

/-- What is kept and what is lost make up the sum of all, up to multiples of `2 ^ 64`. -/
theorem longSum_perm_append {kept lost all : List Transaction}
    (h : (kept ++ lost).Perm all) : longSum all ≡ longSum kept + longSum lost [ZMOD 2 ^ 64] := by
  have hsum := (h.map fun tx => tx.amount.minorUnits.toInt).sum_eq
  rw [List.map_append, List.sum_append] at hsum
  refine (longSum_modEq all).trans ?_
  rw [← hsum]
  exact ((longSum_modEq kept).add (longSum_modEq lost)).symm

/-- Two numbers that a `Long` holds are equal when they are so modulo `2 ^ 64`. -/
theorem eq_of_modEq {m n : ℤ} (hm : m ∈ Set.Ico (-2 ^ 63) (2 ^ 63))
    (hn : n ∈ Set.Ico (-2 ^ 63) (2 ^ 63)) (h : m ≡ n [ZMOD 2 ^ 64]) : m = n := by
  obtain ⟨hm_le, hm_lt⟩ := hm
  obtain ⟨hn_le, hn_lt⟩ := hn
  rw [Int.ModEq] at h
  omega

/-- **A name carries all of its expenses** just when the overwritten ones sum to nothing. -/
theorem get_categoryBreakdown_iff (name : Text) :
    (categoryBreakdown transactions categories).get name =
        SumsByKey.total ((expensesResolving transactions categories name).map fun tx =>
          tx.amount.minorUnits) ↔
      longSum (overwrittenExpenses transactions categories name) = 0 := by
  rw [categoryBreakdown, LinkedMap.get_mapKeys_sums, total_minorUnits]
  rcases hlast : LinkedMap.lastKey Transaction.categoryId (categoryName categories)
    (expenses transactions) name with _ | categoryId
  · have hnil := LinkedMap.lastKey_eq_none_iff.mp hlast
    have hlost : overwrittenExpenses transactions categories name = [] := by
      rw [overwrittenExpenses, LinkedMap.overwritten, hnil, List.filter_nil]
    rw [expensesResolving, if_pos hnil, hlost]
    exact iff_of_true rfl rfl
  · have hne : expensesResolving transactions categories name ≠ [] := by
      intro hnil
      rw [LinkedMap.lastKey_eq_none_iff.mpr hnil] at hlast
      cases hlast
    have hperm := LinkedMap.group_lastKey_append_overwritten hlast
    obtain ⟨⟨tx, htx, hid⟩, -⟩ := LinkedMap.exists_of_lastKey hlast
    have hkept : group Transaction.categoryId (expenses transactions) categoryId ≠ [] :=
      List.ne_nil_of_mem (mem_group.mpr ⟨htx, hid⟩)
    have hmod : longSum (expensesResolving transactions categories name) ≡
        longSum (group Transaction.categoryId (expenses transactions) categoryId) +
          longSum (overwrittenExpenses transactions categories name) [ZMOD 2 ^ 64] :=
      longSum_perm_append hperm
    rw [Option.bind_some, total_minorUnits, if_neg hkept, if_neg hne, Option.some.injEq,
      ← Int64.toInt_inj, toInt_sumOf, toInt_sumOf]
    constructor
    · intro heq
      rw [← heq] at hmod
      refine eq_of_modEq (longSum_mem _) (by decide) ?_
      have hsub := hmod.sub_right
        (longSum (group Transaction.categoryId (expenses transactions) categoryId))
      rw [sub_self, add_sub_cancel_left] at hsub
      exact hsub.symm
    · intro hzero
      rw [hzero, add_zero] at hmod
      exact eq_of_modEq (longSum_mem _) (longSum_mem _) hmod.symm

/-- The sums by name, without the detour over the categories. -/
theorem map_rows_sums_categoryName :
    ((LinkedMap.sums (fun tx : Transaction => categoryName categories tx.categoryId)
      (fun tx => tx.amount.minorUnits) (expenses transactions)).rows.map fun entry =>
        entry.2.toInt) =
      (expenseNames transactions categories).map fun name =>
        longSum (expensesResolving transactions categories name) := by
  rw [expenseNames, ← @LinkedMap.keys_sums _ _ _ _ _ _
    (fun tx : Transaction => categoryName categories tx.categoryId)
    (fun tx => tx.amount.minorUnits), List.map_map]
  apply List.map_congr_left
  intro entry hentry
  have hget := LinkedMap.get_eq_some_iff.mpr hentry
  rw [LinkedMap.get_sums, SumsByKey.sumsByKey_apply] at hget
  have htotal : SumsByKey.total ((expensesResolving transactions categories entry.1).map
      fun tx => tx.amount.minorUnits) = some entry.2 := hget
  rw [total_minorUnits] at htotal
  split_ifs at htotal
  rw [Function.comp_apply, ← toInt_sumOf, Option.some.inj htotal]

/-- The amounts of a breakdown in which nothing is overwritten. -/
theorem sum_categoryBreakdown
    (h : ∀ name, longSum (overwrittenExpenses transactions categories name) = 0) :
    ((categoryBreakdown transactions categories).rows.map fun entry => entry.2.toInt).sum =
      ((expenseNames transactions categories).map fun name =>
        longSum (expensesResolving transactions categories name)).sum := by
  have hget : ∀ name, (categoryBreakdown transactions categories).get name =
      (LinkedMap.sums (fun tx : Transaction => categoryName categories tx.categoryId)
        (fun tx => tx.amount.minorUnits) (expenses transactions)).get name := by
    intro name
    rw [(get_categoryBreakdown_iff name).mpr (h name), LinkedMap.get_sums,
      SumsByKey.sumsByKey_apply]
    rfl
  have hperm := (LinkedMap.perm_of_get_eq hget).map fun entry => entry.2.toInt
  rw [hperm.sum_eq, map_rows_sums_categoryName]

/-- All names together have all expenses, modulo `2 ^ 64`. -/
theorem sum_expenseNames_modEq :
    ((expenseNames transactions categories).map fun name =>
        longSum (expensesResolving transactions categories name)).sum ≡
      longSum (expenses transactions) [ZMOD 2 ^ 64] := by
  rw [← map_rows_sums_categoryName]
  exact (sum_toInt_sums _ _ _).trans (longSum_modEq _).symm

/-! ### The percentages -/

/-- With a positive total, the percentages add up in the ratio of the sums to it. -/
theorem sum_spendingLines {totalExpense : Int64} (hpos : 0 < totalExpense)
    (breakdown : LinkedMap Text Int64) :
    ((spendingLines breakdown totalExpense).map SpendingLine.percentage).sum =
      ((breakdown.rows.map fun entry => entry.2.toInt).sum : ℤ) / totalExpense.toInt * 100 := by
  rw [spendingLines, List.map_map]
  induction breakdown.rows with
  | nil => simp
  | cons entry rows ih =>
      rw [List.map_cons, List.sum_cons, ih, Function.comp_apply, percentage, if_pos hpos,
        List.map_cons, List.sum_cons]
      push_cast
      ring

/-- Without a positive total, every percentage is zero. -/
theorem sum_spendingLines_of_not_pos {totalExpense : Int64} (hpos : ¬ 0 < totalExpense)
    (breakdown : LinkedMap Text Int64) :
    ((spendingLines breakdown totalExpense).map SpendingLine.percentage).sum = 0 := by
  rw [spendingLines, List.map_map]
  induction breakdown.rows with
  | nil => rfl
  | cons entry rows ih =>
      rw [List.map_cons, List.sum_cons, ih, Function.comp_apply, percentage, if_neg hpos,
        add_zero]

/-- **The whole expense** is accounted for just when the total is positive and nothing is
overwritten under a name. -/
theorem wholeExpense_iff :
    WholeExpense transactions categories ↔ NothingOverwritten transactions categories := by
  have htotal : (totalExpense transactions).toInt = longSum (expenses transactions) :=
    toInt_sumOf _
  constructor
  · rintro ⟨hsum, hnamed, hpercentages⟩
    have hkept : ∀ name, longSum (overwrittenExpenses transactions categories name) = 0 :=
      fun name => (get_categoryBreakdown_iff name).mp (hnamed name)
    have hpos : 0 < totalExpense transactions := by
      by_contra hpos
      rw [sum_spendingLines_of_not_pos hpos] at hpercentages
      norm_num at hpercentages
    refine ⟨by rwa [← htotal, ← pos_iff], hkept, ?_⟩
    rw [← sum_categoryBreakdown hkept, hsum, htotal]
    exact longSum_mem _
  · rintro ⟨hpos, hkept, hfits⟩
    have hsum : ((categoryBreakdown transactions categories).rows.map fun entry =>
        entry.2.toInt).sum = (totalExpense transactions).toInt := by
      rw [sum_categoryBreakdown hkept, htotal]
      exact eq_of_modEq hfits (longSum_mem _) sum_expenseNames_modEq
    rw [← htotal] at hpos
    refine ⟨hsum, fun name => (get_categoryBreakdown_iff name).mpr (hkept name), ?_⟩
    have hne : ((totalExpense transactions).toInt : ℚ) ≠ 0 := by exact_mod_cast hpos.ne'
    rw [sum_spendingLines (pos_iff.mpr hpos), hsum, div_self hne, one_mul]

end Breakdown

/-- A lunch without a category and a ticket whose category was deleted. -/
def unknownExpenses : List Transaction :=
  [{ id := some 1
     amount := { minorUnits := 30000 }
     timestampUtcMillis := 0
     note := none
     categoryId := none
     accountId := none
     type := .expense },
   { id := some 2
     amount := { minorUnits := 5000 }
     timestampUtcMillis := 0
     note := none
     categoryId := some 9
     accountId := none
     type := .expense }]

/-- Both are unknown, and only the ticket is left. -/
theorem not_wholeExpense_unknown : ¬ WholeExpense unknownExpenses [] := by
  intro hwhole
  have htotal := hwhole.total
  revert htotal
  decide

end SpendCraft
