import SpendCraft.MoneyText

/-!
# The Totals of the Dashboards

Both dashboards show the income, the expenses and the balance of all transactions, which they add
up in doubles. The Android app turns a total into minor units again by multiplying with a hundred
and cutting off the fraction; the iOS app formats the double. Both apps are given the same
transactions.

## Conventions

The list is any list of transactions in any order, and the sums follow it. A total is a rational
number that a double holds; `minorUnits` multiplies, rounds and cuts off as the source does. The
balance of the Android app is a sum over signed amounts, that of the iOS app a difference of the
two totals. Texts are compared by the amount that they denote (`readAmount`), as in `MoneyText`.

`Moderate` bounds the number of the amounts times their volume, in minor units, by `2 ^ 46`, which
keeps the error of a sum below a sixteenth of a minor unit.

## Proof

The error of each sum is bounded by the library (`Binary64.abs_sum_sub_le`), and the exact total
is a whole number of minor units. So rounding to two decimals gives it back, while cutting off may
end one unit nearer to zero: `CutTo` has these cases.

## Main results

* `cutTo_minorUnits`: what the Android app makes of a total.
* `shows_totals`: what the two dashboards show, against the exact totals.
-/

namespace SpendCraft

open Kotlin Binary64 CurrencyFormatter
open Ios (majorUnits volume)

/-- The minor units of the transactions of a type. -/
def minorUnitsOf (type : TransactionType) (transactions : List Transaction) : List ℤ :=
  (transactions.filter fun tx => tx.type = type).map fun tx => tx.amount.minorUnits.toInt

/-- The minor units of a transaction, less than zero for an expense. -/
def signedMinorUnits (transaction : Transaction) : ℤ :=
  if transaction.type = .income then transaction.amount.minorUnits.toInt
  else -transaction.amount.minorUnits.toInt

/-! ### The Android dashboard -/

namespace DashboardViewModel

/-- The balance on the Android dashboard: the signed amounts, each in major units, added up in the
order of the list. -/
def currentBalance (transactions : List Transaction) : ℚ :=
  Binary64.sum (transactions.map fun tx =>
    if tx.type = .income then majorUnits tx.amount.minorUnits.toInt
    else -majorUnits tx.amount.minorUnits.toInt)

/-- The income on the Android dashboard. -/
def totalIncome (transactions : List Transaction) : ℚ :=
  Binary64.sum ((minorUnitsOf .income transactions).map majorUnits)

/-- The expenses on the Android dashboard. -/
def totalExpense (transactions : List Transaction) : ℚ :=
  Binary64.sum ((minorUnitsOf .expense transactions).map majorUnits)

end DashboardViewModel

namespace DashboardScreen

/-- `Double.toLong()`. -/
def toLong (x : ℚ) : ℤ :=
  max (-2 ^ 63) (min (2 ^ 63 - 1) (truncated x))

/-- `(total * 100).toLong()`. -/
def minorUnits (total : ℚ) : ℤ :=
  toLong (signedRounded (total * 100))

/-- The text of a total on the Android dashboard: the formatter gets the total cut back to minor
units. -/
def text (currency : Text) (total : ℚ) : Text :=
  CurrencyFormatter.format currency (minorUnits total)

end DashboardScreen

/-! ### The iOS dashboard -/

namespace Ios.TransactionsViewModel

/-- The income on the iOS dashboard: the same fold as on Android. -/
def totalIncome (transactions : List Transaction) : ℚ :=
  Binary64.sum ((minorUnitsOf .income transactions).map majorUnits)

/-- The expenses on the iOS dashboard. -/
def totalExpense (transactions : List Transaction) : ℚ :=
  Binary64.sum ((minorUnitsOf .expense transactions).map majorUnits)

/-- The balance on the iOS dashboard: one difference of the two rounded totals, where Android
folds over the signed amounts. -/
def currentBalance (transactions : List Transaction) : ℚ :=
  signedRounded (totalIncome transactions - totalExpense transactions)

end Ios.TransactionsViewModel

/-! ### Signs -/

/-- Rounding is symmetric about zero. -/
theorem signedRounded_neg (x : ℚ) : signedRounded (-x) = -signedRounded x := by
  rcases lt_trichotomy x 0 with h | rfl | h
  · rw [signedRounded, signedRounded, if_pos (by linarith), if_neg (by linarith), neg_neg]
  · rw [neg_zero, signedRounded_zero, neg_zero]
  · rw [signedRounded, signedRounded, if_neg (by linarith), if_pos h.le, neg_neg]

/-- The major units of a negated amount, as rounding is symmetric. -/
theorem majorUnits_neg (m : ℤ) : majorUnits (-m) = -majorUnits m := by
  rw [majorUnits, majorUnits, Int.cast_neg, signedRounded_neg, neg_div, signedRounded_neg]

/-- The Android balance is the rounded sum of the signed minor units. -/
theorem currentBalance_eq (transactions : List Transaction) :
    DashboardViewModel.currentBalance transactions =
      Binary64.sum ((transactions.map signedMinorUnits).map majorUnits) := by
  rw [DashboardViewModel.currentBalance, List.map_map]
  congr 1
  apply List.map_congr_left
  intro tx _
  rw [Function.comp_apply, signedMinorUnits]
  split
  · rfl
  · rw [majorUnits_neg]

/-- The exact balance is the exact income less the exact expenses. -/
theorem sum_signedMinorUnits (transactions : List Transaction) :
    (transactions.map signedMinorUnits).sum =
      (minorUnitsOf .income transactions).sum - (minorUnitsOf .expense transactions).sum := by
  induction transactions with
  | nil => rfl
  | cons tx transactions ih =>
      rw [List.map_cons, List.sum_cons, ih]
      cases htype : tx.type <;> simp [minorUnitsOf, signedMinorUnits, htype] <;> omega

/-! ### Errors -/

/-- The amounts are not too many for their size. -/
def Moderate (amounts : List ℤ) : Prop :=
  amounts.length * volume amounts ≤ 2 ^ 46

/-- The doubles of moderate amounts add up to less than a sixteenth of a minor unit off. -/
theorem abs_sum_majorUnits_mul_sub_lt {amounts : List ℤ} (h : Moderate amounts) :
    |Binary64.sum (amounts.map majorUnits) * 100 - amounts.sum| < 1 / 16 := by
  rw [Moderate] at h
  rcases (Ios.volume_nonneg amounts).eq_or_lt with hzero | hpos
  · have hnone : ∀ n ∈ amounts, n = 0 := by
      intro n hn
      have hle := Ios.abs_le_volume hn
      rw [← hzero] at hle
      exact abs_nonpos_iff.mp hle
    have hmajor : ∀ x ∈ amounts.map majorUnits, x = 0 := by
      intro x hx
      obtain ⟨n, hn, rfl⟩ := List.mem_map.mp hx
      rw [hnone n hn, Ios.majorUnits_zero]
    rw [Binary64.sum_eq_zero hmajor, List.sum_eq_zero hnone]
    norm_num
  · have hlength : (1 : ℤ) ≤ amounts.length := by
      have hne : amounts ≠ [] := by
        rintro rfl
        exact lt_irrefl 0 hpos
      exact_mod_cast List.length_pos_of_ne_nil hne
    have hsmall : volume amounts ≤ 2 ^ 46 := by nlinarith
    have hshort : (amounts.length : ℤ) ≤ 2 ^ 46 := by nlinarith
    have hq : (amounts.length : ℚ) * volume amounts ≤ 2 ^ 46 := by exact_mod_cast h
    have hsmallq : (volume amounts : ℚ) ≤ 2 ^ 46 := by exact_mod_cast hsmall
    have hshortq : (amounts.length : ℚ) ≤ 2 ^ 46 := by exact_mod_cast hshort
    have hposq : (1 : ℚ) ≤ volume amounts := by exact_mod_cast hpos
    obtain ⟨hsum, hsize⟩ := Ios.sum_map_majorUnits amounts (by omega)
    have herror := Binary64.abs_sum_sub_le hsize (by
      rw [List.length_map]
      linarith)
    rw [List.length_map] at herror
    obtain ⟨hsum, hsum'⟩ := abs_le.mp hsum
    obtain ⟨herror, herror'⟩ := abs_le.mp herror
    rw [abs_lt]
    constructor
    · linarith
    · linarith

/-- A moderate list adds up to less than `2 ^ 46` on either side of zero. -/
theorem abs_sum_le_of_moderate {amounts : List ℤ} (h : Moderate amounts) :
    |amounts.sum| ≤ 2 ^ 46 := by
  have hsum := Ios.abs_sum_le_volume amounts
  cases amounts with
  | nil => simp
  | cons m amounts =>
      have hvolume := Ios.volume_nonneg (m :: amounts)
      rw [Moderate, List.length_cons] at h
      push_cast at h
      nlinarith

/-- A part of a moderate list is moderate. -/
theorem Moderate.sublist {amounts amounts' : List ℤ} (h : Moderate amounts)
    (hsublist : amounts'.Sublist amounts) : Moderate amounts' := by
  have hlength : (amounts'.length : ℤ) ≤ amounts.length := by exact_mod_cast hsublist.length_le
  have hvolume : volume amounts' ≤ volume amounts :=
    (hsublist.map _).sum_le_sum fun x hx => by
      obtain ⟨n, -, rfl⟩ := List.mem_map.mp hx
      exact abs_nonneg n
  exact (mul_le_mul hlength hvolume (Ios.volume_nonneg _) (Int.natCast_nonneg _)).trans h

/-- Every amount of a moderate list is below the bound on its own. -/
theorem Moderate.abs_le {amounts : List ℤ} (h : Moderate amounts) {n : ℤ} (hn : n ∈ amounts) :
    |n| ≤ 2 ^ 46 := by
  have hone := abs_sum_le_of_moderate (h.sublist (List.singleton_sublist.mpr hn))
  rwa [List.sum_singleton] at hone

/-! ### Cutting off -/

/-- What may be left of an amount when the fraction of a number near it is cut off. -/
inductive CutTo (k : ℤ) : ℤ → Prop
  | exact : CutTo k k
  | below (h : 0 < k) : CutTo k (k - 1)
  | above (h : k < 0) : CutTo k (k + 1)

/-- Cutting towards zero is symmetric. -/
theorem CutTo.neg {k v : ℤ} (h : CutTo (-k) (-v)) : CutTo k v := by
  generalize hk : -k = k', hv : -v = v' at h
  cases h with
  | exact =>
      obtain rfl : v = k := by omega
      exact .exact
  | below h =>
      obtain rfl : v = k + 1 := by omega
      exact .above (by omega)
  | above h =>
      obtain rfl : v = k - 1 := by omega
      exact .below (by omega)

/-- Above zero, cutting towards zero is the floor. -/
theorem truncated_of_nonneg {x : ℚ} (h : 0 ≤ x) : truncated x = ⌊x⌋ := by
  rw [truncated, Int.tdiv_eq_ediv_of_nonneg (Rat.num_nonneg.mpr h), Rat.floor_def']

/-- Cutting towards zero commutes with the sign. -/
theorem truncated_neg (x : ℚ) : truncated (-x) = -truncated x := by
  rw [truncated, truncated, Rat.num_neg_eq_neg_num, Rat.den_neg_eq_den, Int.neg_tdiv]

/-- A value within one unit above or below `k` is cut to `k` or to the unit next to it towards
zero. -/
theorem cutTo_floor {x : ℚ} {k : ℤ} (hx : 0 ≤ x) (h : |x - k| < 1) : CutTo k ⌊x⌋ := by
  obtain ⟨hlower, hupper⟩ := abs_lt.mp h
  have hk : -1 < k := by
    have hlt : (-1 : ℚ) < k := by linarith
    exact_mod_cast hlt
  have hle : ⌊x⌋ ≤ k := Int.floor_le_iff.mpr (by linarith)
  have hge : k - 1 ≤ ⌊x⌋ := Int.le_floor.mpr (by push_cast; linarith)
  have hnonneg : 0 ≤ ⌊x⌋ := Int.floor_nonneg.mpr hx
  obtain heq | heq : ⌊x⌋ = k ∨ ⌊x⌋ = k - 1 := by omega
  · exact heq ▸ .exact
  · exact heq ▸ .below (by omega)

/-- The same on both sides of zero. -/
theorem cutTo_truncated {x : ℚ} {k : ℤ} (h : |x - k| < 1) : CutTo k (truncated x) := by
  rcases le_total 0 x with hx | hx
  · rw [truncated_of_nonneg hx]
    exact cutTo_floor hx h
  · have hneg : |-x - ((-k : ℤ) : ℚ)| < 1 := by
      rwa [Int.cast_neg, neg_sub_neg, abs_sub_comm]
    have hcut := cutTo_floor (by linarith) hneg
    rw [← truncated_of_nonneg (by linarith), truncated_neg] at hcut
    exact hcut.neg

/-- A cut value is never further from zero than the exact one. -/
theorem CutTo.abs_le {k v : ℤ} (h : CutTo k v) : |v| ≤ |k| := by
  cases h with
  | exact => exact le_rfl
  | below h => rw [abs_of_pos h, abs_of_nonneg (by omega)]; omega
  | above h => rw [abs_of_neg h, abs_of_nonpos (by omega)]; omega

/-- **The Android app loses at most one minor unit** of a total. -/
theorem cutTo_minorUnits {total : ℚ} {k : ℤ} (hk : |k| ≤ 2 ^ 46)
    (h : |total * 100 - k| < 1 / 16) : CutTo k (DashboardScreen.minorUnits total) := by
  have hkq : |(k : ℚ)| ≤ 2 ^ 46 := by exact_mod_cast hk
  have hproduct := abs_signedRounded_sub_le (total * 100)
  have hsize : |total * 100| ≤ 2 ^ 46 + 1 := by
    calc |total * 100| = |(total * 100 - k) + k| := by rw [sub_add_cancel]
      _ ≤ |total * 100 - k| + |(k : ℚ)| := abs_add_le _ _
      _ ≤ 2 ^ 46 + 1 := by linarith
  have hnear : |signedRounded (total * 100) - k| < 1 := by
    calc |signedRounded (total * 100) - k|
        ≤ |signedRounded (total * 100) - total * 100| + |total * 100 - k| := abs_sub_le _ _ _
      _ < 1 := by linarith
  have hcut := cutTo_truncated hnear
  have hbound := hcut.abs_le
  rwa [DashboardScreen.minorUnits, DashboardScreen.toLong, min_eq_right (by grind),
    max_eq_right (by grind)]

/-- The text of a total that is close to `k` minor units reads back as `k`, up to the cut. -/
theorem cutTo_readAmount_text (code : Text) {total : ℚ} {k : ℤ} (hk : |k| ≤ 2 ^ 46)
    (h : |total * 100 - k| < 1 / 16) :
    CutTo k (readAmount (DashboardScreen.text code total)) := by
  have hcut := cutTo_minorUnits hk h
  have hbound := hcut.abs_le
  rwa [DashboardScreen.text, readAmount_format code (by omega)]

/-! ### Totals -/

/-- The amounts of one type are no more than the transactions. -/
theorem length_minorUnitsOf_le (type : TransactionType) (transactions : List Transaction) :
    (minorUnitsOf type transactions).length ≤ (transactions.map signedMinorUnits).length := by
  rw [minorUnitsOf, List.length_map, List.length_map]
  exact List.length_filter_le _ _

/-- The sign of an amount does not change its size. -/
theorem abs_signedMinorUnits (tx : Transaction) :
    |signedMinorUnits tx| = |tx.amount.minorUnits.toInt| := by
  rw [signedMinorUnits]
  split
  · rfl
  · exact abs_neg _

/-- The amounts of one type have no more volume than all amounts together. -/
theorem volume_minorUnitsOf_le (type : TransactionType) (transactions : List Transaction) :
    volume (minorUnitsOf type transactions) ≤ volume (transactions.map signedMinorUnits) := by
  have hsigned : volume (transactions.map signedMinorUnits) =
      (transactions.map fun tx => |tx.amount.minorUnits.toInt|).sum := by
    rw [volume, List.map_map]
    exact congrArg List.sum (List.map_congr_left fun tx _ => abs_signedMinorUnits tx)
  rw [hsigned, volume, minorUnitsOf, List.map_map]
  exact (List.filter_sublist.map _).sum_le_sum fun x hx => by
    obtain ⟨tx, -, rfl⟩ := List.mem_map.mp hx
    exact abs_nonneg _

/-- A moderate list of transactions has moderate amounts of either type. -/
theorem Moderate.minorUnitsOf {transactions : List Transaction}
    (h : Moderate (transactions.map signedMinorUnits)) (type : TransactionType) :
    Moderate (minorUnitsOf type transactions) := by
  have hlength : ((SpendCraft.minorUnitsOf type transactions).length : ℤ) ≤
      (transactions.map signedMinorUnits).length := by
    exact_mod_cast length_minorUnitsOf_le type transactions
  exact (mul_le_mul hlength (volume_minorUnitsOf_le type transactions) (Ios.volume_nonneg _)
    (Int.natCast_nonneg _)).trans h

/-- The difference of two sums is still closer than half a minor unit. -/
theorem abs_difference_mul_sub_lt {incomes expenses : List ℤ} (h : Moderate incomes)
    (h' : Moderate expenses) :
    |signedRounded (Binary64.sum (incomes.map majorUnits) -
      Binary64.sum (expenses.map majorUnits)) * 100 - ((incomes.sum - expenses.sum : ℤ) : ℚ)| <
        1 / 2 := by
  have hincomes : |(incomes.sum : ℚ)| ≤ 2 ^ 46 := by exact_mod_cast abs_sum_le_of_moderate h
  have hexpenses : |(expenses.sum : ℚ)| ≤ 2 ^ 46 := by exact_mod_cast abs_sum_le_of_moderate h'
  obtain ⟨hincome, hincome'⟩ := abs_lt.mp (abs_sum_majorUnits_mul_sub_lt h)
  obtain ⟨hexpense, hexpense'⟩ := abs_lt.mp (abs_sum_majorUnits_mul_sub_lt h')
  obtain ⟨hlower, hupper⟩ := abs_le.mp hincomes
  obtain ⟨hlower', hupper'⟩ := abs_le.mp hexpenses
  have hsize : |Binary64.sum (incomes.map majorUnits) -
      Binary64.sum (expenses.map majorUnits)| ≤ 2 ^ 41 := by
    rw [abs_le]
    constructor
    · linarith
    · linarith
  obtain ⟨hrounding, hrounding'⟩ := abs_le.mp (abs_signedRounded_sub_le
    (Binary64.sum (incomes.map majorUnits) - Binary64.sum (expenses.map majorUnits)))
  rw [Int.cast_sub, abs_lt]
  constructor
  · linarith
  · linarith

/-- **What the dashboards show.** The Android app shows the totals, or a minor unit less of them;
the iOS app shows the sizes of the totals, so that a debt is shown as a balance of as much. -/
theorem shows_totals (code : Text) {transactions : List Transaction}
    (h : Moderate (transactions.map signedMinorUnits)) :
    (CutTo (minorUnitsOf .income transactions).sum (readAmount (DashboardScreen.text code
        (DashboardViewModel.totalIncome transactions))) ∧
      CutTo (minorUnitsOf .expense transactions).sum (readAmount (DashboardScreen.text code
        (DashboardViewModel.totalExpense transactions))) ∧
      CutTo (transactions.map signedMinorUnits).sum (readAmount (DashboardScreen.text code
        (DashboardViewModel.currentBalance transactions)))) ∧
    readAmount (Ios.formatCurrency code (getCurrencySymbol code)
      (Ios.TransactionsViewModel.totalIncome transactions)) =
        |(minorUnitsOf .income transactions).sum| ∧
    readAmount (Ios.formatCurrency code (getCurrencySymbol code)
      (Ios.TransactionsViewModel.totalExpense transactions)) =
        |(minorUnitsOf .expense transactions).sum| ∧
    readAmount (Ios.formatCurrency code (getCurrencySymbol code)
      (Ios.TransactionsViewModel.currentBalance transactions)) =
        |(transactions.map signedMinorUnits).sum| := by
  have hincome := abs_sum_majorUnits_mul_sub_lt (h.minorUnitsOf .income)
  have hexpense := abs_sum_majorUnits_mul_sub_lt (h.minorUnitsOf .expense)
  refine ⟨⟨?_, ?_, ?_⟩, ?_, ?_, ?_⟩
  · exact cutTo_readAmount_text code (abs_sum_le_of_moderate (h.minorUnitsOf .income)) hincome
  · exact cutTo_readAmount_text code (abs_sum_le_of_moderate (h.minorUnitsOf .expense)) hexpense
  · refine cutTo_readAmount_text code (abs_sum_le_of_moderate h) ?_
    rw [currentBalance_eq]
    exact abs_sum_majorUnits_mul_sub_lt h
  · exact readAmount_formatCurrency code (hincome.trans (by norm_num))
  · exact readAmount_formatCurrency code (hexpense.trans (by norm_num))
  · rw [sum_signedMinorUnits]
    exact readAmount_formatCurrency code
      (abs_difference_mul_sub_lt (h.minorUnitsOf .income) (h.minorUnitsOf .expense))

/-- A debt of 1900 liras, after an income of 29 kuruş. -/
def rentAndChange : List Transaction :=
  [{ id := some 1, amount := ⟨29⟩, timestampUtcMillis := 0, note := none, categoryId := none,
     accountId := some 1, type := .income },
    { id := some 2, amount := ⟨190000⟩, timestampUtcMillis := 1, note := none, categoryId := none,
      accountId := some 1, type := .expense }]

/-- The theorem at a rent and some change: the bounds hold there, and the three texts are
evaluated. -/
theorem shows_totals_rentAndChange :
    CutTo 29 (readAmount (DashboardScreen.text "TRY".toList
      (DashboardViewModel.totalIncome rentAndChange))) ∧
    CutTo (-189971) (readAmount (DashboardScreen.text "TRY".toList
      (DashboardViewModel.currentBalance rentAndChange))) ∧
    readAmount (Ios.formatCurrency "TRY".toList (getCurrencySymbol "TRY".toList)
      (Ios.TransactionsViewModel.currentBalance rentAndChange)) = 189971 := by
  have hmoderate : Moderate (rentAndChange.map signedMinorUnits) := by
    rw [Moderate]
    decide
  obtain ⟨⟨hincome, -, hbalance⟩, -, -, hbalance'⟩ := shows_totals "TRY".toList hmoderate
  exact ⟨hincome, hbalance, hbalance'⟩

-- 29 kuruş are shown as 28.
example : DashboardScreen.minorUnits (DashboardViewModel.totalIncome rentAndChange) = 28 := by
  decide +kernel

end SpendCraft
