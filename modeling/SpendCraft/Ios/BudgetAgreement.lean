import SpendCraft.BudgetBreaches
import SpendCraft.Ios.Budgets
import SpendCraft.Lib.Binary64Sum
import Mathlib.Algebra.BigOperators.Ring.List

/-!
# Monthly Budgets of the Two Apps

Android compares the limit of a budget with the expenses of the category in the current
month, in minor units. The iOS app adds up all expenses of the category, in `Double`s. Both
apps are given the same rows here.

## Conventions

Both apps are given the rows of the same table, as transactions and as objects, and the iOS app
has them in an order of its own. A `Double` is the rational number that it stands for, and a sum
of `Double`s is rounded after every addition (`Lib.Binary64Sum`). Android wraps its sums at 64
bits. The two agree (`Agrees`) if the spent amounts are the same in minor units and the limit is
reached for both or for neither.

`Moderate` bounds the amounts for their number. Without a bound the `Double`s of the one app and
the wrapped sums of the other have nothing to do with each other.

## Proof

The iOS sum is within half a minor unit of the exact sum of the expenses it counts, by the error
bound of the library. So rounding it gives the exact sum, and the two amounts agree if what only
the iOS app counts, the other months, adds up to nothing. Whether the limit is reached is decided
by the exact sums as well, except where they are equal: there the last rounding decides.

## Main results

* `abs_sum_majorUnits_sub_lt`: the `Double`s hold the minor units of a sum.
* `agrees_iff`: which data the two apps agree on.
* `sameExpenses_iff_of_whole`: for whole amounts it is only a matter of the months.
-/

namespace SpendCraft.Ios

open Kotlin BudgetRepositoryImpl

/-! ### Amounts in `Double`s -/

/-- Nothing spent is the `Double` zero. -/
theorem majorUnits_zero : majorUnits 0 = 0 := by
  rw [majorUnits, Int.cast_zero, Binary64.signedRounded_zero, zero_div,
    Binary64.signedRounded_zero]

/-- The error of an amount, of which the underflow is a part. -/
theorem abs_majorUnits_sub_le {n : ℤ} (h : |n| < 2 ^ 53) :
    |majorUnits n - n / 100| ≤ |(n : ℚ)| / 2 ^ 59 := by
  rcases eq_or_ne n 0 with rfl | hne
  · rw [majorUnits_zero]
    norm_num
  · rw [majorUnits, Binary64.signedRounded_intCast h]
    have hone : (1 : ℚ) ≤ |(n : ℚ)| := by exact_mod_cast Int.one_le_abs hne
    have herror := Binary64.abs_signedRounded_sub_le ((n : ℚ) / 100)
    rw [abs_div, abs_of_pos (by norm_num : (0 : ℚ) < 100)] at herror
    refine herror.trans ?_
    rw [div_div]
    linarith

/-- A larger amount of minor units is no smaller a `Double`: division and rounding are monotone.
-/
theorem majorUnits_mono {m n : ℤ} (hm : 0 ≤ m) (h : m ≤ n) : majorUnits m ≤ majorUnits n := by
  have hmq : (0 : ℚ) ≤ m := by exact_mod_cast hm
  have hmn : (m : ℚ) ≤ n := by exact_mod_cast h
  have hnonneg := Binary64.signedRounded_nonneg hmq
  have hmono := Binary64.signedRounded_mono hmq hmn
  exact Binary64.signedRounded_mono (by positivity) (by gcongr)

/-- A positive amount stays positive in major units. -/
theorem majorUnits_pos {n : ℤ} (h : 0 < n) : 0 < majorUnits n := by
  have hone := (abs_le.mp (abs_majorUnits_sub_le (n := 1) (by norm_num))).1
  have hmono := majorUnits_mono (by omega) (show 1 ≤ n by omega)
  rw [Int.cast_one, abs_one] at hone
  linarith

/-- An amount in major units is a `Double` already. -/
theorem signedRounded_majorUnits (n : ℤ) : Binary64.signedRounded (majorUnits n) = majorUnits n :=
  Binary64.signedRounded_signedRounded _

/-- What the sizes of the amounts add up to. -/
def volume (amounts : List ℤ) : ℤ :=
  (amounts.map fun n => |n|).sum

/-- A volume is a sum of absolute values. -/
theorem volume_nonneg (amounts : List ℤ) : 0 ≤ volume amounts := by
  apply List.sum_nonneg
  intro x hx
  obtain ⟨n, -, rfl⟩ := List.mem_map.mp hx
  exact abs_nonneg n

/-- The sum of a list is at most its volume. -/
theorem abs_sum_le_volume (amounts : List ℤ) : |amounts.sum| ≤ volume amounts :=
  List.le_sum_of_subadditive (fun n : ℤ => |n|) abs_zero.le abs_add_le amounts

/-- Each amount is at most the volume. -/
theorem abs_le_volume {amounts : List ℤ} {n : ℤ} (h : n ∈ amounts) : |n| ≤ volume amounts := by
  apply List.single_le_sum
  · intro x hx
    obtain ⟨m, -, rfl⟩ := List.mem_map.mp hx
    exact abs_nonneg m
  · exact List.mem_map_of_mem h

/-- The rounding of the single amounts, added up: the rounded amounts differ from the exact ones
by at most a 2⁻⁵⁹th part of the volume in all. -/
theorem sum_map_majorUnits (amounts : List ℤ) (h : volume amounts < 2 ^ 53) :
    |(amounts.map majorUnits).sum - amounts.sum / 100| ≤ volume amounts / 2 ^ 59 ∧
      ((amounts.map majorUnits).map fun x => |x|).sum ≤ volume amounts / 50 := by
  induction amounts with
  | nil => simp [volume]
  | cons n amounts ih =>
      have hvolume : volume (n :: amounts) = |n| + volume amounts := by
        rw [volume, List.map_cons, List.sum_cons]
        rfl
      have hrest := volume_nonneg amounts
      have hn := abs_nonneg n
      obtain ⟨hsum, hsize⟩ := ih (by omega)
      have herror := abs_majorUnits_sub_le (n := n) (by omega)
      have hvolumeq : (volume (n :: amounts) : ℚ) = |(n : ℚ)| + volume amounts := by
        rw [hvolume, Int.cast_add, Int.cast_abs]
      have hmajor : |majorUnits n| ≤ |(n : ℚ)| / 50 := by
        calc |majorUnits n| = |(majorUnits n - n / 100) + n / 100| := by
              congr 1
              ring
          _ ≤ |majorUnits n - n / 100| + |(n : ℚ) / 100| := abs_add_le _ _
          _ ≤ |(n : ℚ)| / 50 := by
              rw [abs_div, abs_of_pos (by norm_num : (0 : ℚ) < 100)]
              linarith [abs_nonneg (n : ℚ)]
      rw [hvolumeq]
      refine ⟨?_, ?_⟩
      · rw [List.map_cons, List.sum_cons, List.sum_cons, Int.cast_add]
        calc |majorUnits n + (amounts.map majorUnits).sum - ((n : ℚ) + amounts.sum) / 100|
            = |(majorUnits n - n / 100) +
                ((amounts.map majorUnits).sum - amounts.sum / 100)| := by
              congr 1
              ring
          _ ≤ |majorUnits n - n / 100| +
                |(amounts.map majorUnits).sum - amounts.sum / 100| := abs_add_le _ _
          _ ≤ (|(n : ℚ)| + volume amounts) / 2 ^ 59 := by linarith
      · rw [List.map_cons, List.map_cons, List.sum_cons]
        linarith

/-- **The `Double`s hold the minor units** of a sum that is not too large for its number of
terms. -/
theorem abs_sum_majorUnits_sub_lt {amounts : List ℤ}
    (h : amounts.length * volume amounts ≤ 2 ^ 48) :
    |Binary64.sum (amounts.map majorUnits) - amounts.sum / 100| < 1 / 400 := by
  rcases (volume_nonneg amounts).eq_or_lt with hzero | hpos
  · have hnone : ∀ n ∈ amounts, n = 0 := by
      intro n hn
      have hle := abs_le_volume hn
      rw [← hzero] at hle
      exact abs_nonpos_iff.mp hle
    have hmajor : ∀ x ∈ amounts.map majorUnits, x = 0 := by
      intro x hx
      obtain ⟨n, hn, rfl⟩ := List.mem_map.mp hx
      rw [hnone n hn, majorUnits_zero]
    rw [Binary64.sum_eq_zero hmajor, List.sum_eq_zero hnone]
    norm_num
  · have hlength : (1 : ℤ) ≤ amounts.length := by
      have hne : amounts ≠ [] := by
        rintro rfl
        exact lt_irrefl 0 hpos
      exact_mod_cast List.length_pos_of_ne_nil hne
    have hsmall : volume amounts ≤ 2 ^ 48 := by nlinarith
    have hshort : (amounts.length : ℤ) ≤ 2 ^ 48 := by nlinarith
    have hq : (amounts.length : ℚ) * volume amounts ≤ 2 ^ 48 := by exact_mod_cast h
    have hsmallq : (volume amounts : ℚ) ≤ 2 ^ 48 := by exact_mod_cast hsmall
    have hshortq : (amounts.length : ℚ) ≤ 2 ^ 48 := by exact_mod_cast hshort
    have hposq : (1 : ℚ) ≤ volume amounts := by exact_mod_cast hpos
    obtain ⟨hsum, hsize⟩ := sum_map_majorUnits amounts (by omega)
    have herror := Binary64.abs_sum_sub_le hsize (by
      rw [List.length_map]
      linarith)
    rw [List.length_map] at herror
    calc |Binary64.sum (amounts.map majorUnits) - amounts.sum / 100|
        = |(Binary64.sum (amounts.map majorUnits) - (amounts.map majorUnits).sum) +
            ((amounts.map majorUnits).sum - amounts.sum / 100)| := by
          congr 1
          ring
      _ ≤ |Binary64.sum (amounts.map majorUnits) - (amounts.map majorUnits).sum| +
            |(amounts.map majorUnits).sum - amounts.sum / 100| := abs_add_le _ _
      _ < 1 / 400 := by linarith

/-- Whole major units are `Double`s below `2 ^ 53`, so nothing is rounded. -/
theorem majorUnits_hundred_mul {k : ℤ} (h : |100 * k| < 2 ^ 53) : majorUnits (100 * k) = k := by
  have hk : |k| < 2 ^ 53 := by
    rw [abs_mul] at h
    norm_num at h
    omega
  have hdiv : ((100 * k : ℤ) : ℚ) / 100 = k := by
    push_cast
    ring
  rw [majorUnits, Binary64.signedRounded_intCast h, hdiv, Binary64.signedRounded_intCast hk]

/-- Whole amounts are added up exactly. -/
theorem sum_majorUnits_of_whole {amounts : List ℤ} (hwhole : ∀ n ∈ amounts, (100 : ℤ) ∣ n)
    (h : volume amounts < 2 ^ 53) :
    Binary64.sum (amounts.map majorUnits) = majorUnits amounts.sum := by
  obtain ⟨ks, rfl⟩ : ∃ ks : List ℤ, amounts = ks.map fun k => 100 * k := by
    refine ⟨amounts.map fun n => n / 100, ?_⟩
    rw [List.map_map]
    calc amounts = amounts.map id := (List.map_id amounts).symm
      _ = _ := List.map_congr_left fun n hn => (Int.mul_ediv_cancel' (hwhole n hn)).symm
  have hvolume : volume (ks.map fun k => 100 * k) = 100 * (ks.map fun k => |k|).sum := by
    rw [volume, List.map_map, ← List.sum_map_mul_left]
    congr 1
    apply List.map_congr_left
    intro k _
    exact abs_mul 100 k
  have hsum : (ks.map fun k => 100 * k).sum = 100 * ks.sum := by
    rw [List.sum_map_mul_left, List.map_id']
  have htotal := (abs_sum_le_volume (ks.map fun k => 100 * k)).trans_lt h
  have hmap : (ks.map fun k => 100 * k).map majorUnits = ks.map fun k : ℤ => (k : ℚ) := by
    rw [List.map_map]
    apply List.map_congr_left
    intro k hk
    exact majorUnits_hundred_mul ((abs_le_volume (List.mem_map_of_mem hk)).trans_lt h)
  rw [hsum] at htotal ⊢
  rw [hmap, majorUnits_hundred_mul htotal, Binary64.sum_intCast]
  have hnonneg : 0 ≤ (ks.map fun k => |k|).sum := volume_nonneg ks
  omega

/-! ### Amounts in 64 bits -/

/-- The sum does not overflow. -/
theorem toInt_sum_of_volume_le {l : List Int64} (h : volume (l.map Int64.toInt) ≤ 2 ^ 48) :
    (l.foldl (· + ·) 0).toInt = (l.map Int64.toInt).sum := by
  have habs := (abs_sum_le_volume (l.map Int64.toInt)).trans h
  rw [abs_le] at habs
  rw [toInt_foldl_add, Int64.toInt_zero, zero_add]
  apply Int.bmod_eq_of_le
  · omega
  · omega

/-- The percentage is at least 100 just when the limit is spent. -/
theorem hundred_le_percentage_iff {spent limit : Int64} (hlimit : 0 < limit)
    (hspent : |spent.toInt| ≤ 2 ^ 48) :
    100 ≤ percentage spent limit ↔ limit.toInt ≤ spent.toInt := by
  rw [abs_le] at hspent
  have hhundred : (100 : Int64).toInt = 100 := rfl
  have hmul : (spent * 100).toInt = spent.toInt * 100 := by
    rw [Int64.toInt_mul, hhundred]
    apply Int.bmod_eq_of_le
    · omega
    · omega
  rw [le_percentage_iff hlimit (by decide), hmul, hhundred]
  omega

/-! ### One budget in both apps -/

/-- The transaction of a row of the Android app. -/
def ofRow (tx : SpendCraft.TransactionEntity) : TransactionEntity :=
  { id := tx.id
    amountMinor := tx.amountMinor.toInt
    timestampUtcMillis := tx.timestampUtcMillis
    note := tx.note
    categoryId := tx.categoryId.getD 0
    accountId := tx.accountId.getD 0
    isIncome := tx.isIncome }

/-- A budget, with the data of both apps. The iOS app has its transactions in the order in
which they were loaded. -/
structure SharedBudget where
  transactions : List SpendCraft.TransactionEntity
  categories : List SpendCraft.CategoryEntity
  category : SpendCraft.CategoryEntity
  limit : Int64
  now : ℤ
  loaded : List TransactionEntity
  nodup_ids : (categories.map SpendCraft.CategoryEntity.id).Nodup
  nodup_names : (categories.map SpendCraft.CategoryEntity.name).Nodup
  category_mem : category ∈ categories
  limit_pos : 0 < limit
  loaded_perm : loaded.Perm (transactions.map ofRow)

namespace SharedBudget

variable (budget : SharedBudget)

/-- What `checkBudgetBreaches` reads. -/
def snapshot : Snapshot :=
  { monthTransactions := budget.transactions.filter (isMonthExpense (getMonthBoundaries budget.now))
    categories := budget.categories }

/-- The spent amount of the Android app. -/
def androidSpent : Int64 :=
  spentAmount budget.snapshot budget.category.name

/-- The shared category on iOS. -/
def iosCategory : CategoryEntity :=
  { id := budget.category.id
    name := budget.category.name }

/-- The shared budget on iOS, with the relation set. -/
def iosBudget : BudgetEntity :=
  { categoryId := intText budget.category.id
    monthlyLimitMinor := budget.limit.toInt
    category := some budget.iosCategory }

/-- The spent amount of the iOS app. -/
def iosSpent : ℚ :=
  BudgetViewModel.spentForCategory budget.iosCategory budget.loaded

/-- The minor units are equal, and so is whether the budget is used up. -/
def Agrees : Prop :=
  round (budget.iosSpent * 100) = budget.androidSpent.toInt ∧
    (BudgetViewModel.budgetProgress budget.iosBudget budget.loaded = 1 ↔
      100 ≤ percentage budget.androidSpent budget.limit)

/-! #### The expenses of the category -/

/-- The expenses that the iOS app counts. -/
def expenses : List SpendCraft.TransactionEntity :=
  budget.transactions.filter fun tx => !tx.isIncome && tx.categoryId.getD 0 == budget.category.id

/-- The expenses that the Android app counts. -/
def isCounted (tx : SpendCraft.TransactionEntity) : Bool :=
  isMonthExpense (getMonthBoundaries budget.now) tx && tx.categoryId == some budget.category.id

/-- The amounts of the rows as integers. -/
def amounts (transactions : List SpendCraft.TransactionEntity) : List ℤ :=
  transactions.map fun tx => tx.amountMinor.toInt

/-- The amounts are not too large for their number. -/
def Moderate : Prop :=
  budget.expenses.length * volume (amounts budget.expenses) ≤ 2 ^ 48

/-- The amounts that the iOS app adds up, in its order. -/
def loadedAmounts : List ℤ :=
  ((TransactionsViewModel.transactionsForCategory budget.iosCategory budget.loaded).filter
    fun transaction => !transaction.isIncome).map TransactionEntity.amountMinor

/-- What only the iOS app counts adds up to nothing; and where the limit is spent exactly,
the `Double`s of the amounts do not add up to less. -/
def SameExpenses : Prop :=
  (amounts (budget.expenses.filter fun tx => !budget.isCounted tx)).sum = 0 ∧
    ((amounts budget.expenses).sum = budget.limit.toInt →
      majorUnits budget.limit.toInt ≤ Binary64.sum (budget.loadedAmounts.map majorUnits))

variable {budget}

/-- Only the id of the shared category resolves to its name, as the names are distinct. -/
theorem categoryNameOf_eq_some_iff (tx : SpendCraft.TransactionEntity) :
    categoryNameOf budget.categories tx = some budget.category.name ↔
      tx.categoryId = some budget.category.id := by
  rw [categoryNameOf, Option.map_eq_some_iff]
  constructor
  · rintro ⟨c, hfind, hname⟩
    have hmem := List.mem_of_find?_eq_some hfind
    obtain rfl := List.inj_on_of_nodup_map budget.nodup_names hmem budget.category_mem hname
    simpa using List.find?_some hfind
  · intro h
    rcases hfind : budget.categories.find? fun c => decide (tx.categoryId = some c.id) with _ | c
    · have hnone := List.find?_eq_none.mp hfind budget.category budget.category_mem
      simp [h] at hnone
    · have hid : tx.categoryId = some c.id := by simpa using List.find?_some hfind
      rw [h, Option.some_inj] at hid
      obtain rfl := List.inj_on_of_nodup_map budget.nodup_ids budget.category_mem
        (List.mem_of_find?_eq_some hfind) hid
      exact ⟨budget.category, hfind, rfl⟩

/-- Android counts the expenses of the month whose category resolves to the name of the budget. -/
theorem filter_isCounted : (budget.snapshot.monthTransactions.filter fun tx =>
      decide (categoryNameOf budget.snapshot.categories tx = some budget.category.name)) =
    budget.expenses.filter budget.isCounted := by
  rw [snapshot, expenses, List.filter_filter, List.filter_filter]
  apply List.filter_congr
  intro tx _
  rw [Bool.eq_iff_iff, Bool.and_eq_true, decide_eq_true_iff, categoryNameOf_eq_some_iff]
  simp only [isCounted, isMonthExpense, Bool.and_eq_true, beq_iff_eq]
  constructor
  · rintro ⟨hid, hmonth⟩
    exact ⟨⟨hmonth, hid⟩, hmonth.2, by rw [hid, Option.getD_some]⟩
  · rintro ⟨⟨hmonth, hid⟩, -⟩
    exact ⟨hid, hmonth⟩

/-- What Android shows as spent: the `Long` sum of the counted amounts. -/
theorem androidSpent_eq : budget.androidSpent =
    ((budget.expenses.filter budget.isCounted).map
      SpendCraft.TransactionEntity.amountMinor).foldl (· + ·) 0 := by
  rw [androidSpent, spentAmount, filter_isCounted]

/-- The expenses of iOS are those that Android counts as well and those it does not. -/
theorem sum_amounts_expenses (budget : SharedBudget) : (amounts budget.expenses).sum =
    (amounts (budget.expenses.filter budget.isCounted)).sum +
      (amounts (budget.expenses.filter fun tx => !budget.isCounted tx)).sum := by
  rw [amounts, amounts, amounts, ← List.sum_append, ← List.map_append]
  exact ((List.filter_append_perm _ _).map _).sum_eq.symm

/-- A part of the transactions has no more volume than the whole. -/
theorem volume_filter_le (transactions : List SpendCraft.TransactionEntity)
    (p : SpendCraft.TransactionEntity → Bool) :
    volume (amounts (transactions.filter p)) ≤ volume (amounts transactions) := by
  apply ((List.filter_sublist.map _).map _).sum_le_sum
  intro x hx
  obtain ⟨n, -, rfl⟩ := List.mem_map.mp hx
  exact abs_nonneg n

/-- iOS loads the amounts of the same expenses, in the order of its fetch. -/
theorem loadedAmounts_perm : budget.loadedAmounts.Perm (amounts budget.expenses) := by
  have hrows : ((TransactionsViewModel.transactionsForCategory budget.iosCategory
      (budget.transactions.map ofRow)).filter fun transaction => !transaction.isIncome).map
        TransactionEntity.amountMinor = amounts budget.expenses := by
    rw [TransactionsViewModel.transactionsForCategory, List.filter_filter, List.filter_map,
      List.map_map]
    rfl
  rw [← hrows]
  exact ((budget.loaded_perm.filter _).filter _).map _

/-- What iOS shows as spent: the rounded sum of the loaded amounts. -/
theorem iosSpent_eq : budget.iosSpent = Binary64.sum (budget.loadedAmounts.map majorUnits) := by
  rw [Binary64.sum, loadedAmounts, List.map_map, List.foldl_map]
  rfl

/-- What the iOS app has in `Double`s. -/
theorem abs_iosSpent_sub_lt (h : budget.Moderate) :
    |budget.iosSpent - (amounts budget.expenses).sum / 100| < 1 / 400 := by
  have hlength : budget.loadedAmounts.length = budget.expenses.length := by
    rw [loadedAmounts_perm.length_eq, amounts, List.length_map]
  have hvolume : volume budget.loadedAmounts = volume (amounts budget.expenses) :=
    (loadedAmounts_perm.map _).sum_eq
  have hsum : budget.loadedAmounts.sum = (amounts budget.expenses).sum :=
    loadedAmounts_perm.sum_eq
  rw [iosSpent_eq, ← hsum]
  apply abs_sum_majorUnits_sub_lt
  rw [hlength, hvolume]
  exact h

/-- In the bound of the property, the volume stays below `2 ^ 48`. -/
theorem Moderate.volume_le (h : budget.Moderate) : volume (amounts budget.expenses) ≤ 2 ^ 48 := by
  have hnonneg := volume_nonneg (amounts budget.expenses)
  rw [Moderate] at h
  rcases hexpenses : budget.expenses with _ | ⟨tx, rest⟩
  · norm_num [amounts, volume]
  · have hlength : (1 : ℤ) ≤ budget.expenses.length := by
      rw [hexpenses, List.length_cons]
      omega
    rw [← hexpenses]
    nlinarith

/-- What the Android app has in 64 bits. -/
theorem toInt_androidSpent (h : budget.Moderate) : budget.androidSpent.toInt =
    (amounts (budget.expenses.filter budget.isCounted)).sum := by
  have hvolume := (volume_filter_le budget.expenses budget.isCounted).trans h.volume_le
  have hmap : amounts (budget.expenses.filter budget.isCounted) =
      ((budget.expenses.filter budget.isCounted).map
        SpendCraft.TransactionEntity.amountMinor).map Int64.toInt := by
    rw [List.map_map]
    rfl
  rw [hmap] at hvolume ⊢
  rw [androidSpent_eq, toInt_sum_of_volume_le hvolume]

/-- A budget of both apps has a positive limit. -/
theorem limit_toInt_pos (budget : SharedBudget) : 0 < budget.limit.toInt := by
  have hpos := budget.limit_pos
  rw [Int64.lt_iff_toInt_lt] at hpos
  exact hpos

/-- The iOS progress is full exactly if the spent amount reaches the limit, both as `Double`s. -/
theorem budgetProgress_eq_one_iff :
    BudgetViewModel.budgetProgress budget.iosBudget budget.loaded = 1 ↔
      majorUnits budget.limit.toInt ≤ budget.iosSpent := by
  have hpos := majorUnits_pos budget.limit_toInt_pos
  have hspent : Binary64.signedRounded budget.iosSpent = budget.iosSpent := by
    rw [iosSpent_eq, Binary64.signedRounded_sum]
  have hprogress : BudgetViewModel.budgetProgress budget.iosBudget budget.loaded =
      min (Binary64.signedRounded (budget.iosSpent / majorUnits budget.limit.toInt)) 1 :=
    if_pos hpos
  rw [hprogress, min_eq_right_iff]
  exact Binary64.one_le_signedRounded_div_iff hspent (signedRounded_majorUnits _) hpos

/-- The `Double`s tell the limit from a sum that is not the limit. -/
theorem majorUnits_limit_le_iosSpent_iff (h : budget.Moderate)
    (hne : (amounts budget.expenses).sum ≠ budget.limit.toInt) :
    majorUnits budget.limit.toInt ≤ budget.iosSpent ↔
      budget.limit.toInt ≤ (amounts budget.expenses).sum := by
  have hpos := budget.limit_toInt_pos
  have hspent := abs_lt.mp (abs_iosSpent_sub_lt h)
  have hsize := abs_le.mp ((abs_sum_le_volume (amounts budget.expenses)).trans h.volume_le)
  have herror : ∀ n : ℤ, 0 < n → n ≤ 2 ^ 49 → |majorUnits n - n / 100| ≤ 1 / 1024 := by
    intro n hn hle
    have hnq : (n : ℚ) ≤ 2 ^ 49 := by exact_mod_cast hle
    have hn0 : (0 : ℚ) < n := by exact_mod_cast hn
    have hmajor := abs_majorUnits_sub_le (n := n) (by rw [abs_of_pos hn]; omega)
    rw [abs_of_pos hn0] at hmajor
    linarith
  generalize budget.limit.toInt = limit at *
  generalize (amounts budget.expenses).sum = total at *
  generalize budget.iosSpent = spent at *
  rcases lt_or_gt_of_ne hne with hlt | hgt
  · -- the limit may be too large for its minor units
    obtain ⟨m, hm, hsmall, hlimit, htotal⟩ : ∃ m, 0 < m ∧ m ≤ 2 ^ 49 ∧ m ≤ limit ∧ total + 1 ≤ m :=
      ⟨min limit (2 ^ 49), by omega, by omega, by omega, by omega⟩
    have hmono := majorUnits_mono hm.le hlimit
    have hmajor := (abs_le.mp (herror m hm hsmall)).1
    have hcast : (total : ℚ) + 1 ≤ m := by exact_mod_cast htotal
    constructor
    · intro hle
      linarith [hspent.2]
    · intro hle
      omega
  · have hmajor := abs_le.mp (herror limit hpos (by omega))
    have hcast : (limit : ℚ) + 1 ≤ total := by exact_mod_cast hgt
    constructor
    · intro _
      exact hgt.le
    · intro _
      linarith [hmajor.2, hspent.1]

/-- **The two apps agree** on a budget just when the expenses that only iOS counts add up to
nothing, and the `Double`s do not fall short of a limit that is spent exactly. -/
theorem agrees_iff (budget : SharedBudget) (h : budget.Moderate) :
    budget.Agrees ↔ budget.SameExpenses := by
  have hround : round (budget.iosSpent * 100) = (amounts budget.expenses).sum := by
    have hspent := abs_lt.mp (abs_iosSpent_sub_lt h)
    rw [round_eq_iff, Set.mem_Ico]
    constructor
    · linarith [hspent.1]
    · linarith [hspent.2]
  have hspent : |budget.androidSpent.toInt| ≤ 2 ^ 48 := by
    rw [toInt_androidSpent h]
    exact (abs_sum_le_volume _).trans ((volume_filter_le _ _).trans h.volume_le)
  have hsum := budget.sum_amounts_expenses
  rw [Agrees, SameExpenses, ← iosSpent_eq, budgetProgress_eq_one_iff,
    hundred_le_percentage_iff budget.limit_pos hspent, hround, toInt_androidSpent h]
  have hsame : (amounts budget.expenses).sum =
      (amounts (budget.expenses.filter budget.isCounted)).sum ↔
        (amounts (budget.expenses.filter fun tx => !budget.isCounted tx)).sum = 0 := by
    omega
  rw [hsame]
  refine and_congr_right fun hzero => ?_
  rw [hzero, add_zero] at hsum
  rw [← hsum]
  rcases eq_or_ne (amounts budget.expenses).sum budget.limit.toInt with heq | hne
  · simp [heq]
  · simp [hne, majorUnits_limit_le_iosSpent_iff h hne]

/-- The condition is about the months alone where the amounts are whole. -/
theorem sameExpenses_iff_of_whole (h : budget.Moderate)
    (hwhole : ∀ n ∈ amounts budget.expenses, (100 : ℤ) ∣ n) : budget.SameExpenses ↔
      (amounts (budget.expenses.filter fun tx => !budget.isCounted tx)).sum = 0 := by
  have hvolume : volume budget.loadedAmounts = volume (amounts budget.expenses) :=
    (loadedAmounts_perm.map _).sum_eq
  have hsmall := h.volume_le
  rw [SameExpenses, sum_majorUnits_of_whole
    (fun n hn => hwhole n (loadedAmounts_perm.mem_iff.mp hn)) (by omega), loadedAmounts_perm.sum_eq]
  constructor
  · rintro ⟨hzero, -⟩
    exact hzero
  · intro hzero
    refine ⟨hzero, fun heq => ?_⟩
    rw [heq]

/-- A budget on groceries in November 2023, with one expense. -/
def oneExpense (timestampUtcMillis : ℤ) (amountMinor : Int64) : SharedBudget :=
  let groceries : SpendCraft.CategoryEntity :=
    { id := 1
      name := "Market".toList
      color := "#FF0000".toList
      icon := none
      isIncome := false }
  let expense : SpendCraft.TransactionEntity :=
    { id := 1
      amountMinor := amountMinor
      timestampUtcMillis := timestampUtcMillis
      note := none
      categoryId := some 1
      accountId := some 1
      isIncome := false }
  { transactions := [expense]
    categories := [groceries]
    category := groceries
    limit := 10000
    now := 1700000000000
    loaded := [ofRow expense]
    nodup_ids := List.nodup_singleton _
    nodup_names := List.nodup_singleton _
    category_mem := List.mem_singleton_self _
    limit_pos := by decide
    loaded_perm := List.Perm.refl _ }

/-- The theorem at one expense of 25.00 in November. -/
theorem agrees_november : (oneExpense 1699500000000 2500).Agrees := by
  refine (agrees_iff (oneExpense 1699500000000 2500) ?_).mpr ⟨rfl, ?_⟩
  · have hvolume : volume (amounts (oneExpense 1699500000000 2500).expenses) = 2500 := rfl
    have hlength : (oneExpense 1699500000000 2500).expenses.length = 1 := rfl
    rw [Moderate, hvolume, hlength]
    norm_num
  · intro h
    have hsum : (2500 : ℤ) = 10000 := h
    omega

/-- An expense of the month before counts on iOS. -/
theorem not_agrees_october : ¬ (oneExpense 1697000000000 10000).Agrees := by
  rintro ⟨hspent, -⟩
  have handroid : (oneExpense 1697000000000 10000).androidSpent = 0 := rfl
  have hmajor : majorUnits 10000 = ((100 : ℕ) : ℚ) := majorUnits_natCast (n := 100) (by norm_num)
  have hios : (oneExpense 1697000000000 10000).iosSpent = ((100 : ℕ) : ℚ) := by
    have hamounts : (oneExpense 1697000000000 10000).loadedAmounts = [10000] := rfl
    rw [iosSpent_eq, hamounts, List.map_singleton, hmajor, Binary64.sum, List.foldl_cons,
      List.foldl_nil, zero_add, Binary64.signedRounded_natCast (by norm_num)]
  rw [handroid, hios, Int64.toInt_zero, round_eq_iff] at hspent
  norm_num at hspent

end SharedBudget

end SpendCraft.Ios
