import SpendCraft.MonthlySpending
import SpendCraft.TransactionsRepository
import Mathlib.Algebra.Order.Field.Basic
import Mathlib.Data.List.Sort
import Mathlib.Tactic.FieldSimp
import Mathlib.Tactic.Linarith
import Mathlib.Tactic.Ring

/-!
# The Expense Shares of the Reports

`ReportsScreen` groups the expenses of the selected range by category, but divides each
amount by the total of all expenses there are. The pie, the legend and the list of the five
largest categories all use these shares. They are computed exactly here.

The hit test of the pie goes through the slices like the drawing does. Where a slice is hit
it leaves the lambda, which in a `forEachIndexed` goes on with the next slice, without having
moved on by the slice that was hit.

## Conventions

An angle is a rational number of degrees, and a share is an exact quotient; the rounding of
`Float` is left out, as the question is whether the shares are shares of one whole. Sums of
amounts are `Long`s and wrap. The range is counted back from now. A hit is looked for by a fold
with the variables of the source, the index among them, which every turn increases.

## Proof

The slices are the sums by category in some order (`expenseByCategory_perm`), so their amounts add
up to the expenses of the range, and the shares close the circle if these are all expenses, up to
the sum of the others. For the hit test the fold is solved: as it does not move on by the slice
that was hit, the next slice is tried at the same start, and the last hit counts. In a list sorted
by amounts this spares only a pie with one positive slice, which is the condition `OneCategory`.

## Main results

* `expenseByCategory_perm`: the slices, by the categories of the expenses.
* `hitsDrawn_iff`: when a tap hits the slice that is drawn.
* `sharesAddUp_iff`: when the shares add up and every tap hits its slice.
-/

namespace SpendCraft

open Kotlin Relational

/-- The ranges of the screen. -/
inductive TimeRange
  | daily
  | weekly
  | monthly
  deriving DecidableEq, Repr

namespace ReportsScreen

/-! ### The screen -/

/-- The first instant of a range: it is counted back from now, not from a midnight. -/
def start (range : TimeRange) (now : ℤ) : ℤ :=
  match range with
  | .daily => now - 24 * 60 * 60 * 1000
  | .weekly => now - 7 * 24 * 60 * 60 * 1000
  | .monthly => now - 30 * 24 * 60 * 60 * 1000

/-- The items within the range. -/
def filteredItems (range : TimeRange) (now : ℤ) (items : List Transaction) : List Transaction :=
  items.filter fun tx =>
    decide (start range now ≤ tx.timestampUtcMillis) && decide (tx.timestampUtcMillis ≤ now)

/-- The expenses among the items. -/
def expenses (items : List Transaction) : List Transaction :=
  items.filter fun tx => tx.type == .expense

/-- `sumOf { it.amount.minorUnits }` -/
def sumOf (items : List Transaction) : Int64 :=
  (items.map fun tx => tx.amount.minorUnits).foldl (· + ·) 0

/-- The total on the screen, over the expenses of all items: the range does not enter. -/
def totalExpense (items : List Transaction) : Int64 :=
  sumOf (expenses items)

/-- The name of a category, a placeholder where there is no such category. -/
def categoryName (categories : List Category) (categoryId : Option ℤ) : Text :=
  ((categories.find? fun c => c.id == categoryId).map Category.name).getD
    "Bilinmeyen Kategori".toList

/-- A slice of the pie. -/
structure Slice where
  categoryId : Option ℤ
  categoryName : Text
  amount : Int64
  deriving DecidableEq, Repr

/-- The slices: the expenses of the range by category, the largest first. -/
def expenseByCategory (categories : List Category) (range : TimeRange) (now : ℤ)
    (items : List Transaction) : List Slice :=
  ((LinkedMap.sums Transaction.categoryId (fun tx => tx.amount.minorUnits)
      (expenses (filteredItems range now items))).rows.map fun entry =>
        ⟨entry.1, categoryName categories entry.1, entry.2⟩).insertionSort
    fun a b => b.amount ≤ a.amount

/-- `amount.toFloat() / totalExpense.toFloat() * 360f`, exactly. -/
def sweepAngle (totalExpense : Int64) (slice : Slice) : ℚ :=
  slice.amount.toInt / totalExpense.toInt * 360

/-- The percentage of the legend and of the five largest categories. -/
def percentage (totalExpense : Int64) (slice : Slice) : ℚ :=
  if 0 < totalExpense then slice.amount.toInt / totalExpense.toInt * 100 else 0

/-- The slices as they are drawn, by their start and their sweep. -/
def arcs : ℚ → List ℚ → List (ℚ × ℚ)
  | _, [] => []
  | startAngle, sweep :: sweeps => (startAngle, sweep) :: arcs (startAngle + sweep) sweeps

/-- The variables of the hit test, and the index that comes next. -/
structure HitTest where
  index : ℕ
  acc : ℚ
  found : Option ℕ
  deriving DecidableEq

/-- A turn of the loop. A hit goes on with the next slice at once. -/
def hitSlice (angleFromTopCw : ℚ) (loop : HitTest) (sweep : ℚ) : HitTest :=
  if loop.acc ≤ angleFromTopCw ∧ angleFromTopCw < loop.acc + sweep then
    { loop with index := loop.index + 1, found := some loop.index }
  else { loop with index := loop.index + 1, acc := loop.acc + sweep }

/-- What a tap inside the disc finds. -/
def hitTest (totalExpense : Int64) (slices : List Slice) (angleFromTopCw : ℚ) : Option ℕ :=
  if 0 < totalExpense then
    ((slices.map (sweepAngle totalExpense)).foldl (hitSlice angleFromTopCw)
      { index := 0, acc := 0, found := none }).found
  else none

/-! ### What the reports should show -/

/-- The slice is drawn at the angle, which is counted from the top. -/
def Drawn (totalExpense : Int64) (slices : List Slice) (angleFromTopCw : ℚ) (index : ℕ) : Prop :=
  ∃ arc ∈ (arcs (-90) (slices.map (sweepAngle totalExpense)))[index]?,
    arc.1 ≤ angleFromTopCw - 90 ∧ angleFromTopCw - 90 < arc.1 + arc.2

/-- At every angle just one slice is drawn, and a tap hits it. -/
def HitsDrawn (totalExpense : Int64) (slices : List Slice) : Prop :=
  ∀ angle, 0 ≤ angle → angle < 360 → ∃ index,
    (∀ other, Drawn totalExpense slices angle other ↔ other = index) ∧
      hitTest totalExpense slices angle = some index

/-- The pie closes, the legend sums to a hundred per cent, and every tap hits one slice. -/
structure SharesAddUp (totalExpense : Int64) (slices : List Slice) : Prop where
  closes : (slices.map (sweepAngle totalExpense)).sum = 360
  percentages : (slices.map (percentage totalExpense)).sum = 100
  hits : HitsDrawn totalExpense slices

/-! ### Sums of shares -/

section Shares

variable {totalExpense : Int64} {slices : List Slice}

/-- The exact sum of the amounts that are shown. -/
def amounts (slices : List Slice) : ℤ :=
  (slices.map fun slice => slice.amount.toInt).sum

/-- The angles add up to the full turn, in the ratio of the slices to the total. -/
theorem sum_sweepAngle (totalExpense : Int64) (slices : List Slice) :
    (slices.map (sweepAngle totalExpense)).sum =
      amounts slices / totalExpense.toInt * 360 := by
  induction slices with
  | nil => simp [amounts]
  | cons slice slices ih =>
      rw [amounts] at ih ⊢
      rw [List.map_cons, List.sum_cons, ih, List.map_cons, List.sum_cons, sweepAngle]
      push_cast
      ring

/-- A `Long` is positive exactly if its value is. -/
theorem pos_iff {n : Int64} : 0 < n ↔ 0 < n.toInt := by
  rw [Int64.lt_iff_toInt_lt, Int64.toInt_zero]

/-- **The pie closes** just when the amounts sum to the denominator. -/
theorem closes_iff (hpos : 0 < totalExpense) :
    (slices.map (sweepAngle totalExpense)).sum = 360 ↔
      amounts slices = totalExpense.toInt := by
  have htotal : (totalExpense.toInt : ℚ) ≠ 0 := by
    exact_mod_cast (pos_iff.mp hpos).ne'
  rw [sum_sweepAngle, ← @Int.cast_inj ℚ]
  constructor
  · intro h
    field_simp at h
    linarith
  · intro h
    rw [h, div_self htotal, one_mul]

/-- The legend shows the shares of the pie, in per cent. -/
theorem sum_percentage (hpos : 0 < totalExpense) (slices : List Slice) :
    (slices.map (percentage totalExpense)).sum =
      (slices.map (sweepAngle totalExpense)).sum / 360 * 100 := by
  induction slices with
  | nil => simp
  | cons slice slices ih =>
      rw [List.map_cons, List.sum_cons, ih, List.map_cons, List.sum_cons, percentage,
        if_pos hpos, sweepAngle]
      ring

/-- Without a positive denominator the legend shows zeros. -/
theorem sum_percentage_of_not_pos (hpos : ¬ 0 < totalExpense) (slices : List Slice) :
    (slices.map (percentage totalExpense)).sum = 0 := by
  induction slices with
  | nil => rfl
  | cons slice slices ih =>
      rw [List.map_cons, List.sum_cons, ih, percentage, if_neg hpos, add_zero]

/-! ### Hits -/

/-- With a positive total, a slice has an angle exactly if it has an amount. -/
theorem sweepAngle_pos_iff (hpos : 0 < totalExpense) {slice : Slice} :
    0 < sweepAngle totalExpense slice ↔ 0 < slice.amount := by
  have htotal : (0 : ℚ) < totalExpense.toInt := by
    exact_mod_cast pos_iff.mp hpos
  rw [sweepAngle, pos_iff]
  constructor
  · intro h
    by_contra hamount
    have hle : (slice.amount.toInt : ℚ) ≤ 0 := by
      exact_mod_cast not_lt.mp hamount
    have hdiv := div_nonpos_of_nonpos_of_nonneg hle htotal.le
    linarith
  · intro h
    have hamount : (0 : ℚ) < slice.amount.toInt := by
      exact_mod_cast h
    exact mul_pos (div_pos hamount htotal) (by norm_num)

/-- Every arc is drawn for the sweep of some slice. -/
theorem sweep_mem_of_mem_arcs {arc : ℚ × ℚ} {startAngle : ℚ} {sweeps : List ℚ}
    (h : arc ∈ arcs startAngle sweeps) : arc.2 ∈ sweeps := by
  induction sweeps generalizing startAngle with
  | nil => exact absurd h List.not_mem_nil
  | cons sweep sweeps ih =>
      rw [arcs, List.mem_cons] at h
      obtain rfl | h := h
      · exact List.mem_cons_self
      · exact List.mem_cons_of_mem _ (ih h)

/-- Sweeps that are not positive are never hit. -/
theorem found_foldl_of_nonpos {angle : ℚ} {sweeps : List ℚ} (h : ∀ sweep ∈ sweeps, sweep ≤ 0)
    (loop : HitTest) : (sweeps.foldl (hitSlice angle) loop).found = loop.found := by
  induction sweeps generalizing loop with
  | nil => rfl
  | cons sweep sweeps ih =>
      rw [List.forall_mem_cons] at h
      rw [List.foldl_cons, ih h.2, hitSlice, if_neg]
      rintro ⟨hstart, hend⟩
      linarith [h.1]

/-- What is found later has a later index. -/
theorem found_foldl (angle : ℚ) (sweeps : List ℚ) (loop : HitTest) :
    (sweeps.foldl (hitSlice angle) loop).found = loop.found ∨
      ∃ index, loop.index ≤ index ∧
        (sweeps.foldl (hitSlice angle) loop).found = some index := by
  induction sweeps generalizing loop with
  | nil => exact .inl rfl
  | cons sweep sweeps ih =>
      rw [List.foldl_cons]
      have hindex : (hitSlice angle loop sweep).index = loop.index + 1 := by
        rw [hitSlice]
        split_ifs
        · rfl
        · rfl
      obtain hkept | ⟨index, hle, hfound⟩ := ih (hitSlice angle loop sweep)
      · rw [hkept, hitSlice]
        split_ifs
        · exact .inr ⟨loop.index, le_rfl, rfl⟩
        · exact .inl rfl
      · exact .inr ⟨index, by omega, hfound⟩

section Hits

variable {slice : Slice} (hpos : 0 < totalExpense)

include hpos

/-- A tap at the top: with two slices there, the second one is found. -/
theorem not_hitsDrawn_of_two {slice' : Slice} (hslice : 0 < slice.amount)
    (hslice' : 0 < slice'.amount) : ¬ HitsDrawn totalExpense (slice :: slice' :: slices) := by
  intro hhits
  obtain ⟨index, hdrawn, hfound⟩ := hhits 0 le_rfl (by norm_num)
  have hsweep := (sweepAngle_pos_iff hpos).mpr hslice
  have hsweep' := (sweepAngle_pos_iff hpos).mpr hslice'
  have hfirst : Drawn totalExpense (slice :: slice' :: slices) 0 0 :=
    ⟨_, rfl, by norm_num, by linarith⟩
  obtain rfl : 0 = index := (hdrawn 0).mp hfirst
  have hhit : hitSlice 0 { index := 0, acc := 0, found := none }
      (sweepAngle totalExpense slice) = { index := 1, acc := 0, found := some 0 } :=
    if_pos ⟨le_rfl, by simpa using hsweep⟩
  have hhit' : hitSlice 0 { index := 1, acc := 0, found := some 0 }
      (sweepAngle totalExpense slice') = { index := 2, acc := 0, found := some 1 } :=
    if_pos ⟨le_rfl, by simpa using hsweep'⟩
  rw [hitTest, if_pos hpos, List.map_cons, List.map_cons, List.foldl_cons, List.foldl_cons,
    hhit, hhit'] at hfound
  obtain hkept | ⟨index, hle, hindex⟩ := found_foldl 0 (slices.map (sweepAngle totalExpense))
    { index := 2, acc := 0, found := some 1 }
  · rw [hkept] at hfound
    exact absurd hfound (by decide)
  · rw [hindex] at hfound
    obtain rfl := Option.some.inj hfound
    exact absurd hle (by decide)

/-- One slice that is positive takes the whole circle. -/
theorem hitsDrawn_of_one (hothers : ∀ other ∈ slices, ¬ 0 < other.amount)
    (hsweep : 360 ≤ sweepAngle totalExpense slice) :
    HitsDrawn totalExpense (slice :: slices) := by
  have hnonpos : ∀ sweep ∈ slices.map (sweepAngle totalExpense), sweep ≤ 0 := by
    rw [List.forall_mem_map]
    intro other hother
    exact not_lt.mp ((sweepAngle_pos_iff hpos).not.mpr (hothers other hother))
  intro angle hzero hlt
  refine ⟨0, ?_, ?_⟩
  · intro other
    constructor
    · rintro ⟨arc, harc, hstart, hend⟩
      cases other with
      | zero => rfl
      | succ k =>
          have hmem : arc.2 ∈ slices.map (sweepAngle totalExpense) :=
            @sweep_mem_of_mem_arcs arc (-90 + sweepAngle totalExpense slice) _
              (List.mem_of_getElem? harc)
          linarith [hnonpos _ hmem]
    · rintro rfl
      exact ⟨_, rfl, by linarith, by linarith⟩
  · rw [hitTest, if_pos hpos, List.map_cons, List.foldl_cons, hitSlice,
      if_pos ⟨hzero, by linarith⟩, found_foldl_of_nonpos hnonpos]

omit hpos in
/-- Amounts that are not positive have no positive sum. -/
theorem amounts_nonpos (h : ∀ slice ∈ slices, ¬ 0 < slice.amount) : amounts slices ≤ 0 := by
  induction slices with
  | nil => exact le_rfl
  | cons slice slices ih =>
      rw [List.forall_mem_cons, pos_iff] at h
      have hsplit : amounts (slice :: slices) = slice.amount.toInt + amounts slices :=
        List.sum_cons
      have hrest := ih h.2
      omega

/-- The largest of the amounts is positive if they sum to something positive. -/
theorem head_pos (hsorted : (slice :: slices).Pairwise fun a b => b.amount ≤ a.amount)
    (hsum : amounts (slice :: slices) = totalExpense.toInt) : 0 < slice.amount := by
  by_contra hslice
  have hall : ∀ other ∈ slice :: slices, ¬ 0 < other.amount := by
    rw [List.forall_mem_cons]
    refine ⟨hslice, fun other hother hother_pos => hslice ?_⟩
    exact Int64.lt_of_lt_of_le hother_pos (List.rel_of_pairwise_cons hsorted hother)
  have hsum_le := amounts_nonpos hall
  have htotal := pos_iff.mp hpos
  omega

/-- The largest slice takes the whole circle if no other one is positive. -/
theorem le_sweepAngle_head (hothers : ∀ other ∈ slices, ¬ 0 < other.amount)
    (hsum : amounts (slice :: slices) = totalExpense.toInt) :
    360 ≤ sweepAngle totalExpense slice := by
  have hle := amounts_nonpos hothers
  have hsplit : amounts (slice :: slices) = slice.amount.toInt + amounts slices :=
    List.sum_cons
  have hamount : totalExpense.toInt ≤ slice.amount.toInt := by omega
  have hone : (1 : ℚ) ≤ slice.amount.toInt / totalExpense.toInt := by
    rw [one_le_div (by exact_mod_cast pos_iff.mp hpos)]
    exact_mod_cast hamount
  rw [sweepAngle]
  linarith

/-- **When taps hit what is drawn.** Slices that close the circle are hit where they are
drawn just when only one of them is positive. -/
theorem hitsDrawn_iff (hsorted : slices.Pairwise fun a b => b.amount ≤ a.amount)
    (hkeys : (slices.map Slice.categoryId).Nodup)
    (hsum : amounts slices = totalExpense.toInt) :
    HitsDrawn totalExpense slices ↔ ∀ slice ∈ slices, ∀ slice' ∈ slices,
      0 < slice.amount → 0 < slice'.amount → slice.categoryId = slice'.categoryId := by
  cases slices with
  | nil =>
      have htotal := pos_iff.mp hpos
      rw [← hsum] at htotal
      exact absurd htotal (lt_irrefl 0)
  | cons slice slices =>
      have hhead := head_pos hpos hsorted hsum
      constructor
      · intro hhits
        suffices hothers : ∀ other ∈ slices, ¬ 0 < other.amount by
          have hone : ∀ other ∈ slice :: slices, 0 < other.amount → other = slice := by
            intro other hother hpositive
            obtain rfl | hother := List.mem_cons.mp hother
            · rfl
            · exact absurd hpositive (hothers other hother)
          intro a ha b hb hapos hbpos
          rw [hone a ha hapos, hone b hb hbpos]
        intro other hother hpositive
        cases slices with
        | nil => exact absurd hother List.not_mem_nil
        | cons slice' slices =>
            refine not_hitsDrawn_of_two hpos hhead ?_ hhits
            obtain rfl | hother := List.mem_cons.mp hother
            · exact hpositive
            · have hle := List.rel_of_pairwise_cons hsorted.of_cons hother
              exact Int64.lt_of_lt_of_le hpositive hle
      · intro hunique
        have hothers : ∀ other ∈ slices, ¬ 0 < other.amount := by
          intro other hother hpositive
          have hid := hunique slice List.mem_cons_self other (List.mem_cons_of_mem _ hother)
            hhead hpositive
          rw [List.map_cons, List.nodup_cons, hid] at hkeys
          exact hkeys.1 (List.mem_map_of_mem hother)
        exact hitsDrawn_of_one hpos hothers (le_sweepAngle_head hpos hothers hsum)

end Hits

end Shares

/-! ### The transactions -/

variable (categories : List Category) (range : TimeRange) (now : ℤ) (items : List Transaction)

/-- The expenses of the range. -/
def rangeExpenses : List Transaction :=
  expenses (filteredItems range now items)

/-- The expenses before and after the range. -/
def otherExpenses : List Transaction :=
  (expenses items).filter fun tx =>
    !(decide (start range now ≤ tx.timestampUtcMillis) && decide (tx.timestampUtcMillis ≤ now))

/-- The categories that have expenses in the range. -/
def rangeCategories : List (Option ℤ) :=
  LinkedMap.firstKeys ((rangeExpenses range now items).map Transaction.categoryId)

/-- The sum of amounts, as far as a `Long` holds it. -/
def longSum (transactions : List Transaction) : ℤ :=
  (transactions.map fun tx : Transaction => tx.amount.minorUnits.toInt).sum.bmod (2 ^ 64)

/-- The expenses of the range in a category. -/
def categoryTotal (categoryId : Option ℤ) : ℤ :=
  longSum ((rangeExpenses range now items).filter fun tx => decide (tx.categoryId = categoryId))

/-- One category has all the expenses: those outside of the range sum to zero, and no other
category of the range has a positive sum. -/
structure OneCategory : Prop where
  total_pos : 0 < longSum (expenses items)
  others : longSum (otherExpenses range now items) = 0
  fits : ((rangeCategories range now items).map (categoryTotal range now items)).sum ∈
    Set.Ico (-2 ^ 63) (2 ^ 63)
  unique : ∀ c c', 0 < categoryTotal range now items c → 0 < categoryTotal range now items c' →
    c = c'

/-- The value of a `Long` sum. -/
theorem toInt_sumOf (transactions : List Transaction) :
    (sumOf transactions).toInt = longSum transactions := by
  rw [sumOf, BudgetRepositoryImpl.toInt_foldl_add, Int64.toInt_zero, zero_add, List.map_map,
    longSum]
  rfl

/-- A `Long` sum is the exact sum up to multiples of `2 ^ 64`. -/
theorem longSum_modEq (transactions : List Transaction) :
    longSum transactions ≡
      (transactions.map fun tx => tx.amount.minorUnits.toInt).sum [ZMOD 2 ^ 64] :=
  Int.bmod_emod

/-- A `Long` sum lies in the range of a `Long`. -/
theorem longSum_mem (transactions : List Transaction) :
    longSum transactions ∈ Set.Ico (-2 ^ 63) (2 ^ 63) := by
  rw [← toInt_sumOf]
  have hle := Int64.le_toInt (sumOf transactions)
  have hlt := Int64.toInt_lt (sumOf transactions)
  exact ⟨hle, hlt⟩

/-- The sums by category, under the categories in order. -/
theorem map_rows_sums :
    ((LinkedMap.sums Transaction.categoryId (fun tx => tx.amount.minorUnits)
      (rangeExpenses range now items)).rows.map fun entry => (entry.1, entry.2.toInt)) =
      (rangeCategories range now items).map fun c => (c, categoryTotal range now items c) := by
  have hkeys := @LinkedMap.keys_sums _ _ _ _ _ _ Transaction.categoryId
    (fun tx => tx.amount.minorUnits) (rangeExpenses range now items)
  rw [rangeCategories, ← hkeys, List.map_map]
  apply List.map_congr_left
  intro entry hentry
  have hget := LinkedMap.get_eq_some_iff.mpr hentry
  rw [LinkedMap.get_sums, SumsByKey.sumsByKey_apply, SumsByKey.total] at hget
  split_ifs at hget
  have hvalue : sumOf ((rangeExpenses range now items).filter fun tx =>
    decide (tx.categoryId = entry.1)) = entry.2 := Option.some.inj hget
  rw [Function.comp_apply, categoryTotal, ← toInt_sumOf, hvalue]

/-- **The slices** are the categories of the range with their sums, in some order. -/
theorem expenseByCategory_perm :
    ((expenseByCategory categories range now items).map fun slice =>
      (slice.categoryId, slice.amount.toInt)).Perm
      ((rangeCategories range now items).map fun c => (c, categoryTotal range now items c)) := by
  have hperm := ((LinkedMap.sums Transaction.categoryId (fun tx => tx.amount.minorUnits)
    (rangeExpenses range now items)).rows.map fun entry => (⟨entry.1,
      categoryName categories entry.1, entry.2⟩ : Slice)).perm_insertionSort
        fun a b => b.amount ≤ a.amount
  refine (hperm.map _).trans ?_
  rw [List.map_map, ← map_rows_sums]
  exact List.Perm.refl _

/-- The slices add up to the totals of the categories of the range. -/
theorem amounts_expenseByCategory :
    amounts (expenseByCategory categories range now items) =
      ((rangeCategories range now items).map (categoryTotal range now items)).sum := by
  have hperm := (expenseByCategory_perm categories range now items).map Prod.snd
  rw [List.map_map, List.map_map] at hperm
  exact hperm.sum_eq

/-- The slices are sorted by their amounts. -/
theorem sorted_expenseByCategory :
    (expenseByCategory categories range now items).Pairwise fun a b => b.amount ≤ a.amount := by
  exact List.pairwise_insertionSort (Order.Preimage Slice.amount (· ≥ ·)) _

/-- There is one slice for each category. -/
theorem nodup_expenseByCategory :
    ((expenseByCategory categories range now items).map Slice.categoryId).Nodup := by
  have hperm := (expenseByCategory_perm categories range now items).map Prod.fst
  rw [List.map_map, List.map_map] at hperm
  have hnodup := (LinkedMap.sums Transaction.categoryId (fun tx => tx.amount.minorUnits)
    (rangeExpenses range now items)).nodup_keys
  rw [LinkedMap.keys_sums, ← rangeCategories] at hnodup
  refine hperm.nodup_iff.mpr ?_
  rw [show Prod.fst ∘ (fun c => (c, categoryTotal range now items c)) = id from rfl, List.map_id]
  exact hnodup

/-- A category without expenses sums to nothing. -/
theorem categoryTotal_of_notMem {c : Option ℤ} (hc : c ∉ rangeCategories range now items) :
    categoryTotal range now items c = 0 := by
  rw [rangeCategories, ← @LinkedMap.keys_sums _ _ _ _ _ _ Transaction.categoryId
    (fun tx => tx.amount.minorUnits), ← LinkedMap.get_eq_none_iff, LinkedMap.get_sums,
    SumsByKey.sumsByKey_apply, SumsByKey.total] at hc
  split_ifs at hc with hempty
  have hnil : ((rangeExpenses range now items).filter fun tx =>
      decide (tx.categoryId = c)) = [] := List.map_eq_nil_iff.mp (List.isEmpty_iff.mp hempty)
  rw [categoryTotal, hnil]
  rfl

/-- The categories with a positive sum are those with a positive slice. -/
theorem exists_positive_slice_iff {c : Option ℤ} :
    (∃ slice ∈ expenseByCategory categories range now items,
      slice.categoryId = c ∧ 0 < slice.amount) ↔ 0 < categoryTotal range now items c := by
  have hperm := expenseByCategory_perm categories range now items
  constructor
  · rintro ⟨slice, hslice, rfl, hpos⟩
    have hmem := hperm.subset (List.mem_map_of_mem hslice)
    obtain ⟨c, -, heq⟩ := List.mem_map.mp hmem
    obtain ⟨rfl, htotal⟩ := Prod.mk.inj heq
    rw [htotal]
    exact pos_iff.mp hpos
  · intro hpos
    have hc : c ∈ rangeCategories range now items := by
      by_contra hc
      rw [categoryTotal_of_notMem range now items hc] at hpos
      exact lt_irrefl 0 hpos
    have hmem := hperm.symm.subset (List.mem_map_of_mem hc)
    obtain ⟨slice, hslice, heq⟩ := List.mem_map.mp hmem
    obtain ⟨hid, htotal⟩ := Prod.mk.inj heq
    rw [← htotal, ← pos_iff] at hpos
    exact ⟨slice, hslice, hid, hpos⟩

/-- At most one slice is positive exactly if at most one category has a positive total. -/
theorem positive_slices_iff :
    (∀ slice ∈ expenseByCategory categories range now items,
      ∀ slice' ∈ expenseByCategory categories range now items,
        0 < slice.amount → 0 < slice'.amount → slice.categoryId = slice'.categoryId) ↔
      ∀ c c', 0 < categoryTotal range now items c → 0 < categoryTotal range now items c' →
        c = c' := by
  simp only [← exists_positive_slice_iff categories range now items]
  constructor
  · rintro h c c' ⟨slice, hslice, rfl, hpos⟩ ⟨slice', hslice', rfl, hpos'⟩
    exact h slice hslice slice' hslice' hpos hpos'
  · intro h slice hslice slice' hslice' hpos hpos'
    exact h _ _ ⟨slice, hslice, rfl, hpos⟩ ⟨slice', hslice', rfl, hpos'⟩

/-- The expenses of the range and the others make up all of them. -/
theorem expenses_perm :
    (rangeExpenses range now items ++ otherExpenses range now items).Perm (expenses items) := by
  have hrange : rangeExpenses range now items = (expenses items).filter fun tx =>
      decide (start range now ≤ tx.timestampUtcMillis) &&
        decide (tx.timestampUtcMillis ≤ now) := by
    rw [rangeExpenses, filteredItems, expenses, expenses, List.filter_comm]
  rw [hrange, otherExpenses]
  exact List.filter_append_perm _ _

/-- All expenses there are, by the categories of the range, modulo `2 ^ 64`. -/
theorem longSum_expenses_modEq :
    longSum (expenses items) ≡
      ((rangeCategories range now items).map (categoryTotal range now items)).sum +
        longSum (otherExpenses range now items) [ZMOD 2 ^ 64] := by
  have hsums := sum_toInt_sums Transaction.categoryId (fun tx => tx.amount.minorUnits)
    (rangeExpenses range now items)
  have hrows := congrArg (List.map Prod.snd) (map_rows_sums range now items)
  rw [List.map_map, List.map_map] at hrows
  have hall := ((expenses_perm range now items).map fun tx : Transaction =>
    tx.amount.minorUnits.toInt).sum_eq
  rw [List.map_append, List.sum_append] at hall
  have htotal := longSum_modEq (expenses items)
  rw [← hall] at htotal
  refine htotal.trans (Int.ModEq.add ?_ (longSum_modEq _).symm)
  exact (congrArg List.sum hrows) ▸ hsums.symm

/-- **The numerators sum to the denominator** just when nothing is spent outside of the range
and the sum fits a `Long`. -/
theorem sum_eq_total_iff :
    ((rangeCategories range now items).map (categoryTotal range now items)).sum =
        longSum (expenses items) ↔
      longSum (otherExpenses range now items) = 0 ∧
        ((rangeCategories range now items).map (categoryTotal range now items)).sum ∈
          Set.Ico (-2 ^ 63) (2 ^ 63) := by
  have hmod := longSum_expenses_modEq range now items
  have htotal := longSum_mem (expenses items)
  have hothers := longSum_mem (otherExpenses range now items)
  rw [Set.mem_Ico] at htotal hothers ⊢
  rw [Int.ModEq] at hmod
  constructor
  · intro h
    refine ⟨?_, ?_, ?_⟩ <;> omega
  · rintro ⟨hzero, hlower, hupper⟩
    omega

/-- The shares do not add up over a denominator that is not positive. -/
theorem SharesAddUp.total_pos {total : Int64} {slices : List Slice}
    (h : SharesAddUp total slices) : 0 < total := by
  by_contra hpos
  have hsum := h.percentages
  rw [sum_percentage_of_not_pos hpos] at hsum
  norm_num at hsum

/-- **When the shares add up.** -/
theorem sharesAddUp_iff :
    SharesAddUp (totalExpense items) (expenseByCategory categories range now items) ↔
      OneCategory range now items := by
  have htotal : (totalExpense items).toInt = longSum (expenses items) := toInt_sumOf _
  have hsum := amounts_expenseByCategory categories range now items
  have hunique := positive_slices_iff categories range now items
  constructor
  · intro h
    have hpos := h.total_pos
    have hcloses := (closes_iff hpos).mp h.closes
    have hone := (hitsDrawn_iff hpos (sorted_expenseByCategory categories range now items)
      (nodup_expenseByCategory categories range now items) hcloses).mp h.hits
    rw [hsum, htotal] at hcloses
    obtain ⟨hothers, hfits⟩ := (sum_eq_total_iff range now items).mp hcloses
    rw [pos_iff, htotal] at hpos
    exact ⟨hpos, hothers, hfits, hunique.mp hone⟩
  · rintro ⟨hpos, hothers, hfits, hone⟩
    rw [← htotal, ← pos_iff] at hpos
    have hcloses := (sum_eq_total_iff range now items).mpr ⟨hothers, hfits⟩
    rw [← hsum, ← htotal] at hcloses
    have hsweeps := (closes_iff hpos).mpr hcloses
    refine ⟨hsweeps, ?_, ?_⟩
    · rw [sum_percentage hpos, hsweeps]
      norm_num
    · exact (hitsDrawn_iff hpos (sorted_expenseByCategory categories range now items)
        (nodup_expenseByCategory categories range now items) hcloses).mpr (hunique.mpr hone)

/-- An expense. -/
def spent (timestampUtcMillis : ℤ) (minorUnits : Int64) (categoryId : ℤ) : Transaction :=
  { id := none
    amount := { minorUnits := minorUnits }
    timestampUtcMillis := timestampUtcMillis
    note := none
    categoryId := some categoryId
    accountId := none
    type := .expense }

/-- The total counts the rent, which is outside the range. -/
theorem totalExpense_rent :
    totalExpense [spent 0 30000 1, spent 3456000000 10000 2] = 40000 := by
  decide

/-- The slices of the range do not. -/
theorem expenseByCategory_rent :
    expenseByCategory [] .monthly 3456000000 [spent 0 30000 1, spent 3456000000 10000 2] =
      [⟨some 2, "Bilinmeyen Kategori".toList, 10000⟩] := by
  decide

/-- With a lunch and a ticket in the range, the total is theirs. -/
theorem totalExpense_ticket :
    totalExpense [spent 3456000000 10000 2, spent 3456000000 5000 3] = 15000 := by
  decide

/-- They have a slice each, the lunch first. -/
theorem expenseByCategory_ticket :
    expenseByCategory [] .monthly 3456000000
        [spent 3456000000 10000 2, spent 3456000000 5000 3] =
      [⟨some 2, "Bilinmeyen Kategori".toList, 10000⟩,
        ⟨some 3, "Bilinmeyen Kategori".toList, 5000⟩] := by
  decide

/-- A rent that was paid forty days before a lunch: the lunch takes a quarter of the pie of
the month, and nothing takes the rest. A lunch and a ticket take the whole pie, but a tap on
the lunch finds the ticket. -/
theorem not_sharesAddUp_rent :
    (expenses (filteredItems .monthly 3456000000
      [spent 0 30000 1, spent 3456000000 10000 2])).length = 1 ∧
    ¬ SharesAddUp (totalExpense [spent 0 30000 1, spent 3456000000 10000 2])
      (expenseByCategory [] .monthly 3456000000
        [spent 0 30000 1, spent 3456000000 10000 2]) ∧
    ¬ SharesAddUp (totalExpense [spent 3456000000 10000 2, spent 3456000000 5000 3])
      (expenseByCategory [] .monthly 3456000000
        [spent 3456000000 10000 2, spent 3456000000 5000 3]) := by
  refine ⟨by decide, ?_, ?_⟩
  · intro h
    have hcloses := h.closes
    rw [totalExpense_rent, expenseByCategory_rent] at hcloses
    have hquarter : sweepAngle 40000 ⟨some 2, "Bilinmeyen Kategori".toList, 10000⟩ = 90 := by
      have hamount : (10000 : Int64).toInt = 10000 := by decide
      have htotal : (40000 : Int64).toInt = 40000 := by decide
      rw [sweepAngle, hamount, htotal]
      norm_num
    rw [List.map_singleton, List.sum_singleton, hquarter] at hcloses
    norm_num at hcloses
  · intro h
    have hhits := h.hits
    rw [totalExpense_ticket, expenseByCategory_ticket] at hhits
    exact not_hitsDrawn_of_two (by decide) (by decide) (by decide) hhits

end ReportsScreen

end SpendCraft
