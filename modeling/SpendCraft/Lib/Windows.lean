import Mathlib.Algebra.BigOperators.Group.List.Basic
import Mathlib.Order.Lattice
import Mathlib.Order.Monotone.Basic

/-!
# Windows

A window selects elements of a list. Several windows together count an element as often as
it lies in one of them, so that their sums are the sum of a period just when they cover the
period once and nothing else that counts.

## Conventions

A window is a Boolean function on elements, an interval of any linear order or anything else, and
a list of windows may contain one twice. The sums are in any commutative monoid, so the values may
be machine integers, whose sums wrap. An element is counted with its multiplicity: what lies in two
windows has its value twice in the sum of the sums.

## Proof

The sum of the sums is the sum over the elements with the number of their windows as a factor
(`sum_windows`), so a list of windows is as good as its `hits`. An interval is half open (`within`).
Two of them agree about an element if it lies between their starts just when it lies between their
ends, and consecutive ones count what lies between the outer ends once, by induction on their
number.

## Main results

* `sum_windows`: the sums of the windows, by the hits of the elements.
* `sum_windows_eq`, `sum_windows_eq_add`: windows that cover a period once, and what they
  cover besides.
* `within_iff_within`: where two windows agree.
* `countP_consecutive`, `countP_disjoint`: consecutive windows cover what lies between their
  ends once; disjoint ones cover nothing twice.
* `countP_overlapping`: what overlapping windows cover.
-/

namespace Windows

/-! ### Sums -/

section Sums

variable {α M : Type*} [AddCommMonoid M] {windows : List (α → Bool)} {period : α → Bool}
  {l : List α}

/-- In how many of the windows an element lies. -/
def hits (windows : List (α → Bool)) (a : α) : ℕ :=
  windows.countP fun window => window a

/-- The sum over a window. -/
def sum (f : α → M) (l : List α) (window : α → Bool) : M :=
  ((l.filter window).map f).sum

/-- The sum over a window, element by element. -/
theorem sum_cons (f : α → M) (a : α) (l : List α) (window : α → Bool) :
    sum f (a :: l) window = (if window a then f a else 0) + sum f l window := by
  rw [sum, List.filter_cons]
  split_ifs
  · rw [List.map_cons, List.sum_cons, sum]
  · rw [zero_add, sum]

/-- A window counts what it selects once. -/
theorem sum_eq_sum_nsmul (f : α → M) (l : List α) (window : α → Bool) :
    sum f l window = (l.map fun a => (if window a then 1 else 0) • f a).sum := by
  induction l with
  | nil => rfl
  | cons a l ih =>
      rw [sum_cons, ih, List.map_cons, List.sum_cons, ite_smul, one_nsmul, zero_nsmul]

/-- An element counts once for each window that it is in. -/
theorem sum_indicators (windows : List (α → Bool)) (a : α) (x : M) :
    (windows.map fun window => if window a then x else 0).sum = hits windows a • x := by
  induction windows with
  | nil => rw [List.map_nil, List.sum_nil, hits, List.countP_nil, zero_nsmul]
  | cons window windows ih =>
      rw [List.map_cons, List.sum_cons, ih, hits, hits, List.countP_cons]
      split_ifs
      · rw [add_nsmul, one_nsmul, add_comm]
      · rw [zero_add, add_zero]

/-- **The sums of the windows** count each element as often as it is hit. -/
theorem sum_windows (f : α → M) (l : List α) (windows : List (α → Bool)) :
    (windows.map (sum f l)).sum = (l.map fun a => hits windows a • f a).sum := by
  induction l with
  | nil =>
      have hempty : sum f ([] : List α) = fun _ => 0 := rfl
      simp [hempty]
  | cons a l ih =>
      rw [List.map_cons, List.sum_cons, ← ih, ← sum_indicators, ← List.sum_map_add]
      congr 1
      apply List.map_congr_left
      intro window _
      exact sum_cons f a l window

/-- **Two selections that are covered once**: the sums of the windows are those of the two. -/
theorem sum_windows_eq_add (f : α → M) {besides : α → Bool}
    (h : ∀ a ∈ l, hits windows a = (if period a then 1 else 0) + if besides a then 1 else 0) :
    (windows.map (sum f l)).sum = sum f l period + sum f l besides := by
  rw [sum_windows, sum_eq_sum_nsmul f l period, sum_eq_sum_nsmul f l besides, ← List.sum_map_add]
  congr 1
  apply List.map_congr_left
  intro a ha
  rw [h a ha, add_nsmul]

/-- **A period that is covered once**: the sums of the windows are the sum of the period. -/
theorem sum_windows_eq (f : α → M) (h : ∀ a ∈ l, hits windows a = if period a then 1 else 0) :
    (windows.map (sum f l)).sum = sum f l period := by
  rw [sum_windows, sum_eq_sum_nsmul]
  congr 1
  apply List.map_congr_left
  intro a ha
  rw [h a ha]

end Sums

/-! ### Intervals -/

section Intervals

variable {ι : Type*} [LinearOrder ι] {start stop : ℕ → ι}

/-- The window from one instant to the next. -/
def within (start stop x : ι) : Bool :=
  decide (start ≤ x) && decide (x < stop)

/-- What it is to lie within two bounds. -/
@[simp] theorem within_eq_true_iff {a b x : ι} : within a b x = true ↔ a ≤ x ∧ x < b := by
  rw [within, Bool.and_eq_true, decide_eq_true_iff, decide_eq_true_iff]

/-- Between two instants, whichever comes first. -/
def Between (a b x : ι) : Prop :=
  a ≤ x ∧ x < b ∨ b ≤ x ∧ x < a

/-- **Two windows agree** where no more than one of them has begun or ended. -/
theorem within_iff_within {a b c d : ι} (hab : a ≤ b) (hcd : c ≤ d) (x : ι) :
    (within a b x = true ↔ within c d x = true) ↔ (Between a c x ↔ Between b d x) := by
  rw [within_eq_true_iff, within_eq_true_iff, Between, Between]
  have hstart : b ≤ x → a ≤ x := hab.trans
  have hstart' : d ≤ x → c ≤ x := hcd.trans
  simp only [← not_le]
  by_cases hb : b ≤ x
  · by_cases hd : d ≤ x
    · simp [hb, hd, hstart hb, hstart' hd]
    · simp [hb, hd, hstart hb]
  · by_cases hd : d ≤ x
    · simp [hb, hd, hstart' hd]
    · by_cases ha : a ≤ x
      · simp [hb, hd, ha]
      · simp [hb, hd, ha]

/-- Windows that agree everywhere are the same. -/
theorem eq_of_within_iff_within {a b c d : ι} (hab : a < b) (hcd : c < d)
    (h : ∀ x, within a b x = true ↔ within c d x = true) : a = c ∧ b = d := by
  simp only [within_eq_true_iff] at h
  have hac := (h a).mp ⟨le_rfl, hab⟩
  have hca := (h c).mpr ⟨le_rfl, hcd⟩
  refine ⟨le_antisymm hca.1 hac.1, le_antisymm ?_ ?_⟩
  · by_contra hlt
    have hend := (h d).mp ⟨hac.2.le, not_le.mp hlt⟩
    exact lt_irrefl d hend.2
  · by_contra hlt
    have hend := (h b).mpr ⟨hac.1.trans hab.le, not_le.mp hlt⟩
    exact lt_irrefl b hend.2

/-- Two windows that meet are one. -/
theorem within_add_within {a b c : ι} (hab : a ≤ b) (hbc : b ≤ c) (x : ι) :
    (if within a b x then 1 else 0) + (if within b c x then 1 else 0) =
      if within a c x then 1 else 0 := by
  simp only [within_eq_true_iff]
  rcases lt_or_ge x b with hlt | hge
  · have hafter : x < c := hlt.trans_le hbc
    simp [hlt, hafter]
  · have hbefore : a ≤ x := hab.trans hge
    simp [hge, hbefore]

/-- Windows that follow one another without a gap count an element once. -/
theorem countP_within_of_eq (hstart : Monotone start) {n : ℕ}
    (hstop : ∀ k < n, stop k = start (k + 1)) (x : ι) :
    (List.range n).countP (fun k => within (start k) (stop k) x) =
      if within (start 0) (start n) x then 1 else 0 := by
  induction n with
  | zero =>
      rw [List.range_zero, List.countP_nil, if_neg]
      rw [within_eq_true_iff, not_and]
      exact not_lt_of_ge
  | succ n ih =>
      rw [List.range_succ, List.countP_append, List.countP_singleton,
        ih fun k hk => hstop k (by omega), hstop n (by omega),
        within_add_within (hstart (Nat.zero_le n)) (hstart (Nat.le_succ n))]

/-- **Consecutive windows** cover what lies between their ends once. -/
theorem countP_consecutive (hstart : Monotone start) {n : ℕ} (hlast : start n ≤ stop n)
    (hstop : ∀ k < n, stop k = start (k + 1)) (x : ι) :
    (List.range (n + 1)).countP (fun k => within (start k) (stop k) x) =
      if within (start 0) (stop n) x then 1 else 0 := by
  rw [List.range_succ, List.countP_append, List.countP_singleton,
    countP_within_of_eq hstart hstop, within_add_within (hstart (Nat.zero_le n)) hlast]

/-- **Overlapping windows** cover what lies between their ends once, and what each of them
shares with the next one once more. -/
theorem countP_overlapping (hstart : Monotone start) {n : ℕ} (hlast : start n ≤ stop n)
    (hstop : ∀ k < n, start (k + 1) ≤ stop k) (x : ι) :
    (List.range (n + 1)).countP (fun k => within (start k) (stop k) x) =
      (if within (start 0) (stop n) x then 1 else 0) +
        (List.range n).countP fun k => within (start (k + 1)) (stop k) x := by
  have hsplit : (List.range n).countP (fun k => within (start k) (stop k) x) =
      (List.range n).countP (fun k => within (start k) (start (k + 1)) x) +
        (List.range n).countP fun k => within (start (k + 1)) (stop k) x := by
    clear hlast
    induction n with
    | zero => rfl
    | succ n ih =>
        have hwindow := within_add_within (hstart (Nat.le_add_right n 1))
          (hstop n (Nat.lt_succ_self n)) x
        simp only [List.range_succ, List.countP_append, List.countP_singleton]
        rw [ih fun k hk => hstop k (Nat.lt_succ_of_lt hk)]
        omega
  have hmeet := @countP_within_of_eq ι _ start (fun k => start (k + 1)) hstart n (fun _ _ => rfl) x
  have hwhole := within_add_within (hstart (Nat.zero_le n)) hlast x
  rw [List.range_succ, List.countP_append, List.countP_singleton, hsplit, hmeet, ← hwhole]
  omega

/-- **Disjoint windows** cover nothing twice. -/
theorem countP_disjoint (hstart : Monotone start) (hstop : ∀ k, stop k ≤ start (k + 1)) (n : ℕ)
    (x : ι) : (List.range n).countP (fun k => within (start k) (stop k) x) ≤ 1 := by
  calc (List.range n).countP (fun k => within (start k) (stop k) x)
      ≤ (List.range n).countP (fun k => within (start k) (start (k + 1)) x) := by
        apply List.countP_mono_left
        intro k _ hwithin
        rw [within_eq_true_iff] at hwithin ⊢
        exact ⟨hwithin.1, hwithin.2.trans_le (hstop k)⟩
    _ ≤ 1 := by
        rw [@countP_within_of_eq ι _ start (fun k => start (k + 1)) hstart n fun _ _ => rfl]
        split_ifs
        · exact le_rfl
        · exact Nat.zero_le 1

end Intervals

end Windows
