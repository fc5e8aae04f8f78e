import SpendCraft.Lib.Binary64
import Mathlib.Algebra.Order.BigOperators.Group.List
import Mathlib.Data.List.Induction

/-!
# Sums and Quotients of Doubles

The error of a sum that is rounded at each addition, and the comparison of two doubles by
their rounded quotient.

## Conventions

A sum goes through the list from left to right and is rounded after every addition, as a loop
over an accumulator computes it; the order therefore matters, and no theorem permutes a list.
The signs are handled once: `signedRounded` rounds the absolute value, so that what holds of
nonnegative numbers holds of all.

## Proof

The error of a sum is bounded by induction on the list from its end. The size of the partial sum
has to be known before the error of the next addition is: the induction carries that the partial
sums stay below twice the bound `b` of the absolute values, which is the second hypothesis of
`abs_sum_sub_le`. The comparison by quotients needs that two doubles that differ do so by a unit
in the last place of the larger one (`exists_eq_mul_ulp`), so that their quotient stays below one
by more than the rounding of numbers just below one can make up.

## Main results

* `rounded_mono`, `rounded_rounded`: rounding is monotone and idempotent.
* `one_le_signedRounded_div_iff`: the quotient of two doubles is rounded to less than one
  just when it is less.
* `abs_sum_sub_le`: the error of a sum.
-/

namespace Binary64

/-! ### Monotonicity -/

/-- Rounding goes up by at most one. -/
theorem roundHalfEven_le (x : ℚ) : roundHalfEven x ≤ ⌊x⌋ + 1 := by
  rw [roundHalfEven]
  split_ifs <;> omega

/-- Rounding does not go below the floor. -/
theorem floor_le_roundHalfEven (x : ℚ) : ⌊x⌋ ≤ roundHalfEven x := by
  rw [roundHalfEven]
  split_ifs <;> omega

/-- Rounding to an integer is monotone. -/
theorem roundHalfEven_mono {x y : ℚ} (h : x ≤ y) : roundHalfEven x ≤ roundHalfEven y := by
  rcases (Int.floor_le_floor h).eq_or_lt with heq | hlt
  · rw [roundHalfEven, roundHalfEven, heq]
    split_ifs <;> first | omega | (exfalso; linarith)
  · have hx := roundHalfEven_le x
    have hy := floor_le_roundHalfEven y
    omega

/-- A bound by an integer survives rounding. -/
theorem roundHalfEven_le_of_le {x : ℚ} {k : ℤ} (h : x ≤ k) : roundHalfEven x ≤ k := by
  rw [← roundHalfEven_intCast k]
  exact roundHalfEven_mono h

/-- A lower bound by an integer survives rounding. -/
theorem le_roundHalfEven_of_le {x : ℚ} {k : ℤ} (h : (k : ℚ) ≤ x) : k ≤ roundHalfEven x := by
  rw [← roundHalfEven_intCast k]
  exact roundHalfEven_mono h

/-- Rounding does not pass a multiple of the unit. -/
theorem rounded_le_of_le {x : ℚ} {k : ℤ} (h : x ≤ k * ulp x) : rounded x ≤ k * ulp x := by
  have hk : roundHalfEven (x / ulp x) ≤ k := by
    apply roundHalfEven_le_of_le
    rw [div_le_iff₀ (ulp_pos x)]
    exact h
  have hcast : (roundHalfEven (x / ulp x) : ℚ) ≤ k := by exact_mod_cast hk
  exact mul_le_mul_of_nonneg_right hcast (ulp_pos x).le

/-- A bound by a multiple of the unit survives rounding. -/
theorem le_rounded_of_le {x : ℚ} {k : ℤ} (h : k * ulp x ≤ x) : k * ulp x ≤ rounded x := by
  have hk : k ≤ roundHalfEven (x / ulp x) := by
    apply le_roundHalfEven_of_le
    rw [le_div_iff₀ (ulp_pos x)]
    exact h
  have hcast : (k : ℚ) ≤ roundHalfEven (x / ulp x) := by exact_mod_cast hk
  exact mul_le_mul_of_nonneg_right hcast (ulp_pos x).le

/-- A larger power of two is a multiple of the unit. -/
theorem exists_zpow_eq_mul_ulp {x : ℚ} {e : ℤ} (h : Int.log 2 x - 52 ≤ e) (he : -1074 ≤ e) :
    ∃ k : ℕ, (2 : ℚ) ^ e = (2 ^ k : ℕ) * ulp x := by
  refine ⟨(e - max (Int.log 2 x - 52) (-1074)).toNat, ?_⟩
  have hexp : e = ((e - max (Int.log 2 x - 52) (-1074)).toNat : ℤ) +
      max (Int.log 2 x - 52) (-1074) := by omega
  conv_lhs => rw [hexp, zpow_add₀ (by norm_num), zpow_natCast]
  rw [ulp]
  push_cast
  rfl

/-- Rounding to a `Double` is monotone. -/
theorem rounded_mono {x y : ℚ} (hx : 0 < x) (h : x ≤ y) : rounded x ≤ rounded y := by
  have hy := hx.trans_le h
  have hlog : Int.log 2 x ≤ Int.log 2 y := Int.log_mono_right hx h
  rcases eq_or_ne (max (Int.log 2 x - 52) (-1074)) (max (Int.log 2 y - 52) (-1074)) with heq | hne
  · have hulp : ulp x = ulp y := by rw [ulp, ulp, heq]
    have hmono : (roundHalfEven (x / ulp y) : ℚ) ≤ roundHalfEven (y / ulp y) := by
      have hdiv : x / ulp y ≤ y / ulp y := by
        have hpos := ulp_pos y
        gcongr
      exact_mod_cast roundHalfEven_mono hdiv
    rw [rounded, rounded, hulp]
    exact mul_le_mul_of_nonneg_right hmono (ulp_pos y).le
  · -- a power of two lies between them
    have hbetween : x < 2 ^ Int.log 2 y := by
      have hlt : Int.log 2 x < Int.log 2 y := by omega
      rw [← Int.lt_zpow_iff_log_lt (by norm_num) hx] at hlt
      exact_mod_cast hlt
    have hpow : (2 : ℚ) ^ Int.log 2 y ≤ y := by
      exact_mod_cast Int.zpow_log_le_self (by norm_num : 1 < 2) hy
    obtain ⟨k, hk⟩ := exists_zpow_eq_mul_ulp (x := x) (e := Int.log 2 y) (by omega) (by omega)
    obtain ⟨j, hj⟩ := exists_zpow_eq_mul_ulp (x := y) (e := Int.log 2 y) (by omega) (by omega)
    calc rounded x ≤ ((2 ^ k : ℕ) : ℤ) * ulp x := by
          apply rounded_le_of_le
          rw [Int.cast_natCast, ← hk]
          exact hbetween.le
      _ = ((2 ^ j : ℕ) : ℤ) * ulp y := by
          rw [Int.cast_natCast, Int.cast_natCast, ← hk, ← hj]
      _ ≤ rounded y := by
          apply le_rounded_of_le
          rw [Int.cast_natCast, ← hj]
          exact hpow

/-! ### Doubles -/

/-- There are 53 bits. -/
theorem div_ulp_lt (x : ℚ) : x / ulp x < 2 ^ 53 := by
  rw [div_lt_iff₀ (ulp_pos x)]
  have hlt : x < 2 ^ (Int.log 2 x + 1) := by
    exact_mod_cast Int.lt_zpow_succ_log_self (by norm_num : 1 < 2) x
  calc x < 2 ^ (Int.log 2 x + 1) := hlt
    _ = 2 ^ 53 * 2 ^ (Int.log 2 x - 52) := by
        rw [← zpow_natCast, ← zpow_add₀ (by norm_num)]
        congr 1
        push_cast
        ring
    _ ≤ 2 ^ 53 * ulp x := by
        rw [ulp]
        gcongr
        · norm_num
        · exact le_max_left _ _

/-- A rounded value is a `Double`, so rounding it again changes nothing. -/
theorem rounded_rounded {x : ℚ} (hx : 0 ≤ x) : rounded (rounded x) = rounded x := by
  rcases hx.eq_or_lt with rfl | hpos
  · rw [rounded_zero, rounded_zero]
  · have hnonneg : 0 ≤ roundHalfEven (x / ulp x) :=
      roundHalfEven_nonneg (div_nonneg hx (ulp_pos x).le)
    obtain ⟨k, hk⟩ := Int.eq_ofNat_of_zero_le hnonneg
    have hle : roundHalfEven (x / ulp x) ≤ 2 ^ 53 := by
      apply roundHalfEven_le_of_le
      push_cast
      exact (div_ulp_lt x).le
    have hrounded : rounded x = k * 2 ^ max (Int.log 2 x - 52) (-1074) := by
      rw [rounded, hk, ulp, Int.cast_natCast]
    rw [hrounded]
    rcases (show k ≤ 2 ^ 53 by omega).eq_or_lt with heq | hlt
    · have hpow : (k : ℚ) * 2 ^ max (Int.log 2 x - 52) (-1074) =
          (1 : ℕ) * 2 ^ (53 + max (Int.log 2 x - 52) (-1074)) := by
        rw [heq, zpow_add₀ (by norm_num), Nat.cast_one, one_mul]
        norm_num
      rw [hpow, rounded_eq_self (by norm_num) (by omega)]
    · exact rounded_eq_self hlt (by omega)

/-- A double is a multiple of the unit of a smaller one. -/
theorem exists_eq_mul_ulp {x y : ℚ} (hx : 0 < x) (h : x ≤ y) (hy : rounded y = y) :
    ∃ k : ℤ, y = k * ulp x := by
  have hlog : Int.log 2 x ≤ Int.log 2 y := Int.log_mono_right hx h
  obtain ⟨k, hk⟩ := exists_zpow_eq_mul_ulp (x := x) (e := max (Int.log 2 y - 52) (-1074))
    (by omega) (by omega)
  refine ⟨roundHalfEven (y / ulp y) * (2 ^ k : ℕ), ?_⟩
  calc y = roundHalfEven (y / ulp y) * ulp y := hy.symm
    _ = roundHalfEven (y / ulp y) * ((2 ^ k : ℕ) * ulp x) := by rw [← hk, ← ulp]
    _ = _ := by
        push_cast
        ring

/-- The gap between two doubles. -/
theorem add_ulp_le {x y : ℚ} (hx : 0 < x) (hlt : x < y) (hxr : rounded x = x)
    (hyr : rounded y = y) : x + ulp x ≤ y := by
  obtain ⟨j, hj⟩ := exists_eq_mul_ulp hx le_rfl hxr
  obtain ⟨k, hk⟩ := exists_eq_mul_ulp hx hlt.le hyr
  have hpos := ulp_pos x
  have hjk : j < k := by
    have hmul : (j : ℚ) * ulp x < k * ulp x := by
      rw [← hj, ← hk]
      exact hlt
    exact_mod_cast lt_of_mul_lt_mul_right hmul hpos.le
  have hcast : (j : ℚ) + 1 ≤ k := by exact_mod_cast hjk
  calc x + ulp x = (j + 1) * ulp x := by
        rw [add_mul, one_mul, ← hj]
    _ ≤ k * ulp x := by gcongr
    _ = y := hk.symm

/-! ### Quotients -/

/-- A quotient of doubles is not rounded up to one. -/
theorem rounded_div_lt_one {x y : ℚ} (hx : 0 < x) (hlt : x < y) (hxr : rounded x = x)
    (hyr : rounded y = y) : rounded (x / y) < 1 := by
  have hy := hx.trans hlt
  have hgap := add_ulp_le hx hlt hxr hyr
  have hquotient : x / y < 1 - 1 / 2 ^ 54 := by
    have hulp : x / 2 ^ 53 < ulp x := by
      have hbits := div_ulp_lt x
      rw [div_lt_iff₀ (ulp_pos x)] at hbits
      rw [div_lt_iff₀ (by norm_num)]
      linarith
    rw [div_lt_iff₀ hy]
    linarith
  have hpos : 0 < x / y := div_pos hx hy
  rcases lt_or_ge (x / y) (1 / 2) with hsmall | hlarge
  · have herror := (abs_lt.mp (abs_rounded_sub_lt hpos.le)).2
    linarith
  · -- between a half and one the unit is `2 ^ (-53)`
    generalize x / y = q at *
    have hle : -1 ≤ Int.log 2 q := by
      rw [← Int.zpow_le_iff_le_log (by norm_num) hpos]
      norm_num
      linarith
    have hlt : Int.log 2 q < 0 := by
      rw [← Int.lt_zpow_iff_log_lt (by norm_num) hpos]
      norm_num
      linarith
    have hulp : ulp q = 1 / 2 ^ 53 := by
      rw [ulp, show max (Int.log 2 q - 52) (-1074) = -53 by omega, zpow_neg, one_div]
      rfl
    have hround := (abs_le.mp (abs_roundHalfEven_sub_le (q / ulp q))).2
    have hdiv : q / ulp q = q * 2 ^ 53 := by
      rw [hulp, div_div_eq_mul_div, div_one]
    have hscaled : q * 2 ^ 53 < 2 ^ 53 - 1 / 2 := by
      norm_num at hquotient ⊢
      linarith
    have hint : roundHalfEven (q / ulp q) < 2 ^ 53 := by
      have hcast : (roundHalfEven (q / ulp q) : ℚ) < 2 ^ 53 := by linarith
      exact_mod_cast hcast
    have hint' : (roundHalfEven (q / ulp q) : ℚ) ≤ 2 ^ 53 - 1 := by
      exact_mod_cast Int.le_sub_one_of_lt hint
    rw [rounded, hulp]
    rw [hulp] at hint'
    linarith

/-! ### Signs -/

/-- The sign does not matter above zero. -/
theorem signedRounded_of_nonneg {x : ℚ} (hx : 0 ≤ x) : signedRounded x = rounded x :=
  if_pos hx

/-- Zero is a `Double`. -/
theorem signedRounded_zero : signedRounded 0 = 0 :=
  (signedRounded_of_nonneg le_rfl).trans rounded_zero

/-- Rounding keeps the sign of what is not negative. -/
theorem signedRounded_nonneg {x : ℚ} (hx : 0 ≤ x) : 0 ≤ signedRounded x := by
  rw [signedRounded_of_nonneg hx]
  exact rounded_nonneg hx

/-- Rounding is monotone above zero. -/
theorem signedRounded_mono {x y : ℚ} (hx : 0 ≤ x) (h : x ≤ y) :
    signedRounded x ≤ signedRounded y := by
  rcases hx.eq_or_lt with rfl | hpos
  · rw [signedRounded_zero]
    exact signedRounded_nonneg h
  · rw [signedRounded_of_nonneg hx, signedRounded_of_nonneg (hx.trans h)]
    exact rounded_mono hpos h

/-- Rounding keeps the sign of what is not positive. -/
theorem signedRounded_nonpos {x : ℚ} (hx : x ≤ 0) : signedRounded x ≤ 0 := by
  rw [signedRounded]
  split_ifs with h
  · rw [le_antisymm hx h, rounded_zero]
  · have hnonneg : 0 ≤ rounded (-x) := rounded_nonneg (by linarith)
    linarith

/-- Integers below `2 ^ 53` are `Double`s. -/
theorem signedRounded_intCast {k : ℤ} (h : |k| < 2 ^ 53) : signedRounded k = k := by
  rw [signedRounded]
  split_ifs with hk
  · obtain ⟨n, rfl⟩ := Int.eq_ofNat_of_zero_le (by exact_mod_cast hk : 0 ≤ k)
    rw [Int.cast_natCast]
    exact rounded_natCast (by rw [abs_of_nonneg (by omega)] at h; omega)
  · have hneg : k < 0 := by exact_mod_cast not_le.mp hk
    obtain ⟨n, hn⟩ := Int.eq_ofNat_of_zero_le (by omega : 0 ≤ -k)
    have hcast : -(k : ℚ) = n := by exact_mod_cast hn
    have hlt : n < 2 ^ 53 := by
      rw [abs_of_neg hneg] at h
      omega
    rw [hcast, rounded_natCast hlt, ← hcast, neg_neg]

/-- The rounding error, with a bound for underflow that is easy to compute with. -/
theorem abs_signedRounded_sub_le (x : ℚ) : |signedRounded x - x| ≤ |x| / 2 ^ 53 + 1 / 2 ^ 70 := by
  have hunderflow : (2 : ℚ) ^ (-1075 : ℤ) ≤ 2 ^ (-70 : ℤ) :=
    zpow_le_zpow_right₀ (by norm_num) (by norm_num)
  have hseventy : (2 : ℚ) ^ (-70 : ℤ) = 1 / 2 ^ 70 := by
    rw [zpow_neg, one_div]
    rfl
  rw [hseventy] at hunderflow
  rw [signedRounded]
  split_ifs with h
  · rw [abs_of_nonneg h]
    exact (abs_rounded_sub_le h).trans (add_le_add le_rfl hunderflow)
  · have hneg : 0 ≤ -x := by linarith
    rw [abs_of_neg (not_le.mp h)]
    calc |-rounded (-x) - x| = |rounded (-x) - -x| := by
          rw [← abs_neg]
          congr 1
          ring
      _ ≤ -x / 2 ^ 53 + 1 / 2 ^ 70 :=
          (abs_rounded_sub_le hneg).trans (add_le_add le_rfl hunderflow)

/-- Rounding twice is rounding once, whatever the sign. -/
theorem signedRounded_signedRounded (x : ℚ) :
    signedRounded (signedRounded x) = signedRounded x := by
  rcases le_or_gt 0 x with h | h
  · rw [signedRounded_of_nonneg h, signedRounded_of_nonneg (rounded_nonneg h), rounded_rounded h]
  · have hneg : 0 ≤ -x := by linarith
    have hx : signedRounded x = -rounded (-x) := if_neg (not_le.mpr h)
    rcases (rounded_nonneg hneg).eq_or_lt with hzero | hpos
    · rw [hx, ← hzero, neg_zero, signedRounded_of_nonneg le_rfl, rounded_zero]
    · rw [hx, signedRounded, if_neg (by linarith), neg_neg, rounded_rounded hneg]

/-- **Two doubles are compared** by their rounded quotient. -/
theorem one_le_signedRounded_div_iff {x y : ℚ} (hx : signedRounded x = x)
    (hy : signedRounded y = y) (hpos : 0 < y) : 1 ≤ signedRounded (x / y) ↔ y ≤ x := by
  rw [signedRounded_of_nonneg hpos.le] at hy
  constructor
  · contrapose!
    intro hlt
    rcases le_or_gt x 0 with hnonpos | hx0
    · have hquotient := signedRounded_nonpos (div_nonpos_of_nonpos_of_nonneg hnonpos hpos.le)
      linarith
    · rw [signedRounded_of_nonneg hx0.le] at hx
      rw [signedRounded_of_nonneg (div_pos hx0 hpos).le]
      exact rounded_div_lt_one hx0 hlt hx hy
  · intro hle
    have hone : 1 ≤ x / y := (one_le_div hpos).mpr hle
    have hrounded : rounded 1 = 1 := by
      exact_mod_cast rounded_natCast (n := 1) (by norm_num)
    rw [signedRounded_of_nonneg (by linarith), ← hrounded]
    exact rounded_mono one_pos hone

/-! ### Sums -/

/-- The sum from left to right. -/
def sum (l : List ℚ) : ℚ :=
  l.foldl (fun total x => signedRounded (total + x)) 0

/-- The last summand is added last. -/
theorem sum_append_singleton (l : List ℚ) (x : ℚ) :
    sum (l ++ [x]) = signedRounded (sum l + x) := by
  rw [sum, List.foldl_append]
  rfl

/-- A sum of zeros is zero. -/
theorem sum_eq_zero {l : List ℚ} (h : ∀ x ∈ l, x = 0) : sum l = 0 := by
  induction l using List.reverseRecOn with
  | nil => rfl
  | append_singleton l x ih =>
      rw [sum_append_singleton, ih fun y hy => h y (List.mem_append_left _ hy),
        h x (List.mem_append_right _ (List.mem_singleton_self x)), add_zero, signedRounded_zero]

/-- A sum is a `Double`. -/
theorem signedRounded_sum (l : List ℚ) : signedRounded (sum l) = sum l := by
  induction l using List.reverseRecOn with
  | nil => exact signedRounded_zero
  | append_singleton l x _ => rw [sum_append_singleton, signedRounded_signedRounded]

/-- Integers are added up exactly. -/
theorem sum_intCast {l : List ℤ} (h : (l.map fun k => |k|).sum < 2 ^ 53) :
    sum (l.map fun k : ℤ => (k : ℚ)) = l.sum := by
  induction l using List.reverseRecOn with
  | nil => rfl
  | append_singleton l k ih =>
      have htotal := (List.le_sum_of_subadditive (fun k : ℤ => |k|) abs_zero.le abs_add_le
        (l ++ [k])).trans_lt h
      rw [List.map_append, List.sum_append, List.map_singleton, List.sum_singleton] at h
      have hk := abs_nonneg k
      rw [List.map_append, List.map_singleton, sum_append_singleton, ih (by omega), ← Int.cast_add,
        signedRounded_intCast, List.sum_append, List.sum_singleton]
      rw [List.sum_append, List.sum_singleton] at htotal
      exact htotal

/-- **The error of a sum**: each addition contributes the error of a number of the size of
the bound `b`. -/
theorem abs_sum_sub_le {l : List ℚ} {b : ℚ} (hb : (l.map fun x => |x|).sum ≤ b)
    (hl : l.length * (2 * b / 2 ^ 53 + 1 / 2 ^ 70) ≤ b) :
    |sum l - l.sum| ≤ l.length * (2 * b / 2 ^ 53 + 1 / 2 ^ 70) := by
  induction l using List.reverseRecOn with
  | nil => simp [sum]
  | append_singleton l x ih =>
      rw [List.map_append, List.sum_append, List.map_singleton, List.sum_singleton] at hb
      rw [List.length_append, List.length_singleton, Nat.cast_add, Nat.cast_one, add_mul,
        one_mul] at hl ⊢
      have hsize := List.le_sum_of_subadditive (fun x : ℚ => |x|) abs_zero.le abs_add_le l
      have hx := abs_nonneg x
      have hb0 : 0 ≤ b := by linarith [abs_nonneg l.sum]
      have hone : 0 < 2 * b / 2 ^ 53 + 1 / 2 ^ 70 := by positivity
      have hprevious := ih (by linarith) (by linarith)
      have htotal : |sum l + x| ≤ 2 * b := by
        calc |sum l + x| = |(sum l - l.sum) + (l.sum + x)| := by
              congr 1
              ring
          _ ≤ |sum l - l.sum| + (|l.sum| + |x|) :=
              (abs_add_le _ _).trans (add_le_add le_rfl (abs_add_le _ _))
          _ ≤ 2 * b := by linarith
      have hrounding : |signedRounded (sum l + x) - (sum l + x)| ≤
          2 * b / 2 ^ 53 + 1 / 2 ^ 70 := by
        calc |signedRounded (sum l + x) - (sum l + x)|
            ≤ |sum l + x| / 2 ^ 53 + 1 / 2 ^ 70 := abs_signedRounded_sub_le _
          _ ≤ 2 * b / 2 ^ 53 + 1 / 2 ^ 70 := by gcongr
      rw [sum_append_singleton, List.sum_append, List.sum_singleton]
      calc |signedRounded (sum l + x) - (l.sum + x)|
          = |(signedRounded (sum l + x) - (sum l + x)) + (sum l - l.sum)| := by
            congr 1
            ring
        _ ≤ |signedRounded (sum l + x) - (sum l + x)| + |sum l - l.sum| := abs_add_le _ _
        _ ≤ _ := by linarith

end Binary64
