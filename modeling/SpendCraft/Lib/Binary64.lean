import Mathlib.Data.Int.Log
import Mathlib.Data.Rat.Floor
import Mathlib.Algebra.Order.Field.Basic
import Mathlib.Tactic.Linarith
import Mathlib.Tactic.NormNum
import Mathlib.Tactic.Ring
import Mathlib.Tactic.FieldSimp

/-!
# Double-Precision Numbers

The binary64 format on the rationals: a nonnegative number is rounded to a multiple of the
unit in its last place (`ulp`), ties to the even multiple, and what reaches `2 ^ 1024` is
infinite. There are 53 bits of precision, fewer below `2 ^ (-1022)`.

## Conventions

A number of the format is the rational number that it is: `rounded x` is the number nearest to
`x`, and an operation on two of them is the rational operation followed by one rounding. The
definitions compute, so the rounding of a closed number is decided by evaluation. NaN is left
out, and so is the sign of zero; infinity is a value of its own only where a conversion can
meet it (`Value`). `Int.log 2` gives the exponent of a number, and `ulp` never falls below
`2 ^ (-1074)`, which makes the numbers near zero equally spaced.

`truncated` cuts off the fraction towards zero, whereas `Value.toLong` takes the floor: for the
nonnegative numbers of `Value` the two are the same. A conversion that saturates keeps the
largest integer of 64 bits.

## Proof

Every bound comes from two facts: rounding to an integer is off by one half at most
(`abs_roundHalfEven_sub_le`), and half a unit in the last place is at most the fraction `1 / 2 ^ 53`
of the number and half the smallest positive one (`ulp_div_two_le`). Small integers are exact
because such an integer is a multiple of its own unit.

## Main results

* `abs_rounded_sub_le`: the rounding error, relative and for underflow.
* `rounded_eq_self`: integers below `2 ^ 53` times a power of two are not rounded.
* `toLong_times_bounds`: a multiple of a rounded number, cut off to an integer.
* `toLong_times_eq_iff`: when that integer is the exact multiple.
-/

namespace Binary64

/-! ### Rounding -/

/-- The nearest integer, the even one of two. -/
def roundHalfEven (x : ℚ) : ℤ :=
  if x - ⌊x⌋ < 1 / 2 then ⌊x⌋
  else if 1 / 2 < x - ⌊x⌋ then ⌊x⌋ + 1
  else if ⌊x⌋ % 2 = 0 then ⌊x⌋ else ⌊x⌋ + 1

/-- Rounding to an integer is off by a half at most. -/
theorem abs_roundHalfEven_sub_le (x : ℚ) : |(roundHalfEven x : ℚ) - x| ≤ 1 / 2 := by
  have hfloor := Int.floor_le x
  have hlt := Int.lt_floor_add_one x
  rw [roundHalfEven, abs_le]
  split_ifs <;> push_cast <;> refine ⟨?_, ?_⟩ <;> linarith

/-- Integers stay as they are. -/
@[simp]
theorem roundHalfEven_intCast (k : ℤ) : roundHalfEven (k : ℚ) = k := by
  rw [roundHalfEven, Int.floor_intCast, sub_self, if_pos (by norm_num)]

/-- Rounding keeps what is not negative. -/
theorem roundHalfEven_nonneg {x : ℚ} (hx : 0 ≤ x) : 0 ≤ roundHalfEven x := by
  have hfloor : 0 ≤ ⌊x⌋ := Int.floor_nonneg.mpr hx
  rw [roundHalfEven]
  split_ifs <;> omega

/-- An even integer is reached from half below. -/
theorem two_mul_le_roundHalfEven_iff {m : ℤ} {x : ℚ} :
    2 * m ≤ roundHalfEven x ↔ (2 * m : ℚ) ≤ x + 1 / 2 := by
  constructor
  · intro hle
    have herror := (abs_le.mp (abs_roundHalfEven_sub_le x)).2
    have hcast : (2 * m : ℚ) ≤ roundHalfEven x := by exact_mod_cast hle
    linarith
  · intro hle
    have hbelow : 2 * m - 1 ≤ ⌊x⌋ := by
      rw [Int.le_floor]
      push_cast
      linarith
    obtain heq | hlt := hbelow.eq_or_lt
    · -- the half above an odd integer is rounded up
      have hfloor : (⌊x⌋ : ℚ) = 2 * m - 1 := by exact_mod_cast heq.symm
      rw [roundHalfEven, hfloor, ← heq, if_neg (by linarith)]
      split_ifs with habove heven
      · omega
      · omega
      · omega
    · rw [roundHalfEven]
      split_ifs <;> omega

/-- The unit in the last place of a nonnegative number. -/
def ulp (x : ℚ) : ℚ :=
  2 ^ max (Int.log 2 x - 52) (-1074)

/-- The nearest multiple of the unit in the last place. -/
def rounded (x : ℚ) : ℚ :=
  roundHalfEven (x / ulp x) * ulp x

/-- The unit in the last place is positive. -/
theorem ulp_pos (x : ℚ) : 0 < ulp x :=
  zpow_pos (by norm_num) _

/-- Half a unit in the last place, against the size of the number. -/
theorem ulp_div_two_le {x : ℚ} (hx : 0 < x) : ulp x / 2 ≤ x / 2 ^ 53 + 2 ^ (-1075 : ℤ) := by
  have hlog : (2 : ℚ) ^ Int.log 2 x ≤ x := by
    exact_mod_cast Int.zpow_log_le_self (by norm_num : 1 < 2) hx
  have hunderflow : (0 : ℚ) < 2 ^ (-1075 : ℤ) := zpow_pos (by norm_num) _
  rcases le_total (-1074) (Int.log 2 x - 52) with h | h
  · have hulp : ulp x = 2 ^ Int.log 2 x / 2 ^ 52 := by
      rw [ulp, max_eq_left h, zpow_sub₀ (by norm_num)]
      rfl
    calc ulp x / 2 = 2 ^ Int.log 2 x / 2 ^ 53 := by rw [hulp]; ring
      _ ≤ x / 2 ^ 53 := by gcongr
      _ ≤ x / 2 ^ 53 + 2 ^ (-1075 : ℤ) := by linarith
  · have hulp : ulp x / 2 = 2 ^ (-1075 : ℤ) := by
      rw [ulp, max_eq_right h, div_eq_mul_inv, ← zpow_neg_one, ← zpow_add₀ (by norm_num)]
      rfl
    have hnonneg : 0 ≤ x / 2 ^ 53 := by positivity
    linarith

/-- Zero is a `Double`. -/
theorem rounded_zero : rounded 0 = 0 := by
  rw [rounded, zero_div, ← Int.cast_zero, roundHalfEven_intCast, Int.cast_zero, zero_mul]

/-- Rounding keeps what is not negative. -/
theorem rounded_nonneg {x : ℚ} (hx : 0 ≤ x) : 0 ≤ rounded x := by
  have hround : 0 ≤ roundHalfEven (x / ulp x) :=
    roundHalfEven_nonneg (div_nonneg hx (ulp_pos x).le)
  exact mul_nonneg (by exact_mod_cast hround) (ulp_pos x).le

/-- **The rounding error** is relative, except for underflow. -/
theorem abs_rounded_sub_le {x : ℚ} (hx : 0 ≤ x) :
    |rounded x - x| ≤ x / 2 ^ 53 + 2 ^ (-1075 : ℤ) := by
  rcases hx.eq_or_lt with rfl | hpos
  · rw [rounded_zero]
    norm_num
  · have hulp := ulp_pos x
    have hscaled : rounded x - x = (roundHalfEven (x / ulp x) - x / ulp x) * ulp x := by
      rw [rounded, sub_mul, div_mul_cancel₀ _ hulp.ne']
    calc |rounded x - x| = |(roundHalfEven (x / ulp x) : ℚ) - x / ulp x| * ulp x := by
          rw [hscaled, abs_mul, abs_of_pos hulp]
      _ ≤ 1 / 2 * ulp x := by
          gcongr
          exact abs_roundHalfEven_sub_le _
      _ = ulp x / 2 := by ring
      _ ≤ x / 2 ^ 53 + 2 ^ (-1075 : ℤ) := ulp_div_two_le hpos

/-- **Numbers with few bits** are not rounded. -/
theorem rounded_eq_self {m : ℕ} {e : ℤ} (hm : m < 2 ^ 53) (he : -1074 ≤ e) :
    rounded (m * 2 ^ e) = m * 2 ^ e := by
  rcases Nat.eq_zero_or_pos m with rfl | hpos
  · rw [Nat.cast_zero, zero_mul, rounded_zero]
  · generalize hx : (m : ℚ) * 2 ^ e = x
    have hpow : (0 : ℚ) < 2 ^ e := zpow_pos (by norm_num) _
    have hxpos : 0 < x := by rw [← hx]; positivity
    have hlt : x < 2 ^ (53 + e) := by
      rw [← hx, zpow_add₀ (by norm_num)]
      have hcast : (m : ℚ) < 2 ^ (53 : ℤ) := by exact_mod_cast hm
      gcongr
    have hlog : Int.log 2 x < 53 + e := by
      rw [← Int.lt_zpow_iff_log_lt (by norm_num) hxpos]
      exact_mod_cast hlt
    obtain ⟨k, hk⟩ : ∃ k : ℕ, e = max (Int.log 2 x - 52) (-1074) + k :=
      ⟨(e - max (Int.log 2 x - 52) (-1074)).toNat, by omega⟩
    have hdiv : x / ulp x = ((m * 2 ^ k : ℕ) : ℤ) := by
      rw [div_eq_iff (ulp_pos x).ne']
      calc x = m * 2 ^ e := hx.symm
        _ = m * (ulp x * 2 ^ k) := by
            rw [hk, zpow_add₀ (by norm_num), zpow_natCast]
            rfl
        _ = ((m * 2 ^ k : ℕ) : ℤ) * ulp x := by
            push_cast
            ring
    rw [rounded, hdiv, roundHalfEven_intCast, ← hdiv, div_mul_cancel₀ _ (ulp_pos x).ne']

/-- Natural numbers below `2 ^ 53` are `Double`s. -/
theorem rounded_natCast {n : ℕ} (h : n < 2 ^ 53) : rounded n = n := by
  have hself := @rounded_eq_self n 0 h (by omega)
  rwa [zpow_zero, mul_one] at hself

/-- Integers are rounded to integers. -/
theorem exists_rounded_natCast (n : ℕ) : ∃ m : ℕ, rounded n = m := by
  obtain hlt | hle := lt_or_ge n (2 ^ 53)
  · exact ⟨n, rounded_natCast hlt⟩
  · have hlog : 53 ≤ Int.log 2 (n : ℚ) := by
      rw [← Int.zpow_le_iff_le_log (by norm_num) (by positivity)]
      exact_mod_cast hle
    obtain ⟨k, hk⟩ : ∃ k : ℕ, max (Int.log 2 (n : ℚ) - 52) (-1074) = k :=
      ⟨(Int.log 2 (n : ℚ) - 52).toNat, by omega⟩
    have hulp : ulp n = 2 ^ k := by
      rw [ulp, hk, zpow_natCast]
    have hround : 0 ≤ roundHalfEven ((n : ℚ) / ulp n) :=
      roundHalfEven_nonneg (div_nonneg (Nat.cast_nonneg n) (ulp_pos n).le)
    refine ⟨(roundHalfEven ((n : ℚ) / ulp n)).toNat * 2 ^ k, ?_⟩
    rw [rounded, Nat.cast_mul, Nat.cast_pow, Nat.cast_ofNat, ← hulp]
    congr 1
    exact_mod_cast (Int.toNat_of_nonneg hround).symm

/-- **An integer is reached** from half a unit in the last place below. -/
theorem natCast_le_rounded_iff {n : ℕ} {y : ℚ} (hy : 0 ≤ y) (hlt : y < 2 ^ 52) :
    n ≤ rounded y ↔ n ≤ y + ulp y / 2 := by
  have hlog : Int.log 2 y ≤ 51 := by
    obtain rfl | hpos := hy.eq_or_lt
    · rw [Int.log_of_right_le_zero 2 le_rfl]
      norm_num
    · have hlt' := (Int.lt_zpow_iff_log_lt (by norm_num : 1 < 2) hpos (x := 52)).mp
        (by exact_mod_cast hlt)
      omega
  -- the unit divides the integers, and they are even multiples of it
  obtain ⟨k, hk⟩ : ∃ k : ℕ, max (Int.log 2 y - 52) (-1074) = -(k + 1 : ℕ) :=
    ⟨(-max (Int.log 2 y - 52) (-1074) - 1).toNat, by omega⟩
  have hulp : ulp y * 2 ^ (k + 1) = 1 := by
    rw [ulp, hk, zpow_neg, zpow_natCast, inv_mul_cancel₀ (by positivity)]
  have hn : (n : ℚ) = (2 * (n * 2 ^ k : ℕ) : ℤ) * ulp y := by
    calc (n : ℚ) = n * (ulp y * 2 ^ (k + 1)) := by rw [hulp, mul_one]
      _ = (2 * (n * 2 ^ k : ℕ) : ℤ) * ulp y := by
          push_cast
          ring
  have hpos := ulp_pos y
  have hhalf : y + ulp y / 2 = (y / ulp y + 1 / 2) * ulp y := by
    field_simp
  rw [rounded, hhalf, hn, mul_le_mul_iff_left₀ hpos, mul_le_mul_iff_left₀ hpos, Int.cast_le,
    two_mul_le_roundHalfEven_iff]
  push_cast
  rfl

/-! ### Signs -/

/-- Rounding is symmetric. -/
def signedRounded (x : ℚ) : ℚ :=
  if 0 ≤ x then rounded x else -rounded (-x)

/-- The same with the sign in place. -/
theorem signedRounded_natCast {n : ℕ} (h : n < 2 ^ 53) : signedRounded n = n := by
  rw [signedRounded, if_pos (Nat.cast_nonneg n), rounded_natCast h]

/-- The integer part, towards zero. -/
def truncated (x : ℚ) : ℤ :=
  x.num.tdiv x.den

/-! ### Values -/

/-- A value of the format that is neither negative nor NaN. -/
inductive Value
  | finite (x : ℚ)
  | infinity
  deriving DecidableEq, Repr

/-- The value nearest to a nonnegative number. -/
def nearest (x : ℚ) : Value :=
  if rounded x < 2 ^ 1024 then .finite (rounded x) else .infinity

/-- The product with a positive integer that the format has. -/
def Value.times (k : ℕ) : Value → Value
  | .finite x => nearest (x * k)
  | .infinity => .infinity

/-- The conversion to a 64-bit integer cuts off the fraction and saturates. -/
def Value.toLong : Value → ℤ
  | .finite x => min ⌊x⌋ (2 ^ 63 - 1)
  | .infinity => 2 ^ 63 - 1

/-! ### Cutting off a product -/

/-- The rounding error without the case of underflow. -/
theorem abs_rounded_sub_lt {x : ℚ} (hx : 0 ≤ x) :
    |rounded x - x| < x / 2 ^ 53 + 1 / 2 ^ 60 := by
  have hunderflow : (2 : ℚ) ^ (-1075 : ℤ) < 2 ^ (-60 : ℤ) :=
    zpow_lt_zpow_right₀ (by norm_num) (by norm_num)
  have hsixty : (2 : ℚ) ^ (-60 : ℤ) = 1 / 2 ^ 60 := by
    rw [zpow_neg, one_div]
    rfl
  rw [hsixty] at hunderflow
  calc |rounded x - x| ≤ x / 2 ^ 53 + 2 ^ (-1075 : ℤ) := abs_rounded_sub_le hx
    _ < x / 2 ^ 53 + 1 / 2 ^ 60 := by gcongr

/-- Far below the largest `Double`, nothing overflows. -/
theorem nearest_eq_finite {x : ℚ} (hx : 0 ≤ x) (hle : x ≤ 2 ^ 51) :
    nearest x = .finite (rounded x) := by
  have herror := (abs_lt.mp (abs_rounded_sub_lt hx)).2
  have hrounded : rounded x < 2 ^ 52 := by linarith
  rw [nearest, if_pos]
  calc rounded x < 2 ^ 52 := hrounded
    _ ≤ 2 ^ 1024 := by gcongr <;> norm_num

/-- **A rounded multiple of a rounded number** is off by less than a half. -/
theorem abs_rounded_mul_sub_lt {x : ℚ} {k : ℕ} (hx : 0 ≤ x) (hk : k ≤ 1000)
    (hle : x * k ≤ 2 ^ 50) : |rounded (rounded x * k) - x * k| < 1 / 2 := by
  have hkq : (k : ℚ) ≤ 1000 := by exact_mod_cast hk
  have hk0 : (0 : ℚ) ≤ k := Nat.cast_nonneg k
  have hfirst : |rounded x * k - x * k| ≤ x * k / 2 ^ 53 + 1000 / 2 ^ 60 := by
    calc |rounded x * k - x * k| = |rounded x - x| * k := by
          rw [← sub_mul, abs_mul, abs_of_nonneg hk0]
      _ ≤ (x / 2 ^ 53 + 1 / 2 ^ 60) * k := by
          gcongr
          exact (abs_rounded_sub_lt hx).le
      _ ≤ x * k / 2 ^ 53 + 1000 / 2 ^ 60 := by
          linarith
  have hsecond := abs_rounded_sub_lt (mul_nonneg (rounded_nonneg hx) hk0)
  rw [abs_le] at hfirst
  rw [abs_lt] at hsecond ⊢
  refine ⟨?_, ?_⟩ <;> linarith [hfirst.1, hfirst.2, hsecond.1, hsecond.2]

/-- A product that stays in the range is rounded and cut. -/
theorem toLong_times {x : ℚ} {k : ℕ} (hx : 0 ≤ x) (hk : 1 ≤ k) (hk' : k ≤ 1000)
    (hle : x * k ≤ 2 ^ 50) : ((nearest x).times k).toLong = ⌊rounded (rounded x * k)⌋ := by
  have hkq : (1 : ℚ) ≤ k := by exact_mod_cast hk
  have hxle : x ≤ 2 ^ 50 := by nlinarith
  have hproduct := abs_lt.mp (abs_rounded_mul_sub_lt hx hk' hle)
  have hnonneg : 0 ≤ rounded x * k := mul_nonneg (rounded_nonneg hx) (by linarith)
  have herror := abs_lt.mp (abs_rounded_sub_lt hnonneg)
  have hbound : rounded x * k ≤ 2 ^ 51 := by linarith [hproduct.2, herror.1]
  have hfloor : ⌊rounded (rounded x * k)⌋ ≤ 2 ^ 63 - 1 := by
    have hlt : ⌊rounded (rounded x * k)⌋ < 2 ^ 63 := by
      rw [Int.floor_lt]
      push_cast
      linarith [hproduct.2]
    omega
  rw [nearest_eq_finite hx (by linarith), Value.times, nearest_eq_finite hnonneg hbound,
    Value.toLong, min_eq_left hfloor]

/-- **Cutting off a multiple** of a rounded number: the integer is the one below the exact
multiple, or next to it. -/
theorem toLong_times_bounds {x : ℚ} {k : ℕ} (hx : 0 ≤ x) (hk : 1 ≤ k) (hk' : k ≤ 1000)
    (hle : x * k ≤ 2 ^ 50) :
    x * k - 3 / 2 < ((nearest x).times k).toLong ∧
      ((nearest x).times k).toLong < x * k + 1 / 2 := by
  have herror := abs_lt.mp (abs_rounded_mul_sub_lt hx hk' hle)
  have hlow := Int.floor_le (rounded (rounded x * k))
  have hhigh := Int.lt_floor_add_one (rounded (rounded x * k))
  rw [toLong_times hx hk hk' hle]
  refine ⟨?_, ?_⟩ <;> linarith [herror.1, herror.2]

/-- **When cutting off a multiple is exact**: the multiple of the rounded number is below the
integer by at most half a unit in the last place. -/
theorem toLong_times_eq_iff {x : ℚ} {k n : ℕ} (hx : 0 ≤ x) (hk : 1 ≤ k) (hk' : k ≤ 1000)
    (hn : n ≤ 2 ^ 50) (hmul : x * k = n) :
    ((nearest x).times k).toLong = n ↔ n ≤ rounded x * k + ulp (rounded x * k) / 2 := by
  have hle : x * k ≤ 2 ^ 50 := by
    rw [hmul]
    exact_mod_cast hn
  have hproduct := abs_lt.mp (abs_rounded_mul_sub_lt hx hk' hle)
  have hnonneg : 0 ≤ rounded x * k := mul_nonneg (rounded_nonneg hx) (Nat.cast_nonneg k)
  have herror := abs_lt.mp (abs_rounded_sub_lt hnonneg)
  rw [toLong_times hx hk hk' hle, ← natCast_le_rounded_iff hnonneg (by linarith [hproduct.2]),
    Int.floor_eq_iff, Int.cast_natCast]
  constructor
  · rintro ⟨hge, -⟩
    exact hge
  · intro hge
    refine ⟨hge, ?_⟩
    rw [hmul] at hproduct
    linarith [hproduct.2]

/-- Infinity is converted to the greatest integer, as large numbers are. -/
theorem toLong_nearest {x : ℚ} : (nearest x).toLong = min ⌊rounded x⌋ (2 ^ 63 - 1) := by
  rw [nearest]
  split_ifs with hfinite
  · rfl
  · have hpow : (2 : ℚ) ^ 63 ≤ 2 ^ 1024 := by gcongr <;> norm_num
    have hlarge := hpow.trans (not_lt.mp hfinite)
    have hfloor : (2 ^ 63 - 1 : ℤ) ≤ ⌊rounded x⌋ := by
      rw [Int.le_floor]
      push_cast
      linarith only [hlarge]
    rw [Value.toLong, min_eq_right hfloor]

/-- In general, the cut product stops at the greatest `Long`. -/
theorem toLong_times_nearest {x : ℚ} {k : ℕ} (hx : 0 ≤ x) (hk : 1 ≤ k) :
    ((nearest x).times k).toLong = min ⌊rounded (rounded x * k)⌋ (2 ^ 63 - 1) := by
  have hsplit : nearest x = if rounded x < 2 ^ 1024 then .finite (rounded x) else .infinity := rfl
  rw [hsplit]
  split_ifs with hfinite
  · exact toLong_nearest
  · -- the product of what is rounded to infinity is large, too
    have hkq : (1 : ℚ) ≤ k := by exact_mod_cast hk
    have hnonneg := rounded_nonneg hx
    have hpow : (2 : ℚ) ^ 64 ≤ 2 ^ 1024 := by gcongr <;> norm_num
    have hlarge : 2 ^ 64 ≤ rounded x * k :=
      (hpow.trans (not_lt.mp hfinite)).trans (le_mul_of_one_le_right hnonneg hkq)
    have herror := (abs_lt.mp (abs_rounded_sub_lt (mul_nonneg hnonneg (Nat.cast_nonneg k)))).1
    have hfloor : (2 ^ 63 - 1 : ℤ) ≤ ⌊rounded (rounded x * k)⌋ := by
      rw [Int.le_floor]
      push_cast
      linarith only [hlarge, herror]
    rw [Value.times, Value.toLong, min_eq_right hfloor]

/-- Multiples of a number with few bits are exact. -/
theorem toLong_times_of_zpow {m k n : ℕ} {e : ℤ} (hm : m < 2 ^ 53) (he : -1074 ≤ e)
    (hk : 1 ≤ k) (hk' : k ≤ 1000) (hn : n ≤ 2 ^ 50) (hmul : (m * 2 ^ e * k : ℚ) = n) :
    ((nearest (m * 2 ^ e)).times k).toLong = n := by
  have hpow : (0 : ℚ) < 2 ^ e := zpow_pos (by norm_num) _
  have hle : (m * 2 ^ e * k : ℚ) ≤ 2 ^ 50 := by
    rw [hmul]
    exact_mod_cast hn
  rw [toLong_times (by positivity) hk hk' hle, rounded_eq_self hm he, hmul,
    rounded_natCast (by omega), Int.floor_natCast]

end Binary64
