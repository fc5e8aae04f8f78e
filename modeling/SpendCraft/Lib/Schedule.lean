import Mathlib.Algebra.Order.Ring.Int
import Mathlib.Data.Set.Card

/-!
# Schedules

A schedule names the times of its occurrences, in increasing order. It may run out: from
some occurrence on there may be none.

## Conventions

An occurrence is a number and a time, and the times go up strictly with the numbers: a schedule
names no time twice. It may end after some occurrence, and from there on no number has a time. How
the times come about, from a calendar or from a period, is left to whoever builds the schedule.

## Proof

The occurrences that have been at a time are a set of numbers, and the set of the first `n` has
`n` elements: where all before the `n`-th have been and the `n`-th has not, the two sets are the
same, because the times go up. For a fixed period the count is a quotient.

## Main results

* `ncard_upTo`: a next occurrence that is still to come counts the ones that have been.
* `ncard_upTo_every`: how many multiples of a period there have been.
-/

/-- The times of the occurrences, numbered from `0`. -/
structure Schedule where
  occurrence : ℕ → Option ℤ
  increasing : ∀ k l d e, k < l → occurrence k = some d → occurrence l = some e → d < e

namespace Schedule

variable {s : Schedule} {T : ℤ} {n : ℕ} {d e : ℤ}

/-- The occurrences that have been at the time `T`. -/
def upTo (s : Schedule) (T : ℤ) : Set ℕ :=
  {k | ∃ d, s.occurrence k = some d ∧ d ≤ T}

/-- Two numbers of one time are the same. -/
theorem number_unique {k l : ℕ} (hk : s.occurrence k = some d) (hl : s.occurrence l = some d) :
    k = l := by
  rcases lt_trichotomy k l with h | h | h
  · exact absurd (s.increasing k l d d h hk hl) (lt_irrefl d)
  · exact h
  · exact absurd (s.increasing l k d d h hl hk) (lt_irrefl d)

/-- `d` is the time of an occurrence and `e` that of the one after it. -/
def Next (s : Schedule) (d e : ℤ) : Prop :=
  ∃ k, s.occurrence k = some d ∧ s.occurrence (k + 1) = some e

/-- The occurrence after the `n`-th is the next one. -/
theorem Next.occurrence_succ (h : s.Next d e) (hn : s.occurrence n = some d) :
    s.occurrence (n + 1) = some e := by
  obtain ⟨k, hk, he⟩ := h
  rwa [number_unique hn hk]

/-- **Counting occurrences.** All before the `n`-th have been, and that one is still to
come. -/
theorem ncard_upTo (hbefore : ∀ k < n, k ∈ s.upTo T) (hn : s.occurrence n = some d)
    (hd : T < d) : (s.upTo T).ncard = n := by
  have hset : s.upTo T = (Finset.range n : Set ℕ) := by
    ext k
    rw [Finset.mem_coe, Finset.mem_range]
    refine ⟨?_, hbefore k⟩
    rintro ⟨e, he, hle⟩
    by_contra hk
    rcases Nat.eq_or_lt_of_le (Nat.le_of_not_lt hk) with rfl | hlt
    · rw [hn, Option.some_inj] at he
      omega
    · have := s.increasing n k d e hlt hn he
      omega
  rw [hset, Set.ncard_coe_finset, Finset.card_range]

/-! ### Fixed periods -/

/-- Every `period` from `start` on. -/
def every (start period : ℤ) (h : 0 < period) : Schedule :=
  { occurrence := fun k => some (start + k * period)
    increasing := by
      rintro k l d e hkl hd he
      rw [Option.some_inj] at hd he
      have hcast : (k : ℤ) < l := by exact_mod_cast hkl
      have hmul := mul_lt_mul_of_pos_right hcast h
      omega }

/-- The number of occurrences up to a time, in closed form. -/
theorem ncard_upTo_every {start period : ℤ} (h : 0 < period) (hT : start ≤ T) :
    ((every start period h).upTo T).ncard = ((T - start) / period).toNat + 1 := by
  have hnonneg : 0 ≤ (T - start) / period := Int.ediv_nonneg (by omega) h.le
  have hcast : (((T - start) / period).toNat : ℤ) = (T - start) / period :=
    Int.toNat_of_nonneg hnonneg
  have hdiv := Int.mul_ediv_add_emod (T - start) period
  have hmod := Int.emod_nonneg (T - start) h.ne'
  have hlt := Int.emod_lt_of_pos (T - start) h
  refine ncard_upTo (d := start + (((T - start) / period).toNat + 1 : ℕ) * period) ?_ rfl ?_
  · intro k hk
    refine ⟨_, rfl, ?_⟩
    have hle : (k : ℤ) ≤ (T - start) / period := by omega
    have hmul := mul_le_mul_of_nonneg_right hle h.le
    rw [mul_comm ((T - start) / period)] at hmul
    omega
  · push_cast
    rw [hcast, add_mul, one_mul, mul_comm ((T - start) / period)]
    omega

end Schedule
