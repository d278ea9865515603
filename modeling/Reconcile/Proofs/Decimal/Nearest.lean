import Mathlib.Algebra.Order.AbsoluteValue.Basic
import Mathlib.Data.Rat.Cast.Order
import Mathlib.Data.Rat.Floor
import Mathlib.Tactic.FieldSimp
import Mathlib.Tactic.Ring
import Reconcile.Proofs.Decimal.Canonical

set_option autoImplicit false

/-
The nearest whole number. Rounding takes one that is nearest to the exact value and of two that
are equally near the even one. Values far below one half are taken for zero without a division,
and that is the nearest whole number too.
-/
namespace Reconcile

/-- A whole number that is nearest to a rational one, even if two are equally near. -/
structure NearestEven (q : ℚ) (n : ℕ) : Prop where
  error : |(n : ℚ) - q| ≤ 1 / 2
  even : |(n : ℚ) - q| = 1 / 2 → n % 2 = 0

namespace NearestEven

variable {q : ℚ} {n : ℕ}

theorem le_dist (nearest : NearestEven q n) (m : ℤ) : |(n : ℚ) - q| ≤ |(m : ℚ) - q| := by
  by_cases same : (n : ℤ) = m
  · rw [← same, Int.cast_natCast]
  · have apart : (1 : ℤ) ≤ |(n : ℤ) - m| := Int.one_le_abs (sub_ne_zero.mpr same)
    have far : (1 : ℚ) ≤ |(n : ℚ) - m| := by exact_mod_cast apart
    have path := abs_sub_le (n : ℚ) q m
    have error := nearest.error
    rw [abs_sub_comm q] at path
    linarith

theorem eq_of_natCast {m : ℕ} (nearest : NearestEven (m : ℚ) n) : n = m := by
  have close := nearest.le_dist m
  rw [Int.cast_natCast, sub_self, abs_zero] at close
  have same := abs_nonpos_iff.mp close
  exact_mod_cast sub_eq_zero.mp same

theorem le_of_le {m : ℕ} (nearest : NearestEven q n) (above : (m : ℚ) ≤ q) : m ≤ n := by
  by_contra less
  have lower : (n : ℚ) + 1 ≤ m := by exact_mod_cast Nat.lt_of_not_le less
  have error := nearest.error
  rw [abs_le] at error
  linarith

theorem le_of_ge {m : ℕ} (nearest : NearestEven q n) (below : q ≤ m) : n ≤ m := by
  by_contra more
  have higher : (m : ℚ) + 1 ≤ n := by exact_mod_cast Nat.lt_of_not_le more
  have error := nearest.error
  rw [abs_le] at error
  linarith

theorem eq_zero (nearest : NearestEven q n) (small : q ≤ 1 / 2) : n = 0 := by
  have few : n ≤ 1 := nearest.le_of_ge (by push_cast; linarith)
  by_contra some
  have one : n = 1 := by omega
  subst one
  have error := nearest.error
  rw [Nat.cast_one, abs_of_nonneg (by linarith)] at error
  have half : |((1 : ℕ) : ℚ) - q| = 1 / 2 := by
    rw [Nat.cast_one, abs_of_nonneg (by linarith)]
    linarith
  exact absurd (nearest.even half) (by decide)

/-- A tie has one even neighbour, so what is rounded is determined by what it is rounded from. -/
theorem unique {m : ℕ} (first : NearestEven q n) (second : NearestEven q m) : n = m := by
  by_contra different
  wlog less : n < m generalizing n m
  · exact this second first (Ne.symm different) (by omega)
  have apart : (n : ℚ) + 1 ≤ m := by exact_mod_cast less
  have lower := first.error
  have upper := second.error
  rw [abs_le] at lower upper
  -- Both are half a unit away and they are neighbours, so they are not both even.
  have tieN : |(n : ℚ) - q| = 1 / 2 := by
    rw [abs_of_nonpos (by linarith)]
    linarith
  have tieM : |(m : ℚ) - q| = 1 / 2 := by
    rw [abs_of_nonneg (by linarith)]
    linarith
  have evenN := first.even tieN
  have evenM := second.even tieM
  have close : (m : ℚ) ≤ (n + 1 : ℕ) := by
    push_cast
    linarith
  have next : m ≤ n + 1 := by exact_mod_cast close
  omega

end NearestEven

theorem roundHalfEven_nearest (n : ℕ) {d : ℕ} (positive : 0 < d) :
    NearestEven ((n : ℚ) / d) (roundHalfEven n d) := by
  have divisor : (0 : ℚ) < d := by exact_mod_cast positive
  have split : (n : ℚ) / d = (n / d : ℕ) + (n % d : ℕ) / d := by
    have whole : ((d * (n / d) + n % d : ℕ) : ℚ) = n := by exact_mod_cast Nat.div_add_mod n d
    rw [← whole]
    push_cast
    field_simp
  have bound : n % d < d := Nat.mod_lt n positive
  have nonneg : (0 : ℚ) ≤ (n % d : ℕ) / d := by positivity
  unfold roundHalfEven
  dsimp only
  rw [split]
  generalize n / d = whole at *
  generalize n % d = rest at *
  split_ifs with below above even
  · -- The remainder is less than half of the divisor.
    have less : (rest : ℚ) / d < 1 / 2 := by
      rw [div_lt_div_iff₀ divisor (by norm_num)]
      exact_mod_cast (by omega : rest * 2 < 1 * d)
    have dist : |(whole : ℚ) - (whole + rest / d)| = rest / d := by
      rw [sub_add_cancel_left, abs_neg, abs_of_nonneg nonneg]
    exact ⟨by rw [dist]; exact less.le, fun half => absurd (dist.symm.trans half) less.ne⟩
  · -- It is more than half, and less than the whole of it.
    have more : 1 / 2 < (rest : ℚ) / d := by
      rw [div_lt_div_iff₀ (by norm_num) divisor]
      exact_mod_cast (by omega : 1 * d < rest * 2)
    have less : (rest : ℚ) / d < 1 := by
      rw [div_lt_one divisor]
      exact_mod_cast bound
    have dist : |((whole + 1 : ℕ) : ℚ) - (whole + rest / d)| = 1 - rest / d := by
      rw [Nat.cast_add_one, add_sub_add_left_eq_sub, abs_of_nonneg (by linarith)]
    refine ⟨by rw [dist]; linarith, fun half => ?_⟩
    rw [dist] at half
    linarith
  · have half : (rest : ℚ) / d = 1 / 2 := by
      rw [div_eq_div_iff divisor.ne' (by norm_num)]
      exact_mod_cast (by omega : rest * 2 = 1 * d)
    rw [half]
    refine ⟨?_, fun _ => even⟩
    rw [sub_add_cancel_left, abs_neg, abs_of_nonneg (by norm_num)]
  · have half : (rest : ℚ) / d = 1 / 2 := by
      rw [div_eq_div_iff divisor.ne' (by norm_num)]
      exact_mod_cast (by omega : rest * 2 = 1 * d)
    rw [half]
    refine ⟨?_, fun _ => by omega⟩
    rw [Nat.cast_add_one, add_sub_add_left_eq_sub, abs_of_nonneg (by norm_num)]
    norm_num

namespace Decimal

/-- A quotient with so few digits over so many is below one half. -/
theorem quotient_lt_half {n d j : ℕ} (positive : 0 < d)
    (short : digitCount n + 1 < digitCount d + j) : (n : ℚ) / (d * tenTo j : ℕ) < 1 / 2 := by
  have below : n < tenTo (digitCount n) := digitCount_le_iff.mp le_rfl
  have above : tenTo (digitCount n + 1) ≤ d * tenTo j := by
    have counted := digitCount_pos positive.ne'
    have leading : tenTo (digitCount d - 1) ≤ d := lt_digitCount_iff.mp (by omega)
    calc tenTo (digitCount n + 1) ≤ tenTo (digitCount d - 1 + j) := tenTo_le_tenTo.mpr (by omega)
      _ = tenTo (digitCount d - 1) * tenTo j := tenTo_add _ _
      _ ≤ d * tenTo j := Nat.mul_le_mul_right _ leading
  rw [tenTo_add, show tenTo 1 = 10 from rfl] at above
  have divisor : (0 : ℚ) < (d * tenTo j : ℕ) := by
    exact_mod_cast Nat.mul_pos positive (tenTo_pos j)
  rw [div_lt_div_iff₀ divisor (by norm_num)]
  exact_mod_cast (by omega : n * 2 < 1 * (d * tenTo j))

theorem shift_up (n d : ℕ) {k : ℤ} (up : 0 ≤ k) :
    (n : ℚ) / d * 10 ^ k = (n * tenTo k.toNat : ℕ) / d := by
  rw [Nat.cast_mul, cast_tenTo_toNat up, div_mul_eq_mul_div]

theorem shift_down (n d : ℕ) {k : ℤ} (down : ¬ 0 ≤ k) :
    (n : ℚ) / d * 10 ^ k = n / (d * tenTo (-k).toNat : ℕ) := by
  rw [Nat.cast_mul, cast_tenTo_toNat (by omega), zpow_neg, div_mul_eq_div_div, div_inv_eq_mul]

theorem roundShifted_nearest (n : ℕ) {d : ℕ} (positive : 0 < d) (k : ℤ) :
    NearestEven ((n : ℚ) / d * 10 ^ k) (roundShifted n d k) := by
  have shifted : 0 < d * tenTo (-k).toNat := Nat.mul_pos positive (tenTo_pos _)
  unfold roundShifted
  split_ifs with up short
  · rw [shift_up n d up]
    exact roundHalfEven_nearest _ positive
  · rw [shift_down n d up]
    have small := quotient_lt_half positive short
    have nonneg : (0 : ℚ) ≤ (n : ℚ) / (d * tenTo (-k).toNat : ℕ) := by positivity
    have dist : |((0 : ℕ) : ℚ) - (n : ℚ) / (d * tenTo (-k).toNat : ℕ)| =
        (n : ℚ) / (d * tenTo (-k).toNat : ℕ) := by
      rw [Nat.cast_zero, zero_sub, abs_neg, abs_of_nonneg nonneg]
    exact ⟨by rw [dist]; exact small.le, fun _ => rfl⟩
  · rw [shift_down n d up]
    exact roundHalfEven_nearest n shifted

/-- The whole part of a quotient, found in the same way. -/
theorem le_wholeShifted_iff (n : ℕ) {d : ℕ} (positive : 0 < d) (k : ℤ) {m : ℕ} (some : 0 < m) :
    m ≤ wholeShifted n d k ↔ (m : ℚ) ≤ (n : ℚ) / d * 10 ^ k := by
  have shifted : 0 < d * tenTo (-k).toNat := Nat.mul_pos positive (tenTo_pos _)
  have quotient : ∀ {a b : ℕ}, 0 < b → (m ≤ a / b ↔ (m : ℚ) ≤ (a : ℚ) / b) := by
    intro a b divisor
    rw [Nat.le_div_iff_mul_le divisor, le_div_iff₀ (by exact_mod_cast divisor)]
    exact_mod_cast Iff.rfl
  unfold wholeShifted
  split_ifs with up short
  · rw [shift_up n d up]
    exact quotient positive
  · rw [shift_down n d up]
    have small := quotient_lt_half positive short
    have one : (1 : ℚ) ≤ m := by exact_mod_cast some
    constructor
    · intro none
      omega
    · intro above
      linarith
  · rw [shift_down n d up]
    exact quotient shifted

theorem wholeShifted_eq_floor (n : ℕ) {d : ℕ} (positive : 0 < d) (k : ℤ) :
    wholeShifted n d k = ⌊(n : ℚ) / d * 10 ^ k⌋₊ := by
  apply eq_of_forall_le_iff
  intro m
  rcases Nat.eq_zero_or_pos m with rfl | some
  · simp
  · have nonneg : (0 : ℚ) ≤ (n : ℚ) / d * 10 ^ k := by positivity
    rw [le_wholeShifted_iff n positive k some, Nat.le_floor_iff nonneg]

end Decimal

end Reconcile
