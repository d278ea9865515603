import Mathlib.Algebra.Order.Ring.Nat
import Mathlib.Tactic.NormNum
import Reconcile.Decimal.Basic

set_option autoImplicit false

/-
How many digits a number has. The count starts from the bits of the number and needs no division;
it is the least number of digits that hold it.
-/
namespace Reconcile

theorem tenTo_eq_pow (k : Nat) : tenTo k = 10 ^ k := rfl

theorem tenTo_pos (k : Nat) : 0 < tenTo k := Nat.pow_pos (by decide)

theorem tenTo_add (j k : Nat) : tenTo (j + k) = tenTo j * tenTo k := Nat.pow_add 10 j k

theorem tenTo_le_tenTo {j k : Nat} : tenTo j ≤ tenTo k ↔ j ≤ k :=
  Nat.pow_le_pow_iff_right (by decide)

namespace Decimal

/-- The ratio that the count starts from is below the logarithm of two. -/
theorem tenTo_le_of_bits {j bits : Nat} (few : 2136 * j ≤ 643 * bits) : tenTo j ≤ 2 ^ bits := by
  have ratio : (10 : Nat) ^ 643 ≤ 2 ^ 2136 := by decide +kernel
  refine (Nat.pow_le_pow_iff_left (n := 643) (by decide)).mp ?_
  calc tenTo j ^ 643 = (10 ^ 643) ^ j := by rw [tenTo_eq_pow, ← pow_mul, ← pow_mul, mul_comm]
    _ ≤ (2 ^ 2136) ^ j := Nat.pow_le_pow_left ratio j
    _ = 2 ^ (2136 * j) := (pow_mul 2 2136 j).symm
    _ ≤ 2 ^ (643 * bits) := Nat.pow_le_pow_right (by decide) few
    _ = (2 ^ bits) ^ 643 := by rw [← pow_mul, mul_comm]

/-- The count ends at the first power of ten above the number. -/
theorem digitCountFrom_spec (n fuel k : Nat) (below : ∀ j < k, tenTo j ≤ n)
    (enough : n < tenTo (k + fuel)) :
    n < tenTo (digitCountFrom n fuel k) ∧ ∀ j < digitCountFrom n fuel k, tenTo j ≤ n := by
  induction fuel generalizing k with
  | zero => exact ⟨enough, below⟩
  | succ fuel ih =>
    unfold digitCountFrom
    split
    · rename_i above
      exact ⟨above, below⟩
    · rename_i notAbove
      refine ih (k + 1) ?_ ?_
      · intro j less
        rcases Nat.lt_succ_iff_lt_or_eq.mp less with less | rfl
        · exact below j less
        · exact Nat.le_of_not_lt notAbove
      · rwa [Nat.add_right_comm, Nat.add_assoc]

theorem digitCount_spec (n : Nat) :
    n < tenTo (digitCount n) ∧ ∀ j < digitCount n, tenTo j ≤ n := by
  refine digitCountFrom_spec n _ _ ?_ ?_
  · intro j less
    have positive : n ≠ 0 := by
      rintro rfl
      simp at less
    exact (tenTo_le_of_bits (by omega)).trans (Nat.log2_self_le positive)
  · calc n < 2 ^ (n.log2 + 1) := Nat.lt_log2_self
      _ ≤ 10 ^ (n.log2 + 1) := Nat.pow_le_pow_left (by decide) _
      _ ≤ tenTo (n.log2 * 643 / 2136 + (n.log2 + 1)) := tenTo_le_tenTo.mpr (Nat.le_add_left _ _)

theorem digitCount_le_iff {n k : Nat} : digitCount n ≤ k ↔ n < tenTo k := by
  obtain ⟨above, below⟩ := digitCount_spec n
  constructor
  · intro few
    exact above.trans_le (tenTo_le_tenTo.mpr few)
  · intro small
    by_contra more
    exact absurd (below k (Nat.lt_of_not_le more)) (Nat.not_le_of_lt small)

theorem lt_digitCount_iff {n k : Nat} : k < digitCount n ↔ tenTo k ≤ n := by
  rw [← Nat.not_le, digitCount_le_iff, Nat.not_lt]

theorem digitCount_pos {n : Nat} (positive : n ≠ 0) : 0 < digitCount n :=
  lt_digitCount_iff.mpr (Nat.pos_of_ne_zero positive)

theorem digitCount_mul_tenTo {n : Nat} (positive : n ≠ 0) (k : Nat) :
    digitCount (n * tenTo k) = digitCount n + k := by
  apply Nat.le_antisymm
  · rw [digitCount_le_iff, tenTo_add]
    exact Nat.mul_lt_mul_of_pos_right (digitCount_le_iff.mp le_rfl) (tenTo_pos k)
  · obtain ⟨m, counted⟩ := Nat.exists_eq_succ_of_ne_zero (digitCount_pos positive).ne'
    rw [counted, Nat.succ_add, Nat.succ_le_iff, lt_digitCount_iff, tenTo_add]
    exact Nat.mul_le_mul_right _ (lt_digitCount_iff.mp (by omega))

end Decimal

end Reconcile
