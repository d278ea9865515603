import Mathlib.Algebra.Order.Field.Power
import Mathlib.Algebra.Order.Ring.Rat
import Mathlib.Tactic.Linarith
import Mathlib.Tactic.NormNum
import Mathlib.Tactic.Positivity
import Reconcile.Binary64.Basic

set_option autoImplicit false

/- The numbers that binary values stand for, and their order. -/
namespace Reconcile.Binary64

/-- The number that a finite value stands for; zero for any other value. -/
def toRat : Binary64 → ℚ
  | .finite s m e => (if s then -1 else 1) * (m * 2 ^ e)
  | _ => 0

/-- The value is a number that is not less, or above all numbers. -/
def AtLeast (least : ℚ) : Binary64 → Prop
  | .finite s m e => least ≤ (finite s m e).toRat
  | .infinite s => s = false
  | .nan => False

/-- A value as a whole number of lower units. -/
theorem toRat_shift (s : Bool) (m : ℕ) {e low : ℤ} (le : low ≤ e) :
    (((if s then -1 else 1) * (m * twoTo (e - low).toNat : ℕ) : ℤ) : ℚ) * 2 ^ low =
      (finite s m e).toRat := by
  have power : ((twoTo (e - low).toNat : ℕ) : ℚ) * 2 ^ low = 2 ^ e := by
    rw [show twoTo (e - low).toNat = 2 ^ (e - low).toNat from rfl, Nat.cast_pow, Nat.cast_ofNat,
      ← zpow_natCast, Int.toNat_of_nonneg (by omega), ← zpow_add₀ two_ne_zero, sub_add_cancel]
  rw [toRat, ← power]
  cases s <;> push_cast <;> simp [mul_assoc]

theorem lt_finite (s : Bool) (m : ℕ) (e : ℤ) (t : Bool) (n : ℕ) (f : ℤ) :
    (finite s m e).lt (finite t n f) = true ↔ (finite s m e).toRat < (finite t n f).toRat := by
  have unit : (0 : ℚ) < 2 ^ min e f := by positivity
  rw [← toRat_shift s m (min_le_left e f), ← toRat_shift t n (min_le_right e f),
    mul_lt_mul_iff_of_pos_right unit, Int.cast_lt, lt, compare?, beq_iff_eq, Option.some.injEq,
    compare_lt_iff_lt]

theorem one_eq : one = .finite false (2 ^ 52) (-52) := by decide

theorem toRat_one : one.toRat = 1 := by
  rw [one_eq]
  norm_num [toRat]

/-- What is kept at one or above is no less, and it is no NaN. -/
theorem atLeast_one_max (x : Binary64) : (one.max x).AtLeast 1 := by
  have kept : one.AtLeast 1 := by
    rw [one_eq, AtLeast, ← one_eq, toRat_one]
  unfold max
  split
  · rename_i less
    rw [one_eq] at less
    cases x with
    | finite t n f =>
      rw [lt_finite, ← one_eq, toRat_one] at less
      exact less.le
    | infinite t => cases t with
      | false => rfl
      | true => cases less
    | nan => cases less
  · exact kept

end Reconcile.Binary64
