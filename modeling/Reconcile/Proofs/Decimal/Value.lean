import Mathlib.Algebra.Order.Field.Power
import Mathlib.Algebra.Order.Ring.Rat
import Mathlib.Data.Nat.Cast.Order.Ring
import Mathlib.Order.Compare
import Mathlib.Tactic.Linarith
import Mathlib.Tactic.Positivity
import Reconcile.Decimal.Arithmetic
import Reconcile.Proofs.Decimal.Digits

set_option autoImplicit false

/-
The numbers that decimals stand for. The order of finite decimals is the order of these numbers,
so every comparison of the program can be read as one of rationals.
-/
namespace Reconcile.Decimal

/-- The number that a decimal stands for. What is no finite number stands for zero. -/
def toRat : Decimal → ℚ
  | .finite s c e => signed s c * 10 ^ e
  | _ => 0

@[simp] theorem toRat_zero : zero.toRat = 0 := by simp [zero, toRat, signed]

@[simp] theorem toRat_one : one.toRat = 1 := by simp [one, toRat, signed]

theorem toRat_of_coefficient_zero (s : Bool) (e : Int) : (finite s 0 e).toRat = 0 := by
  cases s <;> simp [toRat, signed]

theorem toRat_true (c : Nat) (e : Int) : (finite true c e).toRat = -((c : ℚ) * 10 ^ e) := by
  simp [toRat, signed]

theorem toRat_false (c : Nat) (e : Int) : (finite false c e).toRat = (c : ℚ) * 10 ^ e := by
  simp [toRat, signed]

theorem magnitude_nonneg (c : Nat) (e : Int) : 0 ≤ (c : ℚ) * 10 ^ e := by positivity

theorem magnitude_pos {c : Nat} (positive : c ≠ 0) (e : Int) : 0 < (c : ℚ) * 10 ^ e := by
  have : 0 < c := Nat.pos_of_ne_zero positive
  positivity

theorem cast_tenTo (k : Nat) : (tenTo k : ℚ) = 10 ^ (k : Int) := by
  rw [tenTo_eq_pow, Nat.cast_pow, zpow_natCast]
  rfl

theorem cast_tenTo_toNat {k : Int} (nonneg : 0 ≤ k) : (tenTo k.toNat : ℚ) = 10 ^ k := by
  rw [cast_tenTo, Int.toNat_of_nonneg nonneg]

/-- A coefficient with more zeros and a lower exponent stand for the same number. -/
theorem magnitude_shift (c : Nat) {e f : Int} (le : f ≤ e) :
    ((c * tenTo (e - f).toNat : Nat) : ℚ) * 10 ^ f = c * 10 ^ e := by
  rw [Nat.cast_mul, cast_tenTo_toNat (by omega), mul_assoc, ← zpow_add₀ (by norm_num)]
  congr 2
  omega

theorem magnitude_lt (c : Nat) (e : Int) : (c : ℚ) * 10 ^ e < 10 ^ (e + digitCount c) := by
  have below : (c : ℚ) < 10 ^ (digitCount c : Int) := by
    rw [← cast_tenTo]
    exact_mod_cast digitCount_le_iff.mp le_rfl
  rw [zpow_add₀ (by norm_num), mul_comm]
  exact mul_lt_mul_of_pos_left below (by positivity)

theorem le_magnitude {c : Nat} (positive : c ≠ 0) (e : Int) :
    (10 : ℚ) ^ (e + digitCount c - 1) ≤ c * 10 ^ e := by
  have above : (10 : ℚ) ^ ((digitCount c : Int) - 1) ≤ c := by
    have counted := digitCount_pos positive
    have digits : tenTo (digitCount c - 1) ≤ c := lt_digitCount_iff.mp (by omega)
    rw [← Nat.cast_one, ← Nat.cast_sub counted, ← cast_tenTo]
    exact_mod_cast digits
  rw [add_sub_assoc, zpow_add₀ (by norm_num), mul_comm]
  exact mul_le_mul_of_nonneg_right above (by positivity)

/-- The number whose leading digit stands at a lower place is the smaller one. -/
theorem magnitude_lt_of_leading {c d : Nat} {e f : Int} (positive : d ≠ 0)
    (lower : e + digitCount c < f + digitCount d) : (c : ℚ) * 10 ^ e < d * 10 ^ f :=
  calc (c : ℚ) * 10 ^ e < 10 ^ (e + digitCount c) := magnitude_lt c e
    _ ≤ 10 ^ (f + digitCount d - 1) := zpow_le_zpow_right₀ (by norm_num) (by omega)
    _ ≤ d * 10 ^ f := le_magnitude positive f

theorem cmp_cast (c d : Nat) {p : ℚ} (positive : 0 < p) : cmp (c * p) (d * p) = compare c d := by
  rw [cmp_mul_pos_right positive, Nat.strictMono_cast.cmp_map_eq, cmp_eq_compare]

theorem compareMagnitudes_eq (c : Nat) (e : Int) (d : Nat) (f : Int) :
    compareMagnitudes c e d f = cmp ((c : ℚ) * 10 ^ e) (d * 10 ^ f) := by
  unfold compareMagnitudes
  by_cases someZero : c = 0 ∨ d = 0
  · rw [if_pos someZero]
    rcases someZero with rfl | rfl
    · rw [Nat.cast_zero, zero_mul, ← cmp_cast 0 d (p := 10 ^ f) (by positivity), Nat.cast_zero,
        zero_mul]
    · rw [Nat.cast_zero, zero_mul, ← cmp_cast c 0 (p := 10 ^ e) (by positivity), Nat.cast_zero,
        zero_mul]
  · rw [if_neg someZero]
    obtain ⟨positiveC, positiveD⟩ := not_or.mp someZero
    rcases lt_trichotomy (e + (digitCount c : Int)) (f + digitCount d) with less | same | greater
    · rw [compare_lt_iff_lt.mpr less, (magnitude_lt_of_leading positiveD less).cmp_eq_lt]
    · rw [compare_eq_iff_eq.mpr same]
      by_cases le : f ≤ e
      · rw [← magnitude_shift c le, cmp_cast _ _ (by positivity)]
        exact if_pos le
      · rw [← magnitude_shift d (by omega : e ≤ f), cmp_cast _ _ (by positivity)]
        exact if_neg le
    · rw [compare_gt_iff_gt.mpr greater, (magnitude_lt_of_leading positiveC greater).cmp_eq_gt]

theorem order_finite (s : Bool) (c : Nat) (e : Int) (t : Bool) (d : Nat) (f : Int) :
    (finite s c e).order (finite t d f) = cmp (finite s c e).toRat (finite t d f).toRat := by
  have negative : ∀ {s : Bool} {c : Nat} {e : Int}, (s && c ≠ 0) = true →
      (finite s c e).toRat < 0 := by
    intro s c e minus
    obtain ⟨rfl, positive⟩ : s = true ∧ c ≠ 0 := by simpa using minus
    rw [toRat_true]
    exact neg_neg_of_pos (magnitude_pos positive e)
  have plain : ∀ {s : Bool} {c : Nat} {e : Int}, ¬ (s && c ≠ 0) = true →
      (finite s c e).toRat = c * 10 ^ e := by
    intro s c e notMinus
    cases s with
    | false => exact toRat_false c e
    | true =>
      obtain rfl : c = 0 := by simpa using notMinus
      simp [toRat_of_coefficient_zero]
  have nonneg : ∀ {s : Bool} {c : Nat} {e : Int}, ¬ (s && c ≠ 0) = true →
      0 ≤ (finite s c e).toRat := by
    intro s c e notMinus
    rw [plain notMinus]
    exact magnitude_nonneg c e
  rw [order]
  by_cases zeros : c = 0 ∧ d = 0
  · rw [if_pos zeros]
    obtain ⟨rfl, rfl⟩ := zeros
    rw [toRat_of_coefficient_zero, toRat_of_coefficient_zero, cmp_self_eq_eq]
  rw [if_neg zeros]
  by_cases minusC : s && c ≠ 0 <;> by_cases minusD : t && d ≠ 0
  · rw [if_pos minusC, if_pos minusD]
    obtain ⟨rfl, -⟩ : s = true ∧ c ≠ 0 := by simpa using minusC
    obtain ⟨rfl, -⟩ : t = true ∧ d ≠ 0 := by simpa using minusD
    have flip : StrictAnti fun x : ℚ => -x := fun _ _ less => neg_lt_neg less
    rw [compareMagnitudes_eq, toRat_true, toRat_true, ← flip.cmp_map_eq]
  · rw [if_pos minusC, if_neg minusD]
    exact ((negative minusC).trans_le (nonneg minusD)).cmp_eq_lt.symm
  · rw [if_neg minusC, if_pos minusD]
    exact ((negative minusD).trans_le (nonneg minusC)).cmp_eq_gt.symm
  · rw [if_neg minusC, if_neg minusD, compareMagnitudes_eq, plain minusC, plain minusD]

theorem eq_finite_of_isFinite {a : Decimal} (isFinite : a.isFinite) :
    ∃ s c e, a = finite s c e := by
  cases a with
  | finite s c e => exact ⟨s, c, e, rfl⟩
  | infinite => cases isFinite
  | nan => cases isFinite

section Comparison

variable {a b : Decimal} (finiteA : a.isFinite) (finiteB : b.isFinite)
include finiteA finiteB

theorem compare?_eq_cmp : a.compare? b = .ok (cmp a.toRat b.toRat) := by
  obtain ⟨s, c, e, rfl⟩ := eq_finite_of_isFinite finiteA
  obtain ⟨t, d, f, rfl⟩ := eq_finite_of_isFinite finiteB
  rw [← order_finite]
  rfl

theorem lt?_eq : a.lt? b = .ok (decide (a.toRat < b.toRat)) := by
  rw [lt?, compare?_eq_cmp finiteA finiteB]
  rcases lt_trichotomy a.toRat b.toRat with less | same | greater
  · rw [less.cmp_eq_lt, decide_eq_true less]
    rfl
  · rw [same, cmp_self_eq_eq, decide_eq_false (lt_irrefl _)]
    rfl
  · rw [greater.cmp_eq_gt, decide_eq_false greater.not_gt]
    rfl

theorem le?_eq : a.le? b = .ok (decide (a.toRat ≤ b.toRat)) := by
  rw [le?, compare?_eq_cmp finiteA finiteB]
  rcases lt_trichotomy a.toRat b.toRat with less | same | greater
  · rw [less.cmp_eq_lt, decide_eq_true less.le]
    rfl
  · rw [same, cmp_self_eq_eq, decide_eq_true le_rfl]
    rfl
  · rw [greater.cmp_eq_gt, decide_eq_false greater.not_ge]
    rfl

theorem same?_eq : a.same? b = .ok (decide (a.toRat = b.toRat)) := by
  obtain ⟨s, c, e, rfl⟩ := eq_finite_of_isFinite finiteA
  obtain ⟨t, d, f, rfl⟩ := eq_finite_of_isFinite finiteB
  rw [same?, order_finite]
  rcases lt_trichotomy (finite s c e).toRat (finite t d f).toRat with less | same | greater
  · rw [less.cmp_eq_lt, decide_eq_false less.ne]
    rfl
  · rw [same, cmp_self_eq_eq, decide_eq_true rfl]
    rfl
  · rw [greater.cmp_eq_gt, decide_eq_false greater.ne']
    rfl

end Comparison

def infinity? : Decimal → Option Bool
  | .infinite s => some s
  | _ => none

section Same

variable {a b : Decimal}

/-- What is equal are numbers that stand for the same, or infinite values of one sign. -/
theorem same?_iff :
    a.same? b = .ok true ↔
      a.isNan = false ∧ b.isNan = false ∧ a.toRat = b.toRat ∧ a.infinity? = b.infinity? := by
  cases a with
  | finite s c e =>
    cases b with
    | finite t d f =>
      rw [same?_eq rfl rfl]
      simp [isNan, infinity?]
    | infinite t => cases t <;> simp [same?, isSignaling, isNan, order, infinity?]
    | nan t signaling payload => cases signaling <;> simp [same?, isSignaling, isNan]
  | infinite s =>
    cases b with
    | finite t d f => cases s <;> simp [same?, isSignaling, isNan, order, infinity?]
    | infinite t =>
      cases s <;> cases t <;> simp [same?, isSignaling, isNan, order, infinity?, toRat]
    | nan t signaling payload => cases signaling <;> simp [same?, isSignaling, isNan]
  | nan s signaling payload =>
    unfold same?
    split <;> simp [isNan]

theorem same?_of_numbers (numberA : a.isNan = false) (numberB : b.isNan = false) :
    ∃ same, a.same? b = .ok same := by
  cases a <;> cases b <;> simp_all [isNan, same?, isSignaling]

theorem isSignaling_of_isFinite (finite : a.isFinite) : a.isSignaling = false := by
  obtain ⟨s, c, e, rfl⟩ := eq_finite_of_isFinite finite
  rfl

/-- A value that is no signal can be compared with a number, and it is equal if it is the same
number. -/
theorem same?_of_quiet (quiet : a.isSignaling = false) (finite : b.isFinite) :
    a.same? b = .ok (a.isFinite && decide (a.toRat = b.toRat)) := by
  cases a with
  | finite s c e => rw [same?_eq rfl finite, isFinite, Bool.true_and]
  | infinite s =>
    obtain ⟨t, d, f, rfl⟩ := eq_finite_of_isFinite finite
    cases s <;> rfl
  | nan s signaling payload =>
    obtain ⟨t, d, f, rfl⟩ := eq_finite_of_isFinite finite
    obtain rfl : signaling = false := quiet
    rfl

end Same

end Reconcile.Decimal
