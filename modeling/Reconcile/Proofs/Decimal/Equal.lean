import Reconcile.Proofs.Decimal.Operations

set_option autoImplicit false

/-
Equal numbers. However a number is written, it is normalized to one form, and no two canonical
forms of one sign stand for the same number.
-/
namespace Reconcile

namespace Decimal

variable {c d : ℕ} {e f : ℤ}

theorem coefficient_zero_iff (same : (c : ℚ) * 10 ^ e = d * 10 ^ f) : c = 0 ↔ d = 0 := by
  constructor
  · rintro rfl
    by_contra some
    exact absurd same (by rw [Nat.cast_zero, zero_mul]; exact (magnitude_pos some f).ne)
  · rintro rfl
    by_contra some
    exact absurd same (by rw [Nat.cast_zero, zero_mul]; exact (magnitude_pos some e).ne')

/-- The place of the leading digit belongs to the number. -/
theorem leading_eq (some : c ≠ 0) (same : (c : ℚ) * 10 ^ e = d * 10 ^ f) :
    e + digitCount c = f + digitCount d := by
  have other : d ≠ 0 := mt (coefficient_zero_iff same).mpr some
  by_contra different
  rcases lt_or_gt_of_ne different with lower | higher
  · exact absurd same (magnitude_lt_of_leading other lower).ne
  · exact absurd same (magnitude_lt_of_leading some higher).ne'

/-- With fewer zeros at the end a number has the higher exponent. -/
theorem coefficient_shift (same : (c : ℚ) * 10 ^ e = d * 10 ^ f) (le : e ≤ f) :
    c = d * tenTo (f - e).toNat := by
  rw [← magnitude_shift d le] at same
  have cast := mul_right_cancel₀ (ten_pos e).ne' same
  exact_mod_cast cast

/-- A number that does not end in zero has one coefficient and one exponent. -/
theorem ends_unique (same : (c : ℚ) * 10 ^ e = d * 10 ^ f) (endsC : c % 10 ≠ 0)
    (endsD : d % 10 ≠ 0) : c = d ∧ e = f := by
  wlog le : e ≤ f generalizing c d e f
  · obtain ⟨first, second⟩ := this same.symm endsD endsC (by omega)
    exact ⟨first.symm, second.symm⟩
  have shifted := coefficient_shift same le
  cases gap : (f - e).toNat with
  | zero =>
    rw [gap, show tenTo 0 = 1 from rfl, mul_one] at shifted
    exact ⟨shifted, by omega⟩
  | succ k =>
    rw [gap, tenTo_add, ← mul_assoc, show tenTo 1 = 10 from rfl] at shifted
    omega

theorem Canonical.unique {s : Bool} (first : Canonical (.finite s c e))
    (second : Canonical (.finite s d f)) (same : (c : ℚ) * 10 ^ e = d * 10 ^ f) :
    Decimal.finite s c e = .finite s d f := by
  cases first with
  | zero =>
    obtain rfl := (coefficient_zero_iff same).mp rfl
    cases second with
    | zero => rfl
    | finite _ inRange ends => exact absurd rfl ends
  | finite _ inRange ends =>
    cases second with
    | zero =>
      obtain rfl := (coefficient_zero_iff same).mpr rfl
      exact absurd rfl ends
    | finite _ inRange' ends' =>
      obtain ⟨rfl, rfl⟩ := ends_unique same ends ends'
      rfl

theorem normalize_sign {s : Bool} {r : Decimal} (done : normalize (.finite s c e) = .ok r) :
    ∃ d f, r = .finite s d f := by
  rw [normalize_finite] at done
  cases rounded : fit s c e with
  | error fault =>
    rw [rounded] at done
    cases done
  | ok fitted =>
    rw [rounded] at done
    cases done
    rcases fit_inRange rounded with rfl | ⟨c', f, some, -, rfl⟩
    · exact ⟨0, 0, rfl⟩
    · exact ⟨_, _, unpadded_finite s f some⟩

/-- Numbers that are rounded at the same place are rounded alike. -/
theorem settle_congr (s : Bool) {unit : ℤ} (same : (c : ℚ) * 10 ^ e = d * 10 ^ f) :
    settle s c 1 e unit = settle s d 1 f unit := by
  have shifted : (c : ℚ) / (1 : ℕ) * 10 ^ (e - unit) = d / (1 : ℕ) * 10 ^ (f - unit) := by
    rw [zpow_sub₀ (by norm_num), zpow_sub₀ (by norm_num), ← mul_div_assoc, ← mul_div_assoc,
      Nat.cast_one, div_one, div_one, same]
  have rounded : roundShifted c 1 (e - unit) = roundShifted d 1 (f - unit) := by
    have second := roundShifted_nearest d Nat.one_pos (f - unit)
    rw [← shifted] at second
    exact (roundShifted_nearest c Nat.one_pos (e - unit)).unique second
  rw [settle, settle, rounded]

/-- Either both ways to write a number are rounded at the same place, or there is nothing to
round. -/
theorem fit_congr_or (s : Bool) (some : c ≠ 0) (same : (c : ℚ) * 10 ^ e = d * 10 ^ f)
    (below : (c : ℚ) * 10 ^ e < limit) :
    fit s c e = fit s d f ∨ Representable (finite s c e).toRat := by
  wlog le : e ≤ f generalizing c d e f
  · have other : d ≠ 0 := mt (coefficient_zero_iff same).mpr some
    rcases this other same.symm (same ▸ below) (by omega) with equal | kept
    · exact Or.inl equal.symm
    · refine Or.inr ?_
      rwa [toRat_finite, same, ← toRat_finite]
  have leading := leading_eq some same
  have other : d ≠ 0 := mt (coefficient_zero_iff same).mpr some
  by_cases unit : max tinyExponent (max e (e + digitCount c - precision)) =
      max tinyExponent (max f (f + digitCount d - precision))
  · left
    rw [fit, fit, unit]
    exact settle_congr s same
  · -- The second place is the higher one, so it is that of the last digit.
    right
    have highest : f + digitCount d - 1 ≤ maxExponent := by
      by_contra above
      have great := (leading_iff other f).mp (by omega)
      rw [← same] at great
      exact absurd (limit_le.trans great) (not_le.mpr below)
    refine ⟨s, d, f, ⟨by omega, by omega, highest⟩, ?_⟩
    rw [toRat_finite, toRat_finite, same]

theorem normalize_of_magnitude (s : Bool) (same : (c : ℚ) * 10 ^ e = d * 10 ^ f) :
    normalize (.finite s c e) = normalize (.finite s d f) := by
  by_cases zero : c = 0
  · obtain rfl := (coefficient_zero_iff same).mp zero
    subst zero
    rw [normalize_finite, normalize_finite, fit_of_tiny, fit_of_tiny]
    all_goals
      rw [Nat.cast_zero, zero_mul]
      positivity
  rcases normalize_cases s c e with ⟨above, failed⟩ | ⟨below, r, done, rounds⟩
  · rcases normalize_cases s d f with ⟨-, failed'⟩ | ⟨below', -⟩
    · rw [failed, failed']
    · exact absurd (same ▸ below') (not_lt.mpr above)
  · rcases normalize_cases s d f with ⟨above', -⟩ | ⟨-, r', done', rounds'⟩
    · exact absurd (same ▸ above') (not_le.mpr below)
    rcases fit_congr_or s zero same below with equal | kept
    · rw [normalize_finite, normalize_finite, equal]
    · -- Both results stand for the number itself.
      have value : r.toRat = (finite s c e).toRat := rounds.eq_iff.mpr kept
      have value' : r'.toRat = (finite s c e).toRat := by
        have kept' : Representable (finite s d f).toRat := by
          rwa [toRat_finite, ← same, ← toRat_finite]
        rw [rounds'.eq_iff.mpr kept', toRat_finite, toRat_finite, same]
      obtain ⟨c', e', rfl⟩ := normalize_sign done
      obtain ⟨d', f', rfl⟩ := normalize_sign done'
      rw [done, done', (canonical_of_normalize done).unique (canonical_of_normalize done')]
      have equal := value.trans value'.symm
      rw [toRat_finite, toRat_finite] at equal
      have unit : sign s ≠ 0 := by cases s <;> norm_num [sign]
      exact mul_left_cancel₀ unit equal

section Sign

variable {a b r q : Decimal}

theorem isNegative_of_pos (finite : a.isFinite) (above : 0 < a.toRat) : a.isNegative = false := by
  obtain ⟨s, c, e, rfl⟩ := eq_finite_of_isFinite finite
  cases s with
  | false => rfl
  | true =>
    rw [toRat_true] at above
    exact absurd above (not_lt.mpr (neg_nonpos.mpr (magnitude_nonneg c e)))

theorem normalize_isNegative (finite : a.isFinite) (done : a.normalize = .ok r) :
    r.isFinite ∧ r.isNegative = a.isNegative := by
  obtain ⟨s, c, e, rfl⟩ := eq_finite_of_isFinite finite
  obtain ⟨d, f, rfl⟩ := normalize_sign done
  exact ⟨rfl, rfl⟩

theorem normalize_congr (finiteA : a.isFinite) (finiteB : b.isFinite)
    (sign : a.isNegative = b.isNegative) (same : a.toRat = b.toRat) :
    a.normalize = b.normalize := by
  obtain ⟨s, c, e, rfl⟩ := eq_finite_of_isFinite finiteA
  obtain ⟨t, d, f, rfl⟩ := eq_finite_of_isFinite finiteB
  obtain rfl : s = t := sign
  have unit : Decimal.sign s ≠ 0 := by cases s <;> norm_num [Decimal.sign]
  rw [toRat_finite, toRat_finite] at same
  exact normalize_of_magnitude s (mul_left_cancel₀ unit same)

/-- Numbers that are equal and differ in their signs are zeros. -/
theorem eq_zero_of_sign (finiteA : a.isFinite) (finiteB : b.isFinite)
    (sign : a.isNegative ≠ b.isNegative) (same : a.toRat = b.toRat) : a.toRat = 0 := by
  obtain ⟨s, c, e, rfl⟩ := eq_finite_of_isFinite finiteA
  obtain ⟨t, d, f, rfl⟩ := eq_finite_of_isFinite finiteB
  have first := magnitude_nonneg c e
  have second := magnitude_nonneg d f
  cases s with
  | false =>
    obtain rfl : t = true := Bool.eq_true_of_not_eq_false (Ne.symm sign)
    rw [toRat_false, toRat_true] at same
    rw [toRat_false]
    linarith
  | true =>
    obtain rfl : t = false := Bool.eq_false_of_not_eq_true (Ne.symm sign)
    rw [toRat_true, toRat_false] at same
    rw [toRat_true]
    linarith

theorem normalize_toRat_zero (finite : a.isFinite) (zero : a.toRat = 0)
    (done : a.normalize = .ok r) : r.toRat = 0 := by
  obtain ⟨s, c, e, rfl⟩ := eq_finite_of_isFinite finite
  refine (normalize_eq_zero_iff done).mpr ?_
  rw [← abs_toRat s, zero, abs_zero]
  positivity

/-- Equal numbers have equal normal forms, and the same one unless they are zeros with different
signs. -/
theorem normalize_same (finiteA : a.isFinite) (finiteB : b.isFinite) (same : a.toRat = b.toRat)
    (first : a.normalize = .ok r) (second : b.normalize = .ok q) :
    r.same? q = .ok true ∧ (r = q ↔ a.isNegative = b.isNegative) := by
  obtain ⟨finiteR, signR⟩ := normalize_isNegative finiteA first
  obtain ⟨finiteQ, signQ⟩ := normalize_isNegative finiteB second
  rw [same?_eq finiteR finiteQ, ← signR, ← signQ]
  by_cases sign : a.isNegative = b.isNegative
  · obtain rfl : r = q := Except.ok.inj
      ((first.symm.trans (normalize_congr finiteA finiteB sign same)).trans second)
    exact ⟨by rw [decide_eq_true rfl], iff_of_true rfl rfl⟩
  · have zero := eq_zero_of_sign finiteA finiteB sign same
    rw [normalize_toRat_zero finiteA zero first,
      normalize_toRat_zero finiteB (same ▸ zero) second]
    refine ⟨rfl, fun equal => congrArg isNegative equal, fun equal => absurd ?_ sign⟩
    rwa [signR, signQ] at equal

end Sign

end Decimal

end Reconcile
