import Reconcile.Proofs.Decimal.Equal

set_option autoImplicit false

/-
The order of rounded results is that of the exact values. A number may be rounded at several places,
but if it is, then all of these keep it as it is or they are the same, so the result belongs to the
number alone.
-/
namespace Reconcile.Decimal

variable {x y : ℚ}

/-- The place at which a number is rounded does not matter. -/
theorem Place.value_unique {u v : ℤ} {n m : ℕ} (first : Place x u) (second : Place x v)
    (nearestU : NearestEven (x / 10 ^ u) n) (nearestV : NearestEven (x / 10 ^ v) m) :
    (n : ℚ) * 10 ^ u = m * 10 ^ v := by
  wlog le : u ≤ v generalizing u v n m
  · exact (this second first nearestV nearestU (by omega)).symm
  by_cases same : u = v
  · subst same
    rw [nearestU.unique nearestV]
  · have lower : u < v := lt_of_le_of_ne le same
    rcases second.fine with least | leading | ⟨k, exact⟩
    · have low := first.low
      omega
    · -- The leading digit would stand above the places of the lower unit.
      have wide : (10 : ℚ) ^ (u + precision) ≤ 10 ^ (v + precision - 1) := ten_mono (by omega)
      exact absurd (first.few.trans_le wide) (not_lt.mpr leading)
    · have shifted : x = (k * tenTo (v - u).toNat : ℕ) * 10 ^ u := by
        rw [magnitude_shift k le, exact]
      rw [shifted, mul_div_cancel_right₀ _ (ten_pos u).ne'] at nearestU
      rw [exact, mul_div_cancel_right₀ _ (ten_pos v).ne'] at nearestV
      rw [nearestU.eq_of_natCast, nearestV.eq_of_natCast, ← shifted, exact]

/-- The size of a settled number is the rounded coefficient in units of the place. -/
theorem settle_magnitude {s : Bool} {n d : ℕ} {e unit : ℤ} {r : Decimal} (divisor : 0 < d)
    (place : Place ((n : ℚ) / d * 10 ^ e) unit) (done : settle s n d e unit = .ok r) :
    |r.toRat| = roundShifted n d (e - unit) * 10 ^ unit := by
  have few := place.le_tenTo (shifted_nearest n divisor rfl unit)
  unfold settle at done
  dsimp only at done
  generalize roundShifted n d (e - unit) = rounded at few done ⊢
  cases carry : (if rounded = tenTo precision then (tenTo (precision - 1), unit + 1)
    else (rounded, unit)) with
  | mk c last =>
    obtain ⟨same, -, -⟩ := carried place.low few carry
    rw [carry] at done
    dsimp only at done
    split_ifs at done with zero
    · cases done
      rw [toRat_of_coefficient_zero, abs_zero, ← same, zero, Nat.cast_zero, zero_mul]
    · cases done
      rw [abs_toRat, same]

namespace Settled

variable {p q : Except Fault Decimal} {a b : Decimal}

theorem rounds (settled : Settled p x) (done : p = .ok a) : Rounds x a := by
  rcases settled.evaluates with ⟨-, failed⟩ | ⟨-, r, made, rounds⟩
  · rw [failed] at done
    cases done
  · cases made.symm.trans done
    exact rounds

/-- What the size of a result comes from. -/
theorem magnitude (settled : Settled p x) (done : p = .ok a) :
    ∃ unit n, Place |x| unit ∧ NearestEven (|x| / 10 ^ unit) n ∧ |a.toRat| = n * 10 ^ unit := by
  obtain ⟨s, n, d, e, unit, divisor, rfl, place, rfl⟩ := settled
  rw [abs_sign_mul s (by positivity)]
  exact ⟨unit, _, place, shifted_nearest n divisor rfl unit, settle_magnitude divisor place done⟩

theorem abs_eq (first : Settled p x) (second : Settled q y) (same : |x| = |y|)
    (doneA : p = .ok a) (doneB : q = .ok b) : |a.toRat| = |b.toRat| := by
  obtain ⟨u, n, placeA, nearestA, sizeA⟩ := first.magnitude doneA
  obtain ⟨v, m, placeB, nearestB, sizeB⟩ := second.magnitude doneB
  rw [same] at placeA nearestA
  rw [sizeA, sizeB]
  exact placeA.value_unique placeB nearestA nearestB

theorem eq (first : Settled p x) (second : Settled q x) (doneA : p = .ok a) (doneB : q = .ok b) :
    a.toRat = b.toRat := by
  have sizes := first.abs_eq second rfl doneA doneB
  have roundsA := first.rounds doneA
  have roundsB := second.rounds doneB
  rcases le_total 0 x with above | below
  · rwa [abs_of_nonneg (roundsA.nonneg above), abs_of_nonneg (roundsB.nonneg above)] at sizes
  · have underA := roundsA.le_of_le representable_zero below
    have underB := roundsB.le_of_le representable_zero below
    rw [abs_of_nonpos underA, abs_of_nonpos underB] at sizes
    exact neg_injective sizes

end Settled

/-- Of two numbers the greater one is nearest to nothing that is less than what the other is
nearest to. -/
theorem Rounds.le_of_lt {a b : Decimal} (first : Rounds x a) (second : Rounds y b) (less : x < y) :
    a.toRat ≤ b.toRat := by
  by_contra crossed
  have below : b.toRat < a.toRat := not_le.mp crossed
  have closeA := first.nearest b.toRat second.representable
  have closeB := second.nearest a.toRat first.representable
  -- The first number lies in the upper half of the gap, and the second one in the lower half.
  have upper : a.toRat + b.toRat ≤ 2 * x := by
    by_contra low
    rw [abs_of_nonpos (by linarith)] at closeA
    rcases abs_cases (x - b.toRat) with ⟨size, -⟩ | ⟨size, -⟩ <;> rw [size] at closeA <;> linarith
  have lower : 2 * y ≤ a.toRat + b.toRat := by
    by_contra high
    rw [abs_of_nonneg (by linarith)] at closeB
    rcases abs_cases (y - a.toRat) with ⟨size, -⟩ | ⟨size, -⟩ <;> rw [size] at closeB <;> linarith
  linarith

namespace Settled

variable {p q : Except Fault Decimal} {a b : Decimal}

theorem mono (first : Settled p x) (second : Settled q y) (le : x ≤ y) (doneA : p = .ok a)
    (doneB : q = .ok b) : a.toRat ≤ b.toRat := by
  by_cases same : x = y
  · subst same
    exact (first.eq second doneA doneB).le
  · exact (first.rounds doneA).le_of_lt (second.rounds doneB) (lt_of_le_of_ne le same)

theorem abs_mono (first : Settled p x) (second : Settled q y) (le : |x| ≤ |y|) (doneA : p = .ok a)
    (doneB : q = .ok b) : |a.toRat| ≤ |b.toRat| := by
  by_cases same : |x| = |y|
  · exact (first.abs_eq second same doneA doneB).le
  · have roundsA := first.rounds doneA
    have roundsB := second.rounds doneB
    obtain ⟨c, -, fitsC, sizeC⟩ := roundsA.fits.abs_eq_ok
    obtain ⟨d, -, fitsD, sizeD⟩ := roundsB.fits.abs_eq_ok
    rw [← sizeC, ← sizeD]
    exact (roundsA.abs fitsC sizeC).le_of_lt (roundsB.abs fitsD sizeD) (lt_of_le_of_ne le same)

end Settled

section Sum

variable {a b r : Decimal}

theorem fit_isFinite {s : Bool} {c : ℕ} {e : ℤ} (done : fit s c e = .ok r) : r.isFinite :=
  ((fit_settled s c e).rounds done).isFinite

theorem add_isFinite (finiteA : a.isFinite) (finiteB : b.isFinite) (done : a.add b = .ok r) :
    r.isFinite := by
  obtain ⟨s, c, e, rfl⟩ := eq_finite_of_isFinite finiteA
  obtain ⟨t, d, f, rfl⟩ := eq_finite_of_isFinite finiteB
  unfold add addFinite at done
  dsimp only at done
  split_ifs at done
  · cases done
    rfl
  · exact fit_isFinite done
  · exact fit_isFinite done
  · exact ((addTerms_settled _ _ _ _ _ _).rounds done).isFinite

end Sum

end Reconcile.Decimal
