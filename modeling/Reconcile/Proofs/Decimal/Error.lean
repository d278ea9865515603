import Reconcile.Proofs.Decimal.Monotone

set_option autoImplicit false

/-
How far a rounded result can be from the exact one: by half a unit in the last of its digits, or at
the low end of the range by half of the least number above zero. What is a multiple of that least
number loses nothing there.
-/
namespace Reconcile.Decimal

/-- The greatest error of a rounded number as a part of it. -/
def relativeError : ℚ := 10 ^ (1 - precision : ℤ) / 2

theorem relativeError_nonneg : 0 ≤ relativeError := by
  unfold relativeError
  positivity

variable {x : ℚ}

theorem Place.error {unit : ℤ} {n : ℕ} (place : Place x unit)
    (nearest : NearestEven (x / 10 ^ unit) n) :
    |n * 10 ^ unit - x| ≤ x * relativeError ∨
      unit = tinyExponent ∧ |n * 10 ^ unit - x| ≤ 10 ^ tinyExponent / 2 := by
  have half : |n * 10 ^ unit - x| ≤ 10 ^ unit / 2 := by
    rw [abs_sub_comm, dist_scaled]
    calc |(n : ℚ) - x / 10 ^ unit| * 10 ^ unit ≤ 1 / 2 * 10 ^ unit :=
          mul_le_mul_of_nonneg_right nearest.error (ten_pos unit).le
      _ = 10 ^ unit / 2 := by ring
  rcases place.fine with least | leading | ⟨m, exact⟩
  · exact Or.inr ⟨least, least ▸ half⟩
  · left
    refine half.trans ?_
    have scaled : (10 : ℚ) ^ unit = 10 ^ (unit + precision - 1) * 10 ^ (1 - precision : ℤ) := by
      rw [← ten_add]
      congr 1
      ring
    have part : (10 : ℚ) ^ (unit + precision - 1) * 10 ^ (1 - precision : ℤ) ≤
        x * 10 ^ (1 - precision : ℤ) := mul_le_mul_of_nonneg_right leading (ten_pos _).le
    rw [relativeError, ← mul_div_assoc, scaled]
    exact div_le_div_of_nonneg_right part (by norm_num)
  · left
    rw [exact, mul_div_cancel_right₀ _ (ten_pos unit).ne'] at nearest
    have nonneg : 0 ≤ x := by
      rw [exact]
      exact magnitude_nonneg m unit
    rw [nearest.eq_of_natCast, ← exact, sub_self, abs_zero]
    exact mul_nonneg nonneg relativeError_nonneg

/-- A rounded number has the sign of the exact one. -/
theorem Rounds.abs_sub_abs {a : Decimal} (rounds : Rounds x a) :
    |a.toRat - x| = |(|a.toRat|) - (|x|)| := by
  rcases le_total 0 x with above | below
  · rw [abs_of_nonneg above, abs_of_nonneg (rounds.nonneg above)]
  · rw [abs_of_nonpos below, abs_of_nonpos (rounds.le_of_le representable_zero below),
      neg_sub_neg, abs_sub_comm]

namespace Settled

variable {result : Except Fault Decimal} {a : Decimal}

theorem error_cases (settled : Settled result x) (done : result = .ok a) :
    |a.toRat - x| ≤ |x| * relativeError ∨
      |a.toRat - x| ≤ 10 ^ tinyExponent / 2 ∧
        ∀ m : ℤ, x = m * 10 ^ tinyExponent → a.toRat = x := by
  obtain ⟨unit, n, place, nearest, size⟩ := settled.magnitude done
  have sides := (settled.rounds done).abs_sub_abs
  rw [size] at sides
  rcases place.error nearest with part | ⟨least, little⟩
  · left
    rw [sides]
    exact part
  · right
    rw [sides]
    refine ⟨little, ?_⟩
    intro m multiple
    -- The exact number is a whole number of units, so its coefficient is kept.
    have whole : |x| = (m.natAbs : ℕ) * 10 ^ unit := by
      rw [multiple, abs_mul, abs_of_pos (ten_pos tinyExponent), least, Nat.cast_natAbs,
        Int.cast_abs]
    rw [whole, mul_div_cancel_right₀ _ (ten_pos unit).ne'] at nearest
    rw [nearest.eq_of_natCast, whole, sub_self, abs_zero] at sides
    exact sub_eq_zero.mp (abs_eq_zero.mp sides)

theorem error (settled : Settled result x) (done : result = .ok a) :
    |a.toRat - x| ≤ |x| * relativeError + 10 ^ tinyExponent / 2 := by
  have part : 0 ≤ |x| * relativeError := mul_nonneg (abs_nonneg x) relativeError_nonneg
  have least := ten_pos tinyExponent
  rcases settled.error_cases done with close | ⟨close, -⟩
  · linarith
  · linarith

/-- A multiple of the least number above zero is rounded only if it has too many digits. -/
theorem error_of_multiple (settled : Settled result x) (done : result = .ok a) {m : ℤ}
    (multiple : x = m * 10 ^ tinyExponent) : |a.toRat - x| ≤ |x| * relativeError := by
  rcases settled.error_cases done with close | ⟨-, kept⟩
  · exact close
  · rw [kept m multiple, sub_self, abs_zero]
    exact mul_nonneg (abs_nonneg x) relativeError_nonneg

end Settled

/-- What fits is a multiple of the least number above zero. -/
theorem Fits.multiple {a : Decimal} (fits : a.Fits) :
    ∃ m : ℤ, a.toRat = m * 10 ^ tinyExponent := by
  obtain ⟨s, c, e, inRange, rfl⟩ := fits
  exact ⟨_, (signed_shift s c inRange.lowest).symm⟩

/-- The difference of two numbers that fit keeps its digits at the low end of the range. -/
theorem sub_error {a b r : Decimal} (fitsA : a.Fits) (fitsB : b.Fits) (done : a.sub b = .ok r) :
    |r.toRat - (a.toRat - b.toRat)| ≤ |a.toRat - b.toRat| * relativeError := by
  obtain ⟨m, multipleA⟩ := fitsA.multiple
  obtain ⟨k, multipleB⟩ := fitsB.multiple
  apply (sub_settled fitsA fitsB).error_of_multiple done (m := m - k)
  rw [multipleA, multipleB, ← sub_mul, Int.cast_sub]

end Reconcile.Decimal
