import Reconcile.Proofs.Decimal.Monotone

set_option autoImplicit false

/-
Differences that need no rounding. The difference of two numbers is a multiple of the lower of their
last places. If it is no greater than either of them, it has no more digits there than the number
with that last place, so a decimal can stand for it.
-/
namespace Reconcile.Decimal

theorem InRange.representable {c : ℕ} {e n : ℤ} (inRange : InRange c e)
    (le : |(n : ℚ) * 10 ^ e| ≤ c * 10 ^ e) : Representable (n * 10 ^ e) := by
  have size : n.natAbs ≤ c := by
    rw [abs_mul, abs_of_pos (ten_pos e), mul_le_mul_iff_of_pos_right (ten_pos e), ← Int.cast_abs,
      ← Nat.cast_natAbs] at le
    exact_mod_cast le
  have digits : digitCount n.natAbs ≤ digitCount c :=
    digitCount_le_iff.mpr (size.trans_lt (digitCount_le_iff.mp le_rfl))
  have few := inRange.digits
  have highest := inRange.highest
  exact ⟨decide (n < 0), n.natAbs, e, ⟨by omega, inRange.lowest, by omega⟩, toRat_natAbs n e⟩

theorem Representable.sub {x y : ℚ} (keptX : Representable x) (keptY : Representable y)
    (nearX : |x - y| ≤ x) (nearY : |x - y| ≤ y) : Representable (x - y) := by
  obtain ⟨c, e, rangeX, rfl⟩ := keptX.magnitude ((abs_nonneg _).trans nearX)
  obtain ⟨d, f, rangeY, rfl⟩ := keptY.magnitude ((abs_nonneg _).trans nearY)
  rcases le_total e f with lower | higher
  · have units : (c : ℚ) * 10 ^ e - d * 10 ^ f =
        ((c : ℤ) - (d * tenTo (f - e).toNat : ℕ) : ℤ) * 10 ^ e := by
      rw [← magnitude_shift d lower]
      push_cast
      ring
    rw [units] at nearX ⊢
    exact rangeX.representable nearX
  · have units : (c : ℚ) * 10 ^ e - d * 10 ^ f =
        (((c * tenTo (e - f).toNat : ℕ) : ℤ) - d : ℤ) * 10 ^ f := by
      rw [← magnitude_shift c higher]
      push_cast
      ring
    rw [units] at nearY ⊢
    exact rangeY.representable nearY

/-- The difference of numbers above zero that differ by no more than half of the first. -/
theorem sub_exact {a b r : Decimal} (fitsA : a.Fits) (fitsB : b.Fits)
    (near : 2 * |a.toRat - b.toRat| ≤ a.toRat) (done : a.sub b = .ok r) :
    r.toRat = a.toRat - b.toRat := by
  have size := abs_nonneg (a.toRat - b.toRat)
  have upper := le_abs_self (a.toRat - b.toRat)
  have kept := fitsA.representable.sub fitsB.representable (by linarith) (by linarith)
  exact ((sub_settled fitsA fitsB).rounds done).eq_iff.mpr kept

end Reconcile.Decimal
