import Reconcile.Proofs.Decimal.Rounding

set_option autoImplicit false

/-
What the operations give. Each of them rounds the exact result once, and it overflows exactly if
the size of that result reaches the limit. Between two numbers that decimals can stand for there
is a gap, which is no smaller than their last place.
-/
namespace Reconcile.Decimal

/-- A finite decimal with no more digits and no other places than a result has. -/
def Fits (a : Decimal) : Prop := ∃ s c e, InRange c e ∧ a = .finite s c e

theorem Fits.of_inRange {c : ℕ} {e : ℤ} (inRange : InRange c e) (s : Bool) : (finite s c e).Fits :=
  ⟨s, c, e, inRange, rfl⟩

/-- A result is the exact value, rounded, or an overflow exactly if the exact value is too
great. -/
def Evaluates (result : Except Fault Decimal) (x : ℚ) : Prop :=
  (limit ≤ |x| ∧ result = .error .overflow) ∨ (|x| < limit ∧ ∃ r, result = .ok r ∧ Rounds x r)

theorem abs_toRat (s : Bool) (c : ℕ) (e : ℤ) : |(finite s c e).toRat| = c * 10 ^ e := by
  have nonneg := magnitude_nonneg c e
  cases s with
  | false => rw [toRat_false, abs_of_nonneg nonneg]
  | true => rw [toRat_true, abs_neg, abs_of_nonneg nonneg]

theorem abs_sign_mul (s : Bool) {x : ℚ} (nonneg : 0 ≤ x) : |sign s * x| = x := by
  rw [abs_mul, abs_of_nonneg nonneg]
  cases s <;> simp [sign]

/-- A result is what the exact value is settled to at one of its places. -/
def Settled (result : Except Fault Decimal) (x : ℚ) : Prop :=
  ∃ (s : Bool) (n d : ℕ) (e unit : ℤ), 0 < d ∧ sign s * ((n : ℚ) / d * 10 ^ e) = x ∧
    Place ((n : ℚ) / d * 10 ^ e) unit ∧ result = settle s n d e unit

namespace Settled

theorem evaluates {result : Except Fault Decimal} {x : ℚ} (settled : Settled result x) :
    Evaluates result x := by
  obtain ⟨s, n, d, e, unit, divisor, rfl, place, rfl⟩ := settled
  have nonneg : 0 ≤ (n : ℚ) / d * 10 ^ e := by positivity
  rw [Evaluates, abs_sign_mul s nonneg]
  rcases settle_cases s n divisor rfl place with
    ⟨above, failed⟩ | ⟨below, c, f, done, inRange, close⟩
  · exact Or.inl ⟨above, failed⟩
  · exact Or.inr ⟨below, .finite s c f, done, rounds_of_size s nonneg inRange close⟩

theorem zero (s : Bool) : Settled (.ok (.finite s 0 0)) 0 := by
  refine ⟨s, 0, 1, 0, 0, Nat.one_pos, ?_, ⟨by decide, ?_, Or.inr (Or.inr ⟨0, ?_⟩)⟩, rfl⟩
  · simp
  · simp only [Nat.cast_zero, zero_div, zero_mul]
    exact ten_pos _
  · simp

end Settled

theorem fit_settled (s : Bool) (c : ℕ) (e : ℤ) : Settled (fit s c e) (finite s c e).toRat := by
  have value : (c : ℚ) / (1 : ℕ) * 10 ^ e = c * 10 ^ e := by rw [Nat.cast_one, div_one]
  refine ⟨s, c, 1, e, max tinyExponent (max e (e + digitCount c - precision)), Nat.one_pos, ?_, ?_,
    rfl⟩
  · rw [value, toRat_finite]
  · rw [value]
    exact fit_place c e

theorem Rounds.fits {x : ℚ} {r : Decimal} (rounds : Rounds x r) : r.Fits := rounds.inRange

theorem fits_zero : zero.Fits := .of_inRange inRange_zero false

theorem fits_one : one.Fits := .of_inRange ⟨by decide, by decide, by decide⟩ false

namespace Fits

variable {a b : Decimal}

theorem isFinite (fits : a.Fits) : a.isFinite := by
  obtain ⟨s, c, e, -, rfl⟩ := fits
  rfl

theorem representable (fits : a.Fits) : Representable a.toRat := by
  obtain ⟨s, c, e, inRange, rfl⟩ := fits
  exact ⟨s, c, e, inRange, rfl⟩

theorem abs_lt (fits : a.Fits) : |a.toRat| < limit := by
  obtain ⟨s, c, e, inRange, rfl⟩ := fits
  rcases (fit_settled s c e).evaluates with ⟨-, failed⟩ | ⟨below, -⟩
  · rw [fit_of_inRange s inRange] at failed
    cases failed
  · exact below

theorem lt_limit (fits : a.Fits) : a.toRat < limit := (le_abs_self _).trans_lt fits.abs_lt

end Fits

theorem Representable.abs_lt {x : ℚ} (kept : Representable x) : |x| < limit := by
  obtain ⟨s, c, e, inRange, rfl⟩ := kept
  exact (Fits.of_inRange inRange s).abs_lt

/-- A number that fits, or zero at any place. -/
structure Plain (a : Decimal) : Prop where
  isFinite : a.isFinite
  fits : a.toRat ≠ 0 → a.Fits

namespace Plain

variable {a : Decimal}

theorem of_fits (fits : a.Fits) : a.Plain := ⟨fits.isFinite, fun _ => fits⟩

theorem representable (plain : a.Plain) : Representable a.toRat := by
  by_cases zero : a.toRat = 0
  · rw [zero]
    exact representable_zero
  · exact (plain.fits zero).representable

theorem inRange {s : Bool} {c : ℕ} {e : ℤ} (plain : (finite s c e).Plain) (some : c ≠ 0) :
    InRange c e := by
  have value : (finite s c e).toRat ≠ 0 := by
    rw [← abs_ne_zero, abs_toRat]
    exact (magnitude_pos some e).ne'
  obtain ⟨t, d, f, inRange, same⟩ := plain.fits value
  cases same
  exact inRange

end Plain

namespace Evaluates

variable {result : Except Fault Decimal} {x : ℚ}

theorem eq_ok (evaluates : Evaluates result x) (below : |x| < limit) :
    ∃ r, result = .ok r ∧ Rounds x r := by
  rcases evaluates with ⟨above, -⟩ | ⟨-, done⟩
  · exact absurd below (not_lt.mpr above)
  · exact done

theorem eq_error (evaluates : Evaluates result x) (above : limit ≤ |x|) :
    result = .error .overflow := by
  rcases evaluates with ⟨-, failed⟩ | ⟨below, -⟩
  · exact failed
  · exact absurd below (not_lt.mpr above)

end Evaluates

section Sum

theorem signed_shift (s : Bool) (c : ℕ) {e f : ℤ} (le : f ≤ e) :
    (signed s (c * tenTo (e - f).toNat) : ℚ) * 10 ^ f = (finite s c e).toRat := by
  cases s with
  | false =>
    rw [toRat_false, ← magnitude_shift c le]
    rfl
  | true =>
    rw [toRat_true, ← magnitude_shift c le]
    simp [signed]

/-- A whole number of units as a decimal. -/
theorem toRat_natAbs (n e : ℤ) : (finite (decide (n < 0)) n.natAbs e).toRat = n * 10 ^ e := by
  by_cases negative : n < 0
  · have size : ((n.natAbs : ℤ) : ℚ) = -n := by
      rw [Int.ofNat_natAbs_of_nonpos negative.le, Int.cast_neg]
    rw [decide_eq_true negative, toRat_true, ← Int.cast_natCast, size]
    ring
  · have size : ((n.natAbs : ℤ) : ℚ) = n := by
      rw [Int.natAbs_of_nonneg (not_lt.mp negative)]
    rw [decide_eq_false negative, toRat_false, ← Int.cast_natCast, size]

theorem addTerms_settled (s : Bool) (c : ℕ) (e : ℤ) (t : Bool) (d : ℕ) (f : ℤ) :
    Settled (addTerms s c e t d f) ((finite s c e).toRat + (finite t d f).toRat) := by
  rw [← signed_shift s c (min_le_left e f), ← signed_shift t d (min_le_right e f), ← add_mul,
    ← Int.cast_add]
  unfold addTerms
  dsimp only
  generalize signed s (c * tenTo (e - min e f).toNat) + signed t (d * tenTo (f - min e f).toNat) =
    sum
  split
  · rename_i none
    rw [none, Int.cast_zero, zero_mul]
    exact .zero false
  · rw [← toRat_natAbs]
    exact fit_settled _ _ _

/-- Terms whose places are near are taken as they are. -/
theorem closeTo_of_near {e f : ℤ} (d : ℕ) (near : e - f ≤ farApart) : closeTo e d f = (d, f) := by
  rw [closeTo, if_neg]
  rintro ⟨far, -⟩
  omega

theorem InRange.near {c d : ℕ} {e f : ℤ} (some : c ≠ 0) (first : InRange c e)
    (second : InRange d f) : e - f ≤ farApart := by
  have counted := digitCount_pos some
  have highest := first.highest
  have lowest := second.lowest
  simp only [maxExponent, tinyExponent, farApart] at highest lowest ⊢
  omega

variable {a b : Decimal}

theorem Plain.add_settled (plainA : a.Plain) (plainB : b.Plain) :
    Settled (a.add b) (a.toRat + b.toRat) := by
  obtain ⟨s, c, e, rfl⟩ := eq_finite_of_isFinite plainA.isFinite
  obtain ⟨t, d, f, rfl⟩ := eq_finite_of_isFinite plainB.isFinite
  unfold add addFinite
  dsimp only
  split
  · rename_i none
    subst none
    rw [toRat_of_coefficient_zero, zero_add]
    split
    · rename_i none
      subst none
      rw [toRat_of_coefficient_zero]
      exact .zero _
    · exact fit_settled t d f
  · rename_i someC
    split
    · rename_i none
      subst none
      rw [toRat_of_coefficient_zero, add_zero]
      exact fit_settled s c e
    · rename_i someD
      have rangeA := plainA.inRange someC
      have rangeB := plainB.inRange someD
      rw [closeTo_of_near c (rangeB.near someD rangeA),
        closeTo_of_near d (rangeA.near someC rangeB)]
      exact addTerms_settled s c e t d f

theorem add_settled (fitsA : a.Fits) (fitsB : b.Fits) :
    Settled (a.add b) (a.toRat + b.toRat) :=
  (Plain.of_fits fitsA).add_settled (.of_fits fitsB)

theorem add_evaluates (fitsA : a.Fits) (fitsB : b.Fits) :
    Evaluates (a.add b) (a.toRat + b.toRat) :=
  (add_settled fitsA fitsB).evaluates

theorem toRat_negate (a : Decimal) : a.negate.toRat = -a.toRat := by
  cases a with
  | finite s c e => cases s <;> simp [negate, toRat, signed]
  | infinite s => simp [negate, toRat]
  | nan s signaling payload => simp [negate, toRat]

theorem sub_settled (fitsA : a.Fits) (fitsB : b.Fits) :
    Settled (a.sub b) (a.toRat - b.toRat) := by
  have fits : b.negate.Fits := by
    obtain ⟨t, d, f, rangeB, rfl⟩ := fitsB
    exact ⟨!t, d, f, rangeB, rfl⟩
  rw [sub_eq_add_neg, ← toRat_negate]
  exact add_settled fitsA fits

theorem sub_evaluates (fitsA : a.Fits) (fitsB : b.Fits) :
    Evaluates (a.sub b) (a.toRat - b.toRat) :=
  (sub_settled fitsA fitsB).evaluates

theorem two_lt_limit : 2 < limit := by
  have ten : (10 : ℚ) ^ (1 : ℤ) ≤ 10 ^ maxExponent := ten_mono (by decide)
  rw [zpow_one] at ten
  linarith [lt_limit]

theorem closeTo_le {c : ℕ} (some : c ≠ 0) (e : ℤ) (d : ℕ) (f : ℤ) :
    ((closeTo e d f).1 : ℚ) * 10 ^ (closeTo e d f).2 ≤
      max ((d : ℚ) * 10 ^ f) ((c : ℚ) * 10 ^ e) := by
  unfold closeTo
  split
  · have whole : (1 : ℚ) ≤ c := by exact_mod_cast Nat.one_le_iff_ne_zero.mpr some
    refine le_trans ?_ (le_max_right _ _)
    rw [Nat.cast_one]
    exact mul_le_mul whole (ten_mono (by omega)) (ten_pos _).le (by linarith)
  · exact le_max_left _ _

theorem add_of_small (finiteA : a.isFinite) (finiteB : b.isFinite) (smallA : |a.toRat| ≤ 1)
    (smallB : |b.toRat| ≤ 1) : ∃ r, a.add b = .ok r ∧ r.isFinite := by
  obtain ⟨s, c, e, rfl⟩ := eq_finite_of_isFinite finiteA
  obtain ⟨t, d, f, rfl⟩ := eq_finite_of_isFinite finiteB
  have enough := two_lt_limit
  have fitted : ∀ {s : Bool} {c : ℕ} {e : ℤ}, |(finite s c e).toRat| ≤ 1 →
      ∃ r, fit s c e = .ok r ∧ r.isFinite := by
    intro s c e small
    obtain ⟨r, done, rounds⟩ := (fit_settled s c e).evaluates.eq_ok (by linarith)
    exact ⟨r, done, rounds.fits.isFinite⟩
  unfold add addFinite
  dsimp only
  split
  · split
    · exact ⟨_, rfl, rfl⟩
    · exact fitted smallB
  · rename_i someC
    split
    · exact fitted smallA
    · rename_i someD
      -- Neither stand-in is greater than one, so their sum is at most two.
      rw [abs_toRat] at smallA smallB
      have first := (closeTo_le someD f c e).trans (max_le smallA smallB)
      have second := (closeTo_le someC e d f).trans (max_le smallB smallA)
      rw [← abs_toRat s] at first
      rw [← abs_toRat t] at second
      obtain ⟨r, done, rounds⟩ := (addTerms_settled s (closeTo f c e).1 (closeTo f c e).2 t
        (closeTo e d f).1 (closeTo e d f).2).evaluates.eq_ok (by
          refine (abs_add_le _ _).trans_lt ?_
          linarith)
      exact ⟨r, done, rounds.fits.isFinite⟩

theorem sub_of_small (finiteA : a.isFinite) (finiteB : b.isFinite) (smallA : |a.toRat| ≤ 1)
    (smallB : |b.toRat| ≤ 1) : ∃ r, a.sub b = .ok r ∧ r.isFinite := by
  refine add_of_small finiteA ?_ smallA ?_
  · obtain ⟨t, d, f, rfl⟩ := eq_finite_of_isFinite finiteB
    rfl
  · rwa [toRat_negate, abs_neg]

theorem sub_self_eq (finite : a.isFinite) : a.sub a = .ok zero := by
  obtain ⟨s, c, e, rfl⟩ := eq_finite_of_isFinite finite
  have near : e - e ≤ farApart := by
    rw [sub_self]
    decide
  unfold sub negate add addFinite
  dsimp only
  by_cases none : c = 0
  · rw [if_pos none, if_pos none]
    cases s <;> rfl
  · rw [if_neg none, if_neg none, closeTo_of_near c near, addTerms]
    dsimp only
    rw [min_self, if_pos]
    · rfl
    · cases s <;> simp [signed]

end Sum

section Product

variable {a b : Decimal}

theorem sign_xor (s t : Bool) : sign (s != t) = sign s * sign t := by
  cases s <;> cases t <;> simp [sign]

theorem sign_inv (s : Bool) : (sign s)⁻¹ = sign s := by
  cases s <;> norm_num [sign]

theorem mul_settled (finiteA : a.isFinite) (finiteB : b.isFinite) :
    Settled (a.mul b) (a.toRat * b.toRat) := by
  obtain ⟨s, c, e, rfl⟩ := eq_finite_of_isFinite finiteA
  obtain ⟨t, d, f, rfl⟩ := eq_finite_of_isFinite finiteB
  have value : (finite s c e).toRat * (finite t d f).toRat =
      (finite (s != t) (c * d) (e + f)).toRat := by
    rw [toRat_finite, toRat_finite, toRat_finite, sign_xor, ten_add, Nat.cast_mul]
    ring
  rw [value]
  exact fit_settled (s != t) (c * d) (e + f)

theorem mul_evaluates (finiteA : a.isFinite) (finiteB : b.isFinite) :
    Evaluates (a.mul b) (a.toRat * b.toRat) :=
  (mul_settled finiteA finiteB).evaluates

theorem div_settled (finiteA : a.isFinite) (finiteB : b.isFinite) (some : b.toRat ≠ 0) :
    Settled (a.div b) (a.toRat / b.toRat) := by
  obtain ⟨s, c, e, rfl⟩ := eq_finite_of_isFinite finiteA
  obtain ⟨t, d, f, rfl⟩ := eq_finite_of_isFinite finiteB
  have someD : d ≠ 0 := by
    rintro rfl
    exact some (toRat_of_coefficient_zero t f)
  unfold div
  dsimp only
  rw [if_neg someD]
  split
  · rename_i none
    subst none
    rw [toRat_of_coefficient_zero, zero_div]
    exact .zero _
  · rename_i someC
    have value : (finite s c e).toRat / (finite t d f).toRat =
        sign (s != t) * ((c : ℚ) / d * 10 ^ (e - f)) := by
      rw [toRat_finite, toRat_finite, sign_xor, zpow_sub₀ (by norm_num), mul_div_mul_comm,
        mul_div_mul_comm, div_eq_mul_inv (sign s), sign_inv]
    rw [value]
    exact ⟨s != t, c, d, e - f, max tinyExponent (quotientUnit c d (e - f)),
      Nat.pos_of_ne_zero someD, rfl, fitQuotient_place someC someD (e - f), rfl⟩

theorem div_evaluates (finiteA : a.isFinite) (finiteB : b.isFinite) (some : b.toRat ≠ 0) :
    Evaluates (a.div b) (a.toRat / b.toRat) :=
  (div_settled finiteA finiteB some).evaluates

theorem div_of_zero (finiteA : a.isFinite) (finiteB : b.isFinite) (none : b.toRat = 0) :
    ∃ fault, a.div b = .error fault := by
  obtain ⟨s, c, e, rfl⟩ := eq_finite_of_isFinite finiteA
  obtain ⟨t, d, f, rfl⟩ := eq_finite_of_isFinite finiteB
  have noD : d = 0 := by
    by_contra some
    have positive := magnitude_pos some f
    rw [← abs_toRat t, none, abs_zero] at positive
    exact lt_irrefl _ positive
  exact ⟨_, if_pos noD⟩

theorem abs_settled (finite : a.isFinite) : Settled a.abs |a.toRat| := by
  obtain ⟨s, c, e, rfl⟩ := eq_finite_of_isFinite finite
  rw [abs_toRat, ← toRat_false]
  exact fit_settled false c e

end Product

theorem Representable.neg {y : ℚ} (kept : Representable y) : Representable (-y) := by
  obtain ⟨s, c, e, inRange, rfl⟩ := kept
  exact ⟨!s, c, e, inRange, toRat_negate (.finite s c e)⟩

theorem Rounds.abs {x : ℚ} {r size : Decimal} (rounds : Rounds x r) (fits : size.Fits)
    (same : size.toRat = |r.toRat|) : Rounds |x| size := by
  refine ⟨fits, ?_⟩
  intro y kept
  rw [same]
  refine (abs_abs_sub_abs_le x r.toRat).trans ?_
  rcases abs_cases x with ⟨plus, -⟩ | ⟨minus, -⟩
  · rw [plus]
    exact rounds.nearest y kept
  · have close := rounds.nearest (-y) kept.neg
    rwa [minus, ← neg_add', abs_neg, ← sub_neg_eq_add]

theorem Fits.abs_eq_ok {a : Decimal} (fits : a.Fits) :
    ∃ r, a.abs = .ok r ∧ r.Fits ∧ r.toRat = |a.toRat| := by
  have small : |(|a.toRat|)| < limit := by
    rw [abs_abs]
    exact fits.abs_lt
  obtain ⟨r, done, rounds⟩ := (abs_settled fits.isFinite).evaluates.eq_ok small
  have kept : Representable |a.toRat| := by
    rcases abs_choice a.toRat with plus | minus
    · rw [plus]
      exact fits.representable
    · rw [minus]
      exact fits.representable.neg
  exact ⟨r, done, rounds.fits, rounds.eq_iff.mpr kept⟩

/-- A number that decimals can stand for and that is not negative, as a coefficient and a place. -/
theorem Representable.magnitude {x : ℚ} (kept : Representable x) (nonneg : 0 ≤ x) :
    ∃ (c : ℕ) (e : ℤ), InRange c e ∧ x = c * 10 ^ e := by
  obtain ⟨s, c, e, inRange, rfl⟩ := kept
  refine ⟨c, e, inRange, ?_⟩
  rw [← abs_toRat s, abs_of_nonneg nonneg]

theorem InRange.below {c : ℕ} {e : ℤ} (inRange : InRange c e) :
    (c : ℚ) * 10 ^ e < 10 ^ e * 10 ^ (precision : ℤ) := by
  have digits := inRange.digits
  rw [← ten_add]
  exact (magnitude_lt c e).trans_le (ten_mono (by omega))

/-- A number above zero that decimals can stand for, with the gap to a greater one: it has no more
than so many digits at a place that lies in the gap. -/
theorem Representable.gap {y z : ℚ} (keptY : Representable y) (keptZ : Representable z)
    (nonneg : 0 ≤ y) (less : y < z) : y ≤ (z - y) * 10 ^ (precision : ℤ) := by
  obtain ⟨c, e, rangeY, rfl⟩ := keptY.magnitude nonneg
  obtain ⟨d, f, rangeZ, rfl⟩ := keptZ.magnitude (nonneg.trans less.le)
  have wide := ten_pos (precision : ℤ)
  -- Both are multiples of the lower of the two units.
  rcases le_total e f with lower | higher
  · rw [← magnitude_shift d lower] at less ⊢
    rw [mul_lt_mul_iff_left₀ (ten_pos e)] at less
    have step : (c : ℚ) + 1 ≤ (d * tenTo (f - e).toNat : ℕ) := by exact_mod_cast less
    refine rangeY.below.le.trans (mul_le_mul_of_nonneg_right ?_ wide.le)
    rw [← sub_mul]
    exact le_mul_of_one_le_left (ten_pos e).le (by linarith)
  · refine less.le.trans (rangeZ.below.le.trans (mul_le_mul_of_nonneg_right ?_ wide.le))
    rw [← magnitude_shift c higher] at less ⊢
    rw [mul_lt_mul_iff_left₀ (ten_pos f)] at less
    have step : ((c * tenTo (e - f).toNat : ℕ) : ℚ) + 1 ≤ d := by exact_mod_cast less
    rw [← sub_mul]
    exact le_mul_of_one_le_left (ten_pos f).le (by linarith)

end Reconcile.Decimal
