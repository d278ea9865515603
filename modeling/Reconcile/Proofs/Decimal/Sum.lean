import Reconcile.Proofs.Decimal.Operations

set_option autoImplicit false

/-
The sum of any two finite numbers that are not negative, however many digits they have. A term far
below the other one is replaced by a stand-in before the two are added. The stand-in is as little as
the term is, and between a multiple of a power of ten and the limit there is room for either.
-/
namespace Reconcile.Decimal

theorem ten_half_limit : limit = ((2 * tenTo precision - 1) * 5 : ℕ) *
    10 ^ (maxExponent - precision) := by
  have some : 1 ≤ 2 * tenTo precision := by decide
  rw [limit, ten_precision, ten_add (maxExponent - precision) 1, zpow_one]
  push_cast [Nat.cast_sub some]
  ring

/-- A multiple below another one is at least a unit below it. -/
theorem add_unit_le {c m : ℕ} {e : ℤ} (less : (c : ℚ) * 10 ^ e < m * 10 ^ e) :
    (c : ℚ) * 10 ^ e + 10 ^ e ≤ m * 10 ^ e := by
  have lower : c + 1 ≤ m := by exact_mod_cast lt_of_mul_lt_mul_right less (ten_pos e).le
  calc (c : ℚ) * 10 ^ e + 10 ^ e = ((c + 1 : ℕ) : ℚ) * 10 ^ e := by
        push_cast
        ring
    _ ≤ m * 10 ^ e := mul_le_mul_of_nonneg_right (by exact_mod_cast lower) (ten_pos e).le

/-- Less than half a unit does not carry a number below the limit over it. -/
theorem add_lt_limit {c : ℕ} {e : ℤ} {y : ℚ} (some : c ≠ 0) (below : (c : ℚ) * 10 ^ e < limit)
    (small : y < 1 / 2 * 10 ^ e) : (c : ℚ) * 10 ^ e + y < limit := by
  have unit := ten_pos e
  rcases le_or_gt e (maxExponent - precision) with low | high
  · -- The limit is a multiple of the unit too.
    rw [ten_half_limit, ← magnitude_shift _ low] at below ⊢
    have room := add_unit_le below
    linarith
  · -- The next number after all multiples below the limit is the first power of ten above it.
    have multiple : limit ≤ (c : ℚ) * 10 ^ e ↔ (10 : ℚ) ^ (maxExponent + 1) ≤ c * 10 ^ e :=
      limit_le_multiple rfl (by omega)
    have short : (c : ℚ) * 10 ^ e < 10 ^ (maxExponent + 1) :=
      not_le.mp (mt multiple.mpr (not_le.mpr below))
    have least : (10 : ℚ) ^ e ≤ c * 10 ^ e :=
      le_mul_of_one_le_left unit.le (by exact_mod_cast Nat.one_le_iff_ne_zero.mpr some)
    have within : e ≤ maxExponent + 1 :=
      (zpow_le_zpow_iff_right₀ (by norm_num : (1 : ℚ) < 10)).mp (least.trans short.le)
    have whole := magnitude_shift 1 within
    rw [Nat.cast_one, one_mul (10 ^ (maxExponent + 1) : ℚ)] at whole
    rw [← whole] at short
    have room := add_unit_le short
    have close : (10 : ℚ) ^ (maxExponent - precision + 1) ≤ 10 ^ e := ten_mono (by omega)
    have size : limit = 10 ^ (maxExponent + 1) - 1 / 2 * 10 ^ (maxExponent - precision + 1) := by
      rw [limit, ten_greatest, sub_mul]
    rw [size, ← whole]
    linarith

/-- A stand-in for a term makes the sum no more and no less too great. -/
theorem limit_le_closeTo {c : ℕ} (some : c ≠ 0) (e : ℤ) (d : ℕ) (f : ℤ) :
    limit ≤ (c : ℚ) * 10 ^ e + (closeTo e d f).1 * 10 ^ (closeTo e d f).2 ↔
      limit ≤ (c : ℚ) * 10 ^ e + d * 10 ^ f := by
  unfold closeTo
  split
  · rename_i far
    have tiny : (10 : ℚ) ^ (e - precision - 2) < 1 / 2 * 10 ^ e := by
      have ten : (10 : ℚ) ^ (e - precision - 2) ≤ 10 ^ (e - 1) := ten_mono (by omega)
      rw [zpow_sub_one₀ (by norm_num)] at ten
      linarith [ten_pos e]
    have term : (d : ℚ) * 10 ^ f < 1 / 2 * 10 ^ e :=
      ((magnitude_lt d f).le.trans (ten_mono far.2)).trans_lt tiny
    rw [Nat.cast_one, one_mul]
    rcases lt_or_ge ((c : ℚ) * 10 ^ e) limit with below | above
    · exact iff_of_false (not_le.mpr (add_lt_limit some below tiny))
        (not_le.mpr (add_lt_limit some below term))
    · exact iff_of_true (above.trans (le_add_of_nonneg_right (ten_pos _).le))
        (above.trans (le_add_of_nonneg_right (magnitude_nonneg d f)))
  · exact Iff.rfl

/-- A number that is rounded exists unless a number, not itself perhaps, is too great. -/
theorem Evaluates.cases {result : Except Fault Decimal} {x y : ℚ} (evaluates : Evaluates result x)
    (nonneg : 0 ≤ x) (same : limit ≤ x ↔ limit ≤ y) :
    (limit ≤ y ∧ result = .error .overflow) ∨
      (y < limit ∧ ∃ r, result = .ok r ∧ r.isFinite) := by
  rw [Evaluates, abs_of_nonneg nonneg] at evaluates
  rcases evaluates with ⟨above, failed⟩ | ⟨below, r, done, rounds⟩
  · exact Or.inl ⟨same.mp above, failed⟩
  · exact Or.inr ⟨not_le.mp (mt same.mpr (not_le.mpr below)), r, done, rounds.isFinite⟩

theorem addTerms_cases {c d : ℕ} (someC : c ≠ 0) (someD : d ≠ 0) (e f : ℤ) :
    (limit ≤ (c : ℚ) * 10 ^ e + d * 10 ^ f ∧ addFinite false c e false d f = .error .overflow) ∨
      ((c : ℚ) * 10 ^ e + d * 10 ^ f < limit ∧
        ∃ r, addFinite false c e false d f = .ok r ∧ r.isFinite) := by
  rw [addFinite, if_neg someC, if_neg someD]
  have sum := (addTerms_settled false (closeTo f c e).1 (closeTo f c e).2 false
    (closeTo e d f).1 (closeTo e d f).2).evaluates
  rw [toRat_false, toRat_false] at sum
  refine sum.cases (add_nonneg (magnitude_nonneg _ _) (magnitude_nonneg _ _)) ?_
  -- Only one of the terms can be far below the other.
  rcases le_total (e - f) farApart with near | far
  · rw [closeTo_of_near d near, add_comm, limit_le_closeTo someD, add_comm]
  · have above : (0 : ℤ) < farApart := by decide
    rw [closeTo_of_near c (by omega), limit_le_closeTo someC]

/-- The sum of two numbers that are not negative overflows exactly from the limit on. -/
theorem add_cases {a b : Decimal} (finiteA : a.isFinite) (finiteB : b.isFinite)
    (nonnegA : 0 ≤ a.toRat) (nonnegB : 0 ≤ b.toRat) :
    (limit ≤ a.toRat + b.toRat ∧ a.add b = .error .overflow) ∨
      (a.toRat + b.toRat < limit ∧ ∃ r, a.add b = .ok r ∧ r.isFinite) := by
  obtain ⟨s, c, e, rfl⟩ := eq_finite_of_isFinite finiteA
  obtain ⟨t, d, f, rfl⟩ := eq_finite_of_isFinite finiteB
  by_cases noneC : c = 0
  · subst noneC
    rw [toRat_of_coefficient_zero, zero_add]
    by_cases noneD : d = 0
    · subst noneD
      rw [toRat_of_coefficient_zero]
      exact Or.inr ⟨two_lt_limit.trans' two_pos, _, rfl, rfl⟩
    · have done : (finite s 0 e).add (finite t d f) = fit t d f := by
        rw [add, addFinite, if_pos rfl, if_neg noneD]
      rw [done]
      exact (fit_settled t d f).evaluates.cases nonnegB Iff.rfl
  · by_cases noneD : d = 0
    · subst noneD
      have done : (finite s c e).add (finite t 0 f) = fit s c e := by
        rw [add, addFinite, if_neg noneC, if_pos rfl]
      rw [done, toRat_of_coefficient_zero, add_zero]
      exact (fit_settled s c e).evaluates.cases nonnegA Iff.rfl
    · have plus : ∀ {s : Bool} {c : ℕ} {e : ℤ}, c ≠ 0 → 0 ≤ (finite s c e).toRat → s = false := by
        intro s c e some nonneg
        cases s with
        | false => rfl
        | true =>
          rw [toRat_true] at nonneg
          linarith [magnitude_pos some e]
      obtain rfl := plus noneC nonnegA
      obtain rfl := plus noneD nonnegB
      rw [toRat_false, toRat_false]
      exact addTerms_cases noneC noneD e f

end Reconcile.Decimal
