import Reconcile.Proofs.Decimal.Equal
import Reconcile.Proofs.Decimal.Operations

set_option autoImplicit false

/-
The form of quotients. One that is not zero has all the digits that there may be, unless its last
place is the lowest one. So quotients that are equal are written alike.
-/
namespace Reconcile.Decimal

/-- A coefficient with all the digits that there may be, or at the lowest place. -/
structure Full (c : ℕ) (e : ℤ) : Prop where
  inRange : InRange c e
  filled : digitCount c = precision ∨ e = tinyExponent

theorem Full.exponent_eq {c d : ℕ} {e f : ℤ} (first : Full c e) (second : Full d f)
    (leading : e + digitCount c = f + digitCount d) : e = f := by
  have lowE := first.inRange.lowest
  have lowF := second.inRange.lowest
  have fewC := first.inRange.digits
  have fewD := second.inRange.digits
  rcases first.filled with all | lowest <;> rcases second.filled with also | least <;> omega

/-- Full coefficients of one number are one coefficient at one place. -/
theorem Full.unique {c d : ℕ} {e f : ℤ} (first : Full c e) (second : Full d f) (some : c ≠ 0)
    (same : (c : ℚ) * 10 ^ e = d * 10 ^ f) : c = d ∧ e = f := by
  obtain rfl := first.exponent_eq second (leading_eq some same)
  have equal := mul_right_cancel₀ (ten_pos e).ne' same
  exact ⟨by exact_mod_cast equal, rfl⟩

/-- What is rounded at the place of its leading digit is full. -/
theorem settle_full {s : Bool} {n d : ℕ} {e unit : ℤ} {r : Decimal}
    (low : tinyExponent ≤ unit) (few : roundShifted n d (e - unit) ≤ tenTo precision)
    (many : unit = tinyExponent ∨ tenTo (precision - 1) ≤ roundShifted n d (e - unit))
    (done : settle s n d e unit = .ok r) :
    r = .finite s 0 0 ∨ ∃ c f, c ≠ 0 ∧ Full c f ∧ r = .finite s c f := by
  rcases settle_inRange low few done with zero | ⟨c, f, some, inRange, shape⟩
  · exact Or.inl zero
  · refine Or.inr ⟨c, f, some, ⟨inRange, ?_⟩, shape⟩
    rw [settle, shape] at done
    generalize roundShifted n d (e - unit) = rounded at few many done
    by_cases carry : rounded = tenTo precision
    · rw [if_pos carry] at done
      dsimp only at done
      rw [if_neg (by decide)] at done
      split_ifs at done
      cases done
      exact Or.inl (by decide)
    · rw [if_neg carry] at done
      dsimp only at done
      split_ifs at done
      · cases done
        exact absurd rfl some
      · cases done
        rcases many with lowest | leading
        · exact Or.inr lowest
        · have above := lt_digitCount_iff.mpr leading
          have below := inRange.digits
          exact Or.inl (by omega)

theorem fitQuotient_full {s : Bool} {n d : ℕ} {e : ℤ} {r : Decimal} (someN : n ≠ 0)
    (someD : d ≠ 0) (done : fitQuotient s n d e = .ok r) :
    r = .finite s 0 0 ∨ ∃ c f, c ≠ 0 ∧ Full c f ∧ r = .finite s c f := by
  have place := fitQuotient_place someN someD e
  have value : (n : ℚ) / d * 10 ^ e = n / d * 10 ^ e := rfl
  have nearest := shifted_nearest n (Nat.pos_of_ne_zero someD) value
    (max tinyExponent (quotientUnit n d e))
  refine settle_full place.low (place.le_tenTo nearest) ?_ done
  rcases le_total tinyExponent (quotientUnit n d e) with above | below
  · have leading := (quotientUnit_bounds someN someD e).1
    rw [max_eq_right above] at nearest ⊢
    exact Or.inr (tenTo_le_of_leading nearest leading)
  · exact Or.inl (max_eq_left below)

/-- A quotient that is a number and not zero is full. -/
theorem div_full {a b r : Decimal} (done : a.div b = .ok r) (finite : r.isFinite)
    (some : r.toRat ≠ 0) : ∃ s c e, c ≠ 0 ∧ Full c e ∧ r = .finite s c e := by
  have notZero : ∀ {s : Bool} {e : ℤ}, r ≠ .finite s 0 e := by
    rintro s e rfl
    exact some (toRat_of_coefficient_zero s e)
  have notNan : ∀ {x y : Decimal}, x.spread y = .ok r → r.isFinite = false := by
    intro x y spreads
    unfold spread at spreads
    split_ifs at spreads
    cases x <;> cases y <;> cases spreads <;> rfl
  cases a with
  | finite s c e =>
    cases b with
    | finite t d f =>
      unfold div at done
      dsimp only at done
      split_ifs at done with noD noC
      · exact absurd (Except.ok.inj done).symm notZero
      · rcases fitQuotient_full noC noD done with zero | ⟨q, g, positive, full, shape⟩
        · exact absurd zero notZero
        · exact ⟨_, q, g, positive, full, shape⟩
    | infinite t => exact absurd (Except.ok.inj done).symm notZero
    | nan t signaling payload =>
      rw [notNan done] at finite
      cases finite
  | infinite s =>
    cases b with
    | finite t d f =>
      cases done
      cases finite
    | infinite t => cases done
    | nan t signaling payload =>
      rw [notNan done] at finite
      cases finite
  | nan s signaling payload =>
    rw [notNan (x := .nan s signaling payload) (y := b) done] at finite
    cases finite

theorem div_unique {a b x y q r : Decimal} (first : a.div b = .ok q) (second : x.div y = .ok r)
    (finiteQ : q.isFinite) (finiteR : r.isFinite) (above : 0 < q.toRat)
    (same : q.toRat = r.toRat) : q = r := by
  obtain ⟨s, c, e, someC, fullC, rfl⟩ := div_full first finiteQ above.ne'
  obtain ⟨t, d, f, someD, fullD, rfl⟩ := div_full second finiteR (same ▸ above.ne')
  have plusC := isNegative_of_pos rfl above
  have plusD := isNegative_of_pos rfl (same ▸ above)
  obtain rfl : s = false := plusC
  obtain rfl : t = false := plusD
  rw [toRat_false, toRat_false] at same
  obtain ⟨rfl, rfl⟩ := fullC.unique fullD someC same
  rfl

end Reconcile.Decimal
