import Reconcile.Decimal.Rounding
import Reconcile.Proofs.Decimal.Value
import Reconcile.Proofs.Result

set_option autoImplicit false

/-
Canonical form. What arithmetic returns has few enough digits and lies within the range of places;
such a number is kept exactly when it is normalized, and what is normalized is kept as it is.
-/
namespace Reconcile

theorem roundHalfEven_one (n : Nat) : roundHalfEven n 1 = n := by
  simp [roundHalfEven, Nat.mod_one]

theorem roundHalfEven_le (n d : Nat) : roundHalfEven n d ≤ n / d + 1 := by
  unfold roundHalfEven
  dsimp only
  split_ifs <;> omega

namespace Decimal

/-- A coefficient and an exponent that rounding leaves as they are. -/
structure InRange (c : Nat) (e : Int) : Prop where
  digits : digitCount c ≤ precision
  lowest : tinyExponent ≤ e
  highest : e + digitCount c - 1 ≤ maxExponent

/-- The form that equal numbers share, the sign of zero apart. -/
inductive Canonical : Decimal → Prop
  | zero (s : Bool) : Canonical (.finite s 0 0)
  | finite (s : Bool) {c : Nat} {e : Int} (inRange : InRange c e) (ends : c % 10 ≠ 0) :
      Canonical (.finite s c e)
  | infinite (s : Bool) : Canonical (.infinite s)
  | nan (s : Bool) {payload : Nat} (short : payload < tenTo precision) :
      Canonical (.nan s false payload)

theorem roundShifted_zero (c : Nat) : roundShifted c 1 0 = c := by
  simp [roundShifted, roundHalfEven_one, tenTo]

theorem fit_of_inRange (s : Bool) {c : Nat} {e : Int} (inRange : InRange c e) :
    fit s c e = .ok (if c = 0 then .finite s 0 0 else .finite s c e) := by
  have unit : max tinyExponent (max e (e + digitCount c - precision)) = e := by
    have few := inRange.digits
    have low := inRange.lowest
    omega
  have short : c ≠ tenTo precision := (digitCount_le_iff.mp inRange.digits).ne
  rw [fit, unit, settle, Int.sub_self, roundShifted_zero, if_neg short]
  dsimp only
  split
  · rfl
  · rw [if_neg (Int.not_lt.mpr inRange.highest)]

/-- A rounded coefficient has at most one digit too many, and then only zeros after the first. -/
theorem roundShifted_le {c : Nat} {k : Int} (few : digitCount c + k ≤ precision) :
    roundShifted c 1 k ≤ tenTo precision := by
  unfold roundShifted
  split
  · rename_i nonneg
    rw [roundHalfEven_one]
    have digits : digitCount c ≤ precision - k.toNat := by omega
    have shift : precision = precision - k.toNat + k.toNat := by omega
    rw [shift, tenTo_add]
    exact Nat.mul_le_mul_right _ (digitCount_le_iff.mp digits).le
  · split
    · exact Nat.zero_le _
    · have whole : c / tenTo (-k).toNat < tenTo precision := by
        rw [Nat.div_lt_iff_lt_mul (tenTo_pos _), ← tenTo_add]
        exact digitCount_le_iff.mp (by omega)
      rw [one_mul]
      exact (roundHalfEven_le _ _).trans whole

/-- What rounding leaves is in range. -/
theorem settle_inRange {s : Bool} {n d : Nat} {e unit : Int} {r : Decimal}
    (low : tinyExponent ≤ unit) (few : roundShifted n d (e - unit) ≤ tenTo precision)
    (done : settle s n d e unit = .ok r) :
    r = .finite s 0 0 ∨ ∃ c f, c ≠ 0 ∧ InRange c f ∧ r = .finite s c f := by
  rw [settle] at done
  generalize roundShifted n d (e - unit) = rounded at few done
  have digits : ∀ c f, (if rounded = tenTo precision then (tenTo (precision - 1), unit + 1)
      else (rounded, unit)) = (c, f) → digitCount c ≤ precision ∧ tinyExponent ≤ f := by
    intro c f split
    split_ifs at split with full
    · obtain ⟨rfl, rfl⟩ := Prod.mk.inj split
      exact ⟨by decide, by omega⟩
    · obtain ⟨rfl, rfl⟩ := Prod.mk.inj split
      exact ⟨digitCount_le_iff.mpr (few.lt_of_ne full), low⟩
  generalize (if rounded = tenTo precision then (tenTo (precision - 1), unit + 1)
    else (rounded, unit)) = kept at digits done
  obtain ⟨c, f⟩ := kept
  dsimp only at done
  split at done
  · cases done
    exact Or.inl rfl
  · rename_i positive
    split at done
    · cases done
    · rename_i notAbove
      cases done
      obtain ⟨short, lowest⟩ := digits c f rfl
      exact Or.inr ⟨c, f, positive, ⟨short, lowest, Int.not_lt.mp notAbove⟩, rfl⟩

theorem fit_inRange {s : Bool} {c : Nat} {e : Int} {r : Decimal} (done : fit s c e = .ok r) :
    r = .finite s 0 0 ∨ ∃ c f, c ≠ 0 ∧ InRange c f ∧ r = .finite s c f := by
  refine settle_inRange (le_max_left _ _) (roundShifted_le ?_) done
  omega

section StripZeros

theorem stripZeros_of_ends (fuel : Nat) {c : Nat} (e : Int) (ends : c % 10 ≠ 0) :
    stripZeros fuel c e = (c, e) := by
  cases fuel with
  | zero => rfl
  | succ fuel => rw [stripZeros, if_neg ends]

/-- Zeros move from the coefficient to the exponent. -/
theorem stripZeros_spec (fuel c : Nat) (e : Int) :
    ∃ k : Nat, (stripZeros fuel c e).2 = e + k ∧ c = (stripZeros fuel c e).1 * tenTo k := by
  induction fuel generalizing c e with
  | zero => exact ⟨0, by simp [stripZeros], by simp [stripZeros, tenTo]⟩
  | succ fuel ih =>
    rw [stripZeros]
    split
    · rename_i zeroEnd
      obtain ⟨k, exponent, coefficient⟩ := ih (c / 10) (e + 1)
      refine ⟨k + 1, ?_, ?_⟩
      · rw [exponent]
        omega
      · rw [tenTo_add, ← mul_assoc, ← coefficient]
        exact (Nat.div_mul_cancel (Nat.dvd_of_mod_eq_zero zeroEnd)).symm
    · exact ⟨0, by simp, by simp [tenTo]⟩

/-- With fuel for all digits no zero is left at the end. -/
theorem stripZeros_ends {fuel c : Nat} (e : Int) (positive : c ≠ 0) (enough : c < tenTo fuel) :
    (stripZeros fuel c e).1 % 10 ≠ 0 := by
  induction fuel generalizing c e with
  | zero => simp [tenTo] at enough; omega
  | succ fuel ih =>
    rw [stripZeros]
    split
    · apply ih
      · omega
      · rw [Nat.div_lt_iff_lt_mul (by decide)]
        exact enough
    · assumption

end StripZeros

theorem InRange.stripped {c k : Nat} {e : Int} (positive : c ≠ 0)
    (inRange : InRange (c * tenTo k) e) : InRange c (e + k) := by
  obtain ⟨digits, lowest, highest⟩ := inRange
  rw [digitCount_mul_tenTo positive] at digits highest
  exact ⟨by omega, by omega, by omega⟩

/-- A number without the zeros that end its coefficient. -/
def unpadded : Decimal → Decimal
  | .finite s 0 _ => .finite s 0 0
  | .finite s c e => .finite s (stripZeros (digitCount c) c e).1 (stripZeros (digitCount c) c e).2
  | other => other

theorem normalize_finite (s : Bool) (c : Nat) (e : Int) :
    normalize (.finite s c e) = (fit s c e).map unpadded := by
  rw [normalize]
  cases fit s c e with
  | error fault => rfl
  | ok fitted =>
    cases fitted with
    | finite s c e => cases c <;> rfl
    | infinite s => rfl
    | nan s signaling payload => rfl

theorem unpadded_finite (s : Bool) {c : Nat} (e : Int) (positive : c ≠ 0) :
    unpadded (.finite s c e) =
      .finite s (stripZeros (digitCount c) c e).1 (stripZeros (digitCount c) c e).2 := by
  cases c with
  | zero => exact absurd rfl positive
  | succ c => rfl

theorem unpadded_of_inRange (s : Bool) {c : Nat} {e : Int} (positive : c ≠ 0)
    (inRange : InRange c e) :
    (unpadded (.finite s c e)).Canonical ∧
      ∃ c' e', unpadded (.finite s c e) = .finite s c' e' ∧ (c' : ℚ) * 10 ^ e' = c * 10 ^ e := by
  have ends := stripZeros_ends e positive (digitCount_le_iff.mp le_rfl)
  obtain ⟨k, exponent, coefficient⟩ := stripZeros_spec (digitCount c) c e
  rw [unpadded_finite s e positive]
  generalize stripZeros (digitCount c) c e = stripped at *
  obtain ⟨c', e'⟩ := stripped
  dsimp only at ends exponent coefficient ⊢
  subst exponent
  have left : c' ≠ 0 := by
    rintro rfl
    simp at ends
  have same := magnitude_shift c' (e := e + k) (f := e) (by omega)
  rw [add_sub_cancel_left, Int.toNat_natCast, ← coefficient] at same
  rw [coefficient] at inRange
  exact ⟨.finite s (inRange.stripped left) ends, c', e + k, rfl, same.symm⟩

theorem normalize_of_inRange (s : Bool) {c : Nat} {e : Int} (inRange : InRange c e) :
    ∃ d, normalize (.finite s c e) = .ok d ∧ d.isFinite ∧ d.toRat = (finite s c e).toRat := by
  rw [normalize_finite, fit_of_inRange s inRange]
  by_cases zeroC : c = 0
  · subst zeroC
    exact ⟨_, rfl, rfl, by simp [unpadded, toRat_of_coefficient_zero]⟩
  · rw [if_neg zeroC]
    obtain ⟨-, c', e', stripped, same⟩ := unpadded_of_inRange s zeroC inRange
    refine ⟨_, rfl, by rw [stripped]; rfl, ?_⟩
    rw [stripped]
    cases s
    · rw [toRat_false, toRat_false, same]
    · rw [toRat_true, toRat_true, same]

theorem normalize_of_canonical {a : Decimal} (canonical : a.Canonical) : a.normalize = .ok a := by
  cases canonical with
  | zero s => rfl
  | @finite s c e inRange ends =>
    have positive : c ≠ 0 := by
      rintro rfl
      simp at ends
    rw [normalize_finite, fit_of_inRange s inRange, if_neg positive, Except.map,
      unpadded_finite s e positive, stripZeros_of_ends _ e ends]
  | infinite s => rfl
  | nan s short => rw [normalize, if_neg (by decide), shortenPayload, Nat.mod_eq_of_lt short]

theorem canonical_of_normalize {a b : Decimal} (done : a.normalize = .ok b) : b.Canonical := by
  cases a with
  | finite s c e =>
    rw [normalize_finite] at done
    cases rounded : fit s c e with
    | error fault =>
      rw [rounded] at done
      cases done
    | ok fitted =>
      rw [rounded] at done
      cases done
      rcases fit_inRange rounded with rfl | ⟨c', e', positive, inRange, rfl⟩
      · exact .zero s
      · exact (unpadded_of_inRange s positive inRange).1
  | infinite s =>
    cases done
    exact .infinite s
  | nan s signaling payload =>
    rw [normalize] at done
    split at done
    · cases done
    · cases done
      exact .nan s (Nat.mod_lt _ (tenTo_pos _))

theorem normalize_idem {a b : Decimal} (done : a.normalize = .ok b) : b.normalize = .ok b :=
  normalize_of_canonical (canonical_of_normalize done)

end Decimal

end Reconcile
