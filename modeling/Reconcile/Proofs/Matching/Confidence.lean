import Reconcile.Proofs.Decimal.Nearest
import Reconcile.Proofs.Matching.Selection

set_option autoImplicit false

/-
What a match is worth: a whole number of ten thousandths, not below zero and not above the cap of
the policy, whose own rules keep that below one.
-/
namespace Reconcile

namespace Decimal

theorem isFinite_of_between {a b c : Decimal} (finiteA : a.isFinite) (finiteC : c.isFinite)
    (above : a.lt? b = .ok true) (below : b.lt? c = .ok true) : b.isFinite := by
  obtain ⟨s, d, e, rfl⟩ := eq_finite_of_isFinite finiteA
  obtain ⟨t, f, g, rfl⟩ := eq_finite_of_isFinite finiteC
  cases b with
  | finite => rfl
  | infinite u => cases u <;> simp [lt?, compare?, isNan, order, Except.map] at above below
  | nan => simp [lt?, compare?, isNan, Except.map] at above

/-- An infinite value is not between zero and one, nor is it next to one that is. -/
theorem isFinite_of_chain {a b : Decimal} (notBelow : zero.le? a = .ok true)
    (ordered : a.le? b = .ok true) (below : b.lt? one = .ok true) :
    a.isFinite ∧ b.isFinite := by
  cases a with
  | nan => simp [le?, compare?, isNan, Except.map] at notBelow
  | infinite s =>
    cases b with
    | nan => simp [le?, compare?, isNan, Except.map] at ordered
    | finite => cases s <;> simp [zero, le?, compare?, isNan, order, Except.map] at notBelow ordered
    | infinite t =>
      cases s <;> cases t <;>
        simp [zero, one, le?, lt?, compare?, isNan, order, Except.map] at notBelow ordered below
      exact absurd rfl ordered
  | finite =>
    cases b with
    | nan => simp [le?, compare?, isNan, Except.map] at ordered
    | finite => exact ⟨rfl, rfl⟩
    | infinite t =>
      cases t <;> simp [one, le?, lt?, compare?, isNan, order, Except.map] at ordered below

theorem min?_eq_ok {a b r : Decimal} (done : a.min? b = .ok r) :
    (b.lt? a = .ok true ∧ r = b) ∨ (b.lt? a = .ok false ∧ r = a) := by
  obtain ⟨smaller, compared, rfl⟩ := map_eq_ok.mp done
  cases smaller
  · exact Or.inr ⟨compared, rfl⟩
  · exact Or.inl ⟨compared, rfl⟩

theorem max?_eq_ok {a b r : Decimal} (done : a.max? b = .ok r) :
    (a.lt? b = .ok true ∧ r = b) ∨ (a.lt? b = .ok false ∧ r = a) := by
  obtain ⟨greater, compared, rfl⟩ := map_eq_ok.mp done
  cases greater
  · exact Or.inr ⟨compared, rfl⟩
  · exact Or.inl ⟨compared, rfl⟩

/-- The lesser and the greater of two numbers, of which equal ones are written as the first. -/
theorem min?_toRat {a b r : Decimal} (finiteA : a.isFinite) (finiteB : b.isFinite)
    (done : a.min? b = .ok r) : r.isFinite ∧ r.toRat = min a.toRat b.toRat := by
  rcases min?_eq_ok done with ⟨less, rfl⟩ | ⟨notLess, rfl⟩
  · rw [lt?_eq finiteB finiteA, Except.ok.injEq, decide_eq_true_eq] at less
    exact ⟨finiteB, (min_eq_right less.le).symm⟩
  · rw [lt?_eq finiteB finiteA, Except.ok.injEq, decide_eq_false_iff_not, not_lt] at notLess
    exact ⟨finiteA, (min_eq_left notLess).symm⟩

theorem max?_toRat {a b r : Decimal} (finiteA : a.isFinite) (finiteB : b.isFinite)
    (done : a.max? b = .ok r) : r.isFinite ∧ r.toRat = max a.toRat b.toRat := by
  rcases max?_eq_ok done with ⟨less, rfl⟩ | ⟨notLess, rfl⟩
  · rw [lt?_eq finiteA finiteB, Except.ok.injEq, decide_eq_true_eq] at less
    exact ⟨finiteB, (max_eq_right less.le).symm⟩
  · rw [lt?_eq finiteA finiteB, Except.ok.injEq, decide_eq_false_iff_not, not_lt] at notLess
    exact ⟨finiteA, (max_eq_left notLess).symm⟩

/-- A finite decimal within a range that begins at zero. -/
structure Within (high a : Decimal) : Prop where
  isFinite : a.isFinite
  nonneg : 0 ≤ a.toRat
  le : a.toRat ≤ high.toRat

/-- What is kept between zero and a bound, even an infinite value, ends up as zero or, above it, as
the bound or itself. -/
theorem clamp_cases {value high result : Decimal} (finite : high.isFinite)
    (done : Matching.clamp value .zero high = .ok result) :
    result = .zero ∨ 0 < result.toRat ∧
      (result = high ∨ result = value ∧ result.isFinite ∧ result.toRat < high.toRat) := by
  obtain ⟨inner, least, done⟩ := bind_eq_ok.mp done
  rcases max?_eq_ok done with ⟨above, rfl⟩ | ⟨-, rfl⟩
  · rcases min?_eq_ok least with ⟨below, rfl⟩ | ⟨-, rfl⟩
    · have inside := isFinite_of_between (a := .zero) rfl finite above below
      rw [lt?_eq rfl inside, toRat_zero] at above
      rw [lt?_eq inside finite] at below
      have positive := of_decide_eq_true (Except.ok.inj above)
      have small := of_decide_eq_true (Except.ok.inj below)
      exact Or.inr ⟨positive, Or.inr ⟨rfl, inside, small⟩⟩
    · rw [lt?_eq rfl finite, toRat_zero] at above
      exact Or.inr ⟨of_decide_eq_true (Except.ok.inj above), Or.inl rfl⟩
  · exact Or.inl rfl

theorem clamp_within {value high result : Decimal} (finite : high.isFinite)
    (nonneg : 0 ≤ high.toRat) (done : Matching.clamp value .zero high = .ok result) :
    Within high result := by
  rcases clamp_cases finite done with rfl | ⟨positive, rfl | ⟨-, inside, small⟩⟩
  · exact ⟨rfl, toRat_zero.ge, by rwa [toRat_zero]⟩
  · exact ⟨finite, nonneg, le_rfl⟩
  · exact ⟨inside, positive.le, small.le⟩

theorem Within.min? {high a b r : Decimal} (withinA : Within high a) (withinB : Within high b)
    (done : a.min? b = .ok r) : Within high r := by
  rcases min?_eq_ok done with ⟨-, rfl⟩ | ⟨-, rfl⟩
  · exact withinB
  · exact withinA

theorem wholeShifted_eq_floor_of_one (c : Nat) (k : Int) :
    wholeShifted c 1 k = ⌊(c : ℚ) * 10 ^ k⌋₊ := by
  rw [wholeShifted_eq_floor c Nat.one_pos, Nat.cast_one, div_one]

theorem wholeShifted_digits {c : Nat} {k : Int} (few : k + digitCount c ≤ precision) :
    digitCount (wholeShifted c 1 k) ≤ precision := by
  have below : (wholeShifted c 1 k : ℚ) < tenTo precision :=
    calc (wholeShifted c 1 k : ℚ) ≤ c * 10 ^ k := by
          rw [wholeShifted_eq_floor_of_one]
          exact Nat.floor_le (magnitude_nonneg c k)
      _ < 10 ^ (k + digitCount c) := magnitude_lt c k
      _ ≤ 10 ^ (precision : Int) := zpow_le_zpow_right₀ (by norm_num) few
      _ = tenTo precision := (cast_tenTo precision).symm
  exact digitCount_le_iff.mpr (by exact_mod_cast below)

theorem inRange_fourPlaces {c : Nat} (few : digitCount c ≤ precision) : InRange c (-4) := by
  refine ⟨few, by decide, ?_⟩
  simp only [precision, maxExponent] at few ⊢
  omega

/-- What is cut after four places has few enough digits for a column, if it is a number at all. -/
theorem truncateToFourPlaces_shape {a r : Decimal} (done : a.truncateToFourPlaces = .ok r) :
    r.isNan ∨ ∃ s c, r = .finite s c (-4) ∧ InRange c (-4) := by
  cases a with
  | finite s c e =>
    rw [truncateToFourPlaces] at done
    split at done
    · cases done
      exact Or.inr ⟨s, 0, rfl, inRange_fourPlaces (by decide)⟩
    · split at done
      · cases done
      · cases done
        exact Or.inr ⟨s, _, rfl, inRange_fourPlaces (wholeShifted_digits (by omega))⟩
  | infinite s => cases done
  | nan s signaling payload =>
    rw [truncateToFourPlaces] at done
    split at done
    · cases done
    · cases done
      exact Or.inl rfl

/-- Cutting after four places leaves the whole ten thousandths of a number that is not below
zero. -/
theorem truncateToFourPlaces_floor {a r : Decimal} (number : a.isFinite) (nonneg : 0 ≤ a.toRat)
    (done : a.truncateToFourPlaces = .ok r) :
    r.isFinite ∧ r.toRat = (⌊a.toRat * 10000⌋₊ : ℚ) / 10000 := by
  obtain ⟨s, c, e, rfl⟩ := eq_finite_of_isFinite number
  rw [truncateToFourPlaces] at done
  split at done
  · rename_i none
    cases done
    subst none
    simp [isFinite, toRat_of_coefficient_zero]
  · rename_i positive
    split at done
    · cases done
    · cases done
      cases s with
      | true =>
        have below := magnitude_pos positive e
        rw [toRat_true] at nonneg
        linarith
      | false =>
        have shifted : (c : ℚ) * 10 ^ (e + 4) = (finite false c e).toRat * 10000 := by
          rw [toRat_false, zpow_add₀ (by norm_num), mul_assoc]
          norm_num
        refine ⟨rfl, ?_⟩
        rw [toRat_false, wholeShifted_eq_floor_of_one, shifted]
        norm_num [div_eq_mul_inv]

/-- What is cut after four places is a whole number of ten thousandths that is not greater. -/
theorem truncateToFourPlaces_within {high a r : Decimal} (within : Within high a)
    (done : a.truncateToFourPlaces = .ok r) :
    Within high r ∧ ∃ n : Nat, r.toRat = n / 10000 := by
  obtain ⟨finite, cut⟩ := truncateToFourPlaces_floor within.isFinite within.nonneg done
  have scaled : 0 ≤ a.toRat * 10000 := mul_nonneg within.nonneg (by norm_num)
  have notMore : r.toRat ≤ a.toRat := by
    rw [cut, div_le_iff₀ (by norm_num)]
    exact Nat.floor_le scaled
  refine ⟨⟨finite, ?_, notMore.trans within.le⟩, _, cut⟩
  rw [cut]
  positivity

end Decimal

namespace Policy

theorem capsInOrder_eq_true {policy : Policy} (done : policy.capsInOrder = .ok true) :
    Decimal.zero.le? policy.ambiguousCap = .ok true ∧
      policy.ambiguousCap.le? policy.inferredCap = .ok true ∧
      policy.inferredCap.lt? .one = .ok true := by
  obtain ⟨notBelow, first, done⟩ := bind_eq_ok.mp done
  cases notBelow with
  | false => cases done
  | true =>
    obtain ⟨ordered, second, done⟩ := bind_eq_ok.mp done
    cases ordered with
    | false => cases done
    | true => exact ⟨first, second, done⟩

theorem check_eq_ok {policy : Policy} (accepted : policy.check = .ok ()) :
    policy.hasNegativeWeight = .ok false ∧
      (∃ weight, policy.amountWeight.add policy.timeWeight = .ok weight ∧
        weight.le? .zero = .ok false) ∧
      policy.capsInOrder = .ok true ∧
      highConfidence.le? policy.ambiguousCap = .ok false := by
  obtain ⟨-, accepted⟩ := refuse_eq_ok.mp accepted
  obtain ⟨negative, signs, accepted⟩ := bind_eq_ok.mp accepted
  obtain ⟨notNegative, accepted⟩ := refuse_eq_ok.mp accepted
  obtain ⟨weight, added, accepted⟩ := bind_eq_ok.mp accepted
  obtain ⟨noWeight, compared, accepted⟩ := bind_eq_ok.mp accepted
  obtain ⟨someWeight, accepted⟩ := refuse_eq_ok.mp accepted
  obtain ⟨inOrder, ordered, accepted⟩ := bind_eq_ok.mp accepted
  obtain ⟨kept, accepted⟩ := refuse_eq_ok.mp accepted
  obtain ⟨tooHigh, measured, accepted⟩ := bind_eq_ok.mp accepted
  rw [Bool.not_eq_true] at notNegative someWeight
  refine ⟨?_, ⟨weight, liftDecimal_eq_ok.mp added, ?_⟩, ?_, ?_⟩
  · rw [liftDecimal_eq_ok.mp signs, notNegative]
  · rw [liftDecimal_eq_ok.mp compared, someWeight]
  · rw [liftDecimal_eq_ok.mp ordered]
    simpa using kept
  · cases tooHigh with
    | true => cases accepted
    | false => exact liftDecimal_eq_ok.mp measured

/-- The caps of a policy that keeps its rules: the one for tied matches within the other, and that
one below one. -/
structure Capped (policy : Policy) : Prop where
  ambiguous : Decimal.Within policy.inferredCap policy.ambiguousCap
  isFinite : policy.inferredCap.isFinite
  belowOne : policy.inferredCap.toRat < 1

theorem Capped.nonneg {policy : Policy} (capped : policy.Capped) : 0 ≤ policy.inferredCap.toRat :=
  capped.ambiguous.nonneg.trans capped.ambiguous.le

theorem capped_of_check {policy : Policy} (accepted : policy.check = .ok ()) : policy.Capped := by
  obtain ⟨notBelow, ordered, below⟩ := capsInOrder_eq_true (check_eq_ok accepted).2.2.1
  obtain ⟨finiteTied, finiteMost⟩ := Decimal.isFinite_of_chain notBelow ordered below
  rw [Decimal.le?_eq rfl finiteTied, Decimal.toRat_zero] at notBelow
  rw [Decimal.le?_eq finiteTied finiteMost] at ordered
  rw [Decimal.lt?_eq finiteMost rfl, Decimal.toRat_one] at below
  have nonneg := of_decide_eq_true (Except.ok.inj notBelow)
  have le := of_decide_eq_true (Except.ok.inj ordered)
  exact ⟨⟨finiteTied, nonneg, le⟩, finiteMost, of_decide_eq_true (Except.ok.inj below)⟩

/-- A match that is taken for sure is worth more than the cap for tied ones. -/
theorem ambiguousCap_lt_high {policy : Policy} (accepted : policy.check = .ok ()) :
    policy.ambiguousCap.toRat < highConfidence.toRat := by
  have finite := (capped_of_check accepted).ambiguous.isFinite
  have compared := (check_eq_ok accepted).2.2.2
  rw [Decimal.le?_eq rfl finite, Except.ok.injEq, decide_eq_false_iff_not, not_le] at compared
  exact compared

end Policy

namespace Matching

theorem confidenceOf_eq_ok {policy : Policy} {winner : Scored} {ambiguous : Bool}
    {confidence : Decimal} (done : confidenceOf policy winner ambiguous = .ok confidence) :
    ∃ worth, (winner.score.min? policy.ambiguousCap = .ok worth ∨ worth = winner.score) ∧
      worth.truncateToFourPlaces = .ok confidence := by
  cases ambiguous with
  | true =>
    obtain ⟨worth, least, cut⟩ := bind_eq_ok.mp done
    exact ⟨worth, Or.inl least, cut⟩
  | false => exact ⟨winner.score, Or.inr rfl, done⟩

/-- The confidence of a selection is what its score, or the cap for tied matches, leaves after
four places. -/
theorem Justified.confidence_within {policy : Policy} {deposit : Deposit} {selection : Selection}
    (justified : Justified policy deposit selection) (capped : policy.Capped) :
    Decimal.Within policy.inferredCap selection.confidence ∧
      ∃ n : Nat, selection.confidence.toRat = n / 10000 := by
  obtain ⟨mean, clamped⟩ := justified.clamped
  have score := Decimal.clamp_within capped.isFinite capped.nonneg clamped
  obtain ⟨worth, least, cut⟩ := confidenceOf_eq_ok justified.cut
  refine Decimal.truncateToFourPlaces_within ?_ cut
  rcases least with least | rfl
  · exact score.min? capped.ambiguous least
  · exact score

theorem Justified.confidence_shape {policy : Policy} {deposit : Deposit} {selection : Selection}
    (justified : Justified policy deposit selection) : selection.confidence.isNan ∨
      ∃ s c, selection.confidence = .finite s c (-4) ∧ Decimal.InRange c (-4) := by
  obtain ⟨worth, -, cut⟩ := confidenceOf_eq_ok justified.cut
  exact Decimal.truncateToFourPlaces_shape cut

/-- A column keeps the confidence of a selection, unless it is no number. -/
theorem Justified.confidence_kept {policy : Policy} {deposit : Deposit} {selection : Selection}
    (justified : Justified policy deposit selection) (number : selection.confidence.isNan = false)
    {kept : Decimal} (done : selection.confidence.normalize = .ok kept) :
    selection.confidence.isFinite ∧ kept.isFinite ∧ kept.toRat = selection.confidence.toRat := by
  rcases justified.confidence_shape with nan | ⟨s, c, shape, inRange⟩
  · rw [number] at nan
    cases nan
  · rw [shape] at done ⊢
    obtain ⟨d, made, finite, same⟩ := Decimal.normalize_of_inRange s inRange
    rw [made] at done
    cases done
    exact ⟨rfl, finite, same⟩

end Matching

end Reconcile
