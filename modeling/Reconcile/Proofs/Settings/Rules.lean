import Reconcile.Proofs.Decimal.Sum
import Reconcile.Proofs.Result
import Reconcile.Settings.Policy

set_option autoImplicit false

/-
The rules of a policy as statements on numbers. A policy of finite values is accepted if it keeps
all of them and refused by name if it breaks one, except that weights with too great a sum end the
check in another way.
-/
namespace Reconcile.Policy

/-- All values of the policy are finite numbers. -/
structure Finite (policy : Policy) : Prop where
  amountWeight : policy.amountWeight.isFinite
  timeWeight : policy.timeWeight.isFinite
  tieDelta : policy.tieDelta.isFinite
  ambiguousCap : policy.ambiguousCap.isFinite
  inferredCap : policy.inferredCap.isFinite

/-- The caps are in order below one. -/
def Ordered (policy : Policy) : Prop :=
  0 ≤ policy.ambiguousCap.toRat ∧ policy.ambiguousCap.toRat ≤ policy.inferredCap.toRat ∧
    policy.inferredCap.toRat < 1

instance (policy : Policy) : Decidable policy.Ordered := inferInstanceAs (Decidable (_ ∧ _))

/-- Neither the tolerance nor a weight is negative. -/
structure Nonnegative (policy : Policy) : Prop where
  tolerance : 0 ≤ policy.toleranceBps
  amountWeight : 0 ≤ policy.amountWeight.toRat
  timeWeight : 0 ≤ policy.timeWeight.toRat

/-- The policy keeps all rules. The sum of the weights is taken as arithmetic rounds it. -/
structure Lawful (policy : Policy) : Prop where
  nonnegative : policy.Nonnegative
  weight : ∃ weight, policy.amountWeight.add policy.timeWeight = .ok weight ∧ weight.isFinite ∧
    0 < weight.toRat
  ordered : policy.Ordered
  notHigh : policy.ambiguousCap.toRat < highConfidence.toRat

/-- The sum of the weights is too great for arithmetic, and no rule is broken before it is
taken. -/
structure Overweight (policy : Policy) : Prop where
  nonnegative : policy.Nonnegative
  great : Decimal.limit ≤ policy.amountWeight.toRat + policy.timeWeight.toRat

/-- The policy breaks a rule. After the first two the weights have a sum. -/
inductive Breaks (policy : Policy) : PolicyFault → Prop
  | tolerance (negative : policy.toleranceBps < 0) : Breaks policy .negativeTolerance
  | weights (negative : policy.amountWeight.toRat < 0 ∨ policy.timeWeight.toRat < 0) :
      Breaks policy .negativeWeight
  | weight {weight : Decimal} (added : policy.amountWeight.add policy.timeWeight = .ok weight)
      (none : weight.toRat ≤ 0) : Breaks policy .noWeight
  | ordered {weight : Decimal} (added : policy.amountWeight.add policy.timeWeight = .ok weight)
      (not : ¬ policy.Ordered) : Breaks policy .capsOutOfOrder
  | notHigh {weight : Decimal} (added : policy.amountWeight.add policy.timeWeight = .ok weight)
      (high : highConfidence.toRat ≤ policy.ambiguousCap.toRat) : Breaks policy .capTooHigh

variable {policy : Policy}

theorem Nonnegative.not_below (nonnegative : policy.Nonnegative) :
    ¬ (policy.amountWeight.toRat < 0 ∨ policy.timeWeight.toRat < 0) :=
  not_or.mpr ⟨not_lt.mpr nonnegative.amountWeight, not_lt.mpr nonnegative.timeWeight⟩

theorem Breaks.not_lawful {fault : PolicyFault} (breaks : policy.Breaks fault) :
    ¬ policy.Lawful := by
  intro lawful
  cases breaks with
  | tolerance negative => exact absurd lawful.nonnegative.tolerance (not_le.mpr negative)
  | weights negative => exact lawful.nonnegative.not_below negative
  | weight added none =>
    obtain ⟨sum, summed, -, positive⟩ := lawful.weight
    cases added.symm.trans summed
    exact absurd positive (not_lt.mpr none)
  | ordered _ not => exact not lawful.ordered
  | notHigh _ high => exact absurd lawful.notHigh (not_lt.mpr high)

theorem Overweight.add_eq (overweight : policy.Overweight) (finite : policy.Finite) :
    policy.amountWeight.add policy.timeWeight = .error .overflow := by
  rcases Decimal.add_cases finite.amountWeight finite.timeWeight
    overweight.nonnegative.amountWeight overweight.nonnegative.timeWeight with
    ⟨-, failed⟩ | ⟨below, -⟩
  · exact failed
  · exact absurd overweight.great (not_le.mpr below)

theorem Overweight.not_lawful (overweight : policy.Overweight) (finite : policy.Finite) :
    ¬ policy.Lawful := by
  intro lawful
  obtain ⟨weight, added, -⟩ := lawful.weight
  rw [overweight.add_eq finite] at added
  cases added

theorem Overweight.not_breaks (overweight : policy.Overweight) (finite : policy.Finite)
    {fault : PolicyFault} : ¬ policy.Breaks fault := by
  have failed := overweight.add_eq finite
  intro breaks
  cases breaks with
  | tolerance negative => exact absurd overweight.nonnegative.tolerance (not_le.mpr negative)
  | weights negative => exact overweight.nonnegative.not_below negative
  | weight added => rw [failed] at added; cases added
  | ordered added => rw [failed] at added; cases added
  | notHigh added => rw [failed] at added; cases added

section Check

theorem hasNegativeWeight_eq (finite : policy.Finite) : policy.hasNegativeWeight =
    .ok (decide (policy.amountWeight.toRat < 0 ∨ policy.timeWeight.toRat < 0)) := by
  rw [hasNegativeWeight, Decimal.lt?_eq finite.amountWeight rfl,
    Decimal.lt?_eq finite.timeWeight rfl, Decimal.toRat_zero]
  by_cases negative : policy.amountWeight.toRat < 0
  · rw [decide_eq_true negative, decide_eq_true (Or.inl negative)]
    rfl
  · rw [decide_eq_false negative]
    simp only [negative, false_or]
    rfl

theorem capsInOrder_eq (finite : policy.Finite) :
    policy.capsInOrder = .ok (decide policy.Ordered) := by
  rw [capsInOrder, Decimal.le?_eq rfl finite.ambiguousCap,
    Decimal.le?_eq finite.ambiguousCap finite.inferredCap,
    Decimal.lt?_eq finite.inferredCap rfl, Decimal.toRat_zero, Decimal.toRat_one]
  by_cases nonneg : 0 ≤ policy.ambiguousCap.toRat
  · by_cases below : policy.ambiguousCap.toRat ≤ policy.inferredCap.toRat
    · simp [Ordered, nonneg, below, bind, Except.bind]
    · simp [Ordered, nonneg, below, bind, Except.bind, pure, Except.pure]
  · simp [Ordered, nonneg, bind, Except.bind, pure, Except.pure]

/-- What the check of a policy of finite values can say. -/
theorem check_cases (finite : policy.Finite) :
    (policy.Lawful ∧ policy.check = .ok ()) ∨
    (policy.Overweight ∧ policy.check = .error (.decimal .overflow)) ∨
    ∃ fault, policy.Breaks fault ∧ policy.check = .error (.policy fault) := by
  unfold check
  by_cases tolerance : policy.toleranceBps < 0
  · rw [if_pos tolerance]
    exact Or.inr (Or.inr ⟨_, .tolerance tolerance, rfl⟩)
  rw [if_neg tolerance, bind_of_lifted (hasNegativeWeight_eq finite)]
  by_cases negative : policy.amountWeight.toRat < 0 ∨ policy.timeWeight.toRat < 0
  · rw [decide_eq_true negative]
    exact Or.inr (Or.inr ⟨_, .weights negative, rfl⟩)
  rw [if_neg (by simpa using negative)]
  have nonnegative : policy.Nonnegative := by
    rw [not_or, not_lt, not_lt] at negative
    exact ⟨not_lt.mp tolerance, negative.1, negative.2⟩
  rcases Decimal.add_cases finite.amountWeight finite.timeWeight nonnegative.amountWeight
    nonnegative.timeWeight with ⟨great, failed⟩ | ⟨-, weight, added, number⟩
  · refine Or.inr (Or.inl ⟨⟨nonnegative, great⟩, ?_⟩)
    rw [failed]
    rfl
  rw [bind_of_lifted added, bind_of_lifted (Decimal.le?_eq number rfl),
    Decimal.toRat_zero]
  by_cases none : weight.toRat ≤ 0
  · rw [decide_eq_true none]
    exact Or.inr (Or.inr ⟨_, .weight added none, rfl⟩)
  rw [if_neg (by simpa using none)]
  rw [bind_of_lifted (capsInOrder_eq finite)]
  by_cases ordered : policy.Ordered
  · rw [decide_eq_true ordered, bind_of_lifted (Decimal.le?_eq rfl finite.ambiguousCap)]
    by_cases high : highConfidence.toRat ≤ policy.ambiguousCap.toRat
    · rw [decide_eq_true high]
      exact Or.inr (Or.inr ⟨_, .notHigh added high, rfl⟩)
    · rw [decide_eq_false high]
      exact Or.inl ⟨⟨nonnegative, ⟨weight, added, number, not_le.mp none⟩, ordered,
        not_le.mp high⟩, rfl⟩
  · rw [decide_eq_false ordered]
    exact Or.inr (Or.inr ⟨_, .ordered added ordered, rfl⟩)

theorem usual_finite : usual.Finite := ⟨rfl, rfl, rfl, rfl, rfl⟩

theorem usual_lawful : usual.Lawful := by
  have accepted : usual.check = .ok () := rfl
  rcases check_cases usual_finite with ⟨lawful, -⟩ | ⟨-, failed⟩ | ⟨fault, -, failed⟩
  · exact lawful
  · rw [accepted] at failed
    cases failed
  · rw [accepted] at failed
    cases failed

end Check

end Reconcile.Policy
