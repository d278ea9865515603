import Mathlib.Algebra.Order.Group.MinMax
import Reconcile.Proofs.Decimal.Error
import Reconcile.Proofs.Matching.Closeness

set_option autoImplicit false

/-
Amounts that are equally close. An amount score is within a few units of its last digit of the
exact closeness of the amounts, so two intents with the same amount score are equally far from the
deposit, but their amounts need not be the same: one can lie below and the other above it. Such a
twin of the leader is tied with it, however far its own score is behind.
-/
namespace Reconcile.Matching

open Decimal (relativeError tinyExponent)

def closeness (declared actual : ℚ) : ℚ := max 0 (1 - |declared - actual| / declared)

theorem relativeError_le : relativeError ≤ 1 / 4 := by
  norm_num [relativeError, Decimal.precision]

theorem least_le_relativeError : (10 : ℚ) ^ tinyExponent / 2 ≤ relativeError / 4 := by
  have low : (10 : ℚ) ^ tinyExponent ≤ 10 ^ (-28 : ℤ) := Decimal.ten_mono (by decide)
  refine (div_le_div_of_nonneg_right low (by norm_num)).trans ?_
  norm_num [relativeError, Decimal.precision]

/-- One less a number from zero to two is rounded by no more than the error of one. -/
theorem complement_near {a r : Decimal} (fits : a.Fits) (nonneg : 0 ≤ a.toRat) (le : a.toRat ≤ 2)
    (done : Decimal.one.sub a = .ok r) : |r.toRat - (1 - a.toRat)| ≤ relativeError := by
  have error := Decimal.sub_error Decimal.fits_one fits done
  rw [Decimal.toRat_one] at error
  have size : |1 - a.toRat| ≤ 1 := by
    rw [abs_le]
    constructor <;> linarith
  have scaled := mul_le_mul_of_nonneg_right size Decimal.relativeError_nonneg
  rw [one_mul] at scaled
  exact error.trans scaled

section Accuracy

variable {declared actual score : Decimal} (fits : declared.Fits) (other : actual.Fits)
  (positive : 0 < declared.toRat)
include fits other positive

/-- A gap that is not greater than the declared amount has a small error. -/
theorem amountGap_near {gap : Decimal} (done : amountGap declared actual = .ok gap)
    (within : |declared.toRat - actual.toRat| / declared.toRat ≤ 1) :
    |gap.toRat - |declared.toRat - actual.toRat| / declared.toRat| ≤
      2 * relativeError + relativeError * relativeError + 10 ^ tinyExponent / 2 := by
  obtain ⟨difference, subtracted, settled⟩ := amountGap_settled fits other positive done
  have nonneg := Decimal.relativeError_nonneg
  have exact : 0 ≤ |declared.toRat - actual.toRat| / declared.toRat := by positivity
  have part : 0 ≤ |difference.toRat| / declared.toRat := by positivity
  have error := Decimal.sub_error fits other subtracted
  have sizes := (abs_abs_sub_abs_le difference.toRat (declared.toRat - actual.toRat)).trans error
  have rounded := settled.error rfl
  rw [abs_of_nonneg part] at rounded
  -- The rounded difference as a part of the declared amount.
  have parts : |(|difference.toRat| / declared.toRat) -
      |declared.toRat - actual.toRat| / declared.toRat| ≤ relativeError := by
    rw [← sub_div, abs_div, abs_of_pos positive, div_le_iff₀ positive]
    refine sizes.trans ?_
    rw [mul_comm]
    exact mul_le_mul_of_nonneg_left ((div_le_one positive).mp within) nonneg
  have bound : |difference.toRat| / declared.toRat ≤ 1 + relativeError := by
    have upper := (abs_le.mp parts).2
    linarith
  have scaled : |difference.toRat| / declared.toRat * relativeError ≤
      (1 + relativeError) * relativeError := mul_le_mul_of_nonneg_right bound nonneg
  have path := abs_sub_le gap.toRat (|difference.toRat| / declared.toRat)
    (|declared.toRat - actual.toRat| / declared.toRat)
  linarith

/-- A gap as great as the declared amount leaves nothing of the score. -/
theorem amountScore_of_far (done : amountScore declared actual = .ok score)
    (beyond : declared.toRat ≤ |declared.toRat - actual.toRat|) : score.toRat = 0 := by
  obtain ⟨gap, measured, done⟩ := bind_eq_ok.mp done
  obtain ⟨rest, subtracted, greatest⟩ := bind_eq_ok.mp done
  obtain ⟨difference, distance, settled⟩ := amountGap_settled fits other positive measured
  have differs := (Decimal.sub_settled fits other).rounds distance
  obtain ⟨size, -, fitsSize, sized⟩ := differs.fits.abs_eq_ok
  have least := (differs.abs fitsSize sized).ge_of_ge fits.representable beyond
  rw [sized] at least
  have quotient : 1 ≤ |difference.toRat| / declared.toRat := (one_le_div positive).mpr least
  have full := (settled.rounds rfl).ge_of_ge Decimal.representable_one quotient
  have fitsGap := (settled.rounds rfl).fits
  have none := Decimal.complement_nonpos fitsGap full subtracted
  have finite := (Decimal.complement_rounds fitsGap subtracted).isFinite
  obtain ⟨-, value⟩ := Decimal.max?_toRat rfl finite greatest
  rw [value, Decimal.toRat_zero, max_eq_left none]

/-- The amount score is near the exact closeness. -/
theorem amountScore_near (done : amountScore declared actual = .ok score) :
    |score.toRat - closeness declared.toRat actual.toRat| ≤ 4 * relativeError := by
  have nonneg := Decimal.relativeError_nonneg
  have quarter := relativeError_le
  have least := least_le_relativeError
  by_cases within : |declared.toRat - actual.toRat| / declared.toRat ≤ 1
  · obtain ⟨gap, measured, done⟩ := bind_eq_ok.mp done
    obtain ⟨rest, subtracted, greatest⟩ := bind_eq_ok.mp done
    obtain ⟨difference, -, settled⟩ := amountGap_settled fits other positive measured
    have gapRounds := settled.rounds rfl
    have square : relativeError * relativeError ≤ relativeError / 4 := by
      have product := mul_le_mul_of_nonneg_left quarter nonneg
      linarith
    have near := (amountGap_near fits other positive measured within).trans
      (by linarith : _ ≤ 3 * relativeError)
    have sides := abs_le.mp near
    have error := complement_near gapRounds.fits (gapRounds.nonneg (by positivity))
      (by linarith) subtracted
    have close : |rest.toRat - (1 - |declared.toRat - actual.toRat| / declared.toRat)| ≤
        4 * relativeError := by
      have errors := abs_le.mp error
      rw [abs_le]
      constructor <;> linarith
    have finite := (Decimal.complement_rounds gapRounds.fits subtracted).isFinite
    obtain ⟨-, value⟩ := Decimal.max?_toRat rfl finite greatest
    rw [value, Decimal.toRat_zero, closeness, max_comm 0, max_comm 0]
    exact (abs_max_sub_max_le_abs _ _ _).trans close
  · have beyond := (one_lt_div positive).mp (not_le.mp within)
    have none := amountScore_of_far fits other positive done beyond.le
    have nothing : closeness declared.toRat actual.toRat = 0 :=
      max_eq_left (by linarith [not_le.mp within])
    rw [none, nothing, sub_zero, abs_zero]
    linarith

/-- Above zero, the closeness is one less the distance of the deposit from the whole amount. -/
theorem closeness_of_scored (done : amountScore declared actual = .ok score)
    (scored : score.toRat ≠ 0) :
    closeness declared.toRat actual.toRat = 1 - |1 - actual.toRat / declared.toRat| := by
  have within : |declared.toRat - actual.toRat| < declared.toRat := by
    by_contra beyond
    exact scored (amountScore_of_far fits other positive done (not_lt.mp beyond))
  have part : |declared.toRat - actual.toRat| / declared.toRat =
      |1 - actual.toRat / declared.toRat| := by
    rw [← abs_of_pos positive, ← abs_div, sub_div, abs_of_pos positive, div_self positive.ne']
  have less := (div_lt_one positive).mpr within
  rw [part] at less
  rw [closeness, part]
  exact max_eq_right (by linarith)

end Accuracy

/-- Two parts that are equally far from the whole, as far as rounding can tell: they are nearly the
same, or one is above the whole by nearly as much as the other is below it. -/
def Twins (first second : ℚ) : Prop :=
  |first - second| ≤ 8 * relativeError ∨ |first + second - 2| ≤ 8 * relativeError

theorem abs_sub_or_abs_add_le {x y bound : ℚ} (close : |(|x|) - (|y|)| ≤ bound) :
    |x - y| ≤ bound ∨ |x + y| ≤ bound := by
  rcases le_total 0 x with nonneg | nonpos <;> rcases le_total 0 y with nonnegY | nonposY
  · rw [abs_of_nonneg nonneg, abs_of_nonneg nonnegY] at close
    exact Or.inl close
  · rw [abs_of_nonneg nonneg, abs_of_nonpos nonposY, sub_neg_eq_add] at close
    exact Or.inr close
  · rw [abs_of_nonpos nonpos, abs_of_nonneg nonnegY, ← neg_add', abs_neg] at close
    exact Or.inr close
  · rw [abs_of_nonpos nonpos, abs_of_nonpos nonposY, neg_sub_neg, abs_sub_comm] at close
    exact Or.inl close

/-- A deposit makes up twin parts of amounts with the same score above zero. -/
theorem twins_of_amountScore {first second actual score twin : Decimal} (fits : first.Fits)
    (fitsSecond : second.Fits) (other : actual.Fits) (positive : 0 < first.toRat)
    (positiveSecond : 0 < second.toRat) (done : amountScore first actual = .ok score)
    (also : amountScore second actual = .ok twin) (same : twin.toRat = score.toRat)
    (scored : score.toRat ≠ 0) :
    Twins (actual.toRat / first.toRat) (actual.toRat / second.toRat) := by
  have near := amountScore_near fits other positive done
  have nearTwin := amountScore_near fitsSecond other positiveSecond also
  rw [closeness_of_scored fits other positive done scored, abs_le] at near
  rw [closeness_of_scored fitsSecond other positiveSecond also (same ▸ scored), same,
    abs_le] at nearTwin
  have distances : |(|1 - actual.toRat / first.toRat|) - (|1 - actual.toRat / second.toRat|)| ≤
      8 * relativeError := by
    rw [abs_le]
    constructor <;> linarith
  rcases abs_sub_or_abs_add_le distances with difference | total
  · left
    rwa [sub_sub_sub_cancel_left, abs_sub_comm] at difference
  · right
    rw [abs_sub_comm]
    convert total using 2
    ring

section Choice

variable {policy : Policy} {deposit : Deposit} {intents : List Intent} {scored : List Scored}
  {selection : Selection}

/-- The score is no further below another than the policy allows for a tie. -/
def Inside (policy : Policy) (best each : Scored) : Prop :=
  ∃ difference, best.score.sub each.score = .ok difference ∧
    difference.toRat ≤ policy.tieDelta.toRat

/-- An amount that can be divided by: it fits, and it is above zero. -/
structure Measures (amount : Decimal) : Prop where
  fits : amount.Fits
  positive : 0 < amount.toRat

theorem Measures.of_inRange {c : ℕ} {e : ℤ} (inRange : Decimal.InRange c e) (some : c ≠ 0) :
    Measures (.finite false c e) :=
  ⟨.of_inRange inRange false, Decimal.magnitude_pos some e⟩

/-- Under an accepted policy the winner is inside the bound for a tie, or it has the same amount
score as the leader, the first of the candidates with the highest score. If that is not zero, the
deposit makes up twin parts of the two amounts. -/
theorem winner_is_near_or_twin (accepted : policy.check = .ok ())
    (finite : policy.tieDelta.isFinite) (done : scoreAll policy deposit intents = .ok scored)
    (chosen : select policy scored = .ok (some selection)) :
    ∃ leader, Leads (eligible scored) leader ∧
      ((∀ best, Best (eligible scored) best → Inside policy best selection.winner) ∨
        selection.winner.amountScore.same? leader.amountScore = .ok true ∧
        (deposit.amount.Fits → Measures leader.intent.amount →
          Measures selection.winner.intent.amount → leader.amountScore.toRat ≠ 0 →
          Twins (deposit.amount.toRat / leader.intent.amount.toRat)
            (deposit.amount.toRat / selection.winner.intent.amount.toRat))) := by
  have capped := Policy.capped_of_check accepted
  have bounded := bounded_of_eligible capped done
  obtain ⟨leader, choice⟩ :=
    exists_chosen (fun each member => (bounded each member).score.isFinite) chosen
  obtain ⟨member, tied⟩ := mem_tied.mp choice.oldest.member
  have first := bounded leader choice.leads.mem
  have last := bounded selection.winner member
  refine ⟨leader, choice.leads, ?_⟩
  rcases (isTied_iff first last).mp tied with same | near
  · right
    refine ⟨same, ?_⟩
    intro fits measures measuresWinner some
    obtain ⟨-, -, equal, -⟩ := Decimal.same?_iff.mp same
    obtain ⟨i, -, made⟩ := exists_of_mem_mapM done (mem_eligible.mp choice.leads.mem).1
    obtain ⟨j, -, built⟩ := exists_of_mem_mapM done (mem_eligible.mp member).1
    obtain ⟨rfl, -, amount, -⟩ := score_eq_ok made
    obtain ⟨rfl, -, amountWinner, -⟩ := score_eq_ok built
    exact twins_of_amountScore measures.fits measuresWinner.fits fits measures.positive
      measuresWinner.positive amount amountWinner equal some
  · left
    intro best high
    obtain ⟨difference, subtracted, within⟩ := near_iff capped finite first last
    rw [← high.score_unique capped done choice.leads.best] at subtracted
    exact ⟨difference, subtracted, within.mp near⟩

end Choice

namespace Twins

def deposit : Deposit := Sample.deposit (.finite false 3999975 (-4)) 1800

/-- The deposit is a quarter of a percent above the one amount and as much below the other. The
intent for the other was declared almost half an hour earlier. -/
def intents : List Intent :=
  [Sample.intent "below" (.finite false 399 0) 1740, Sample.intent "above" (.finite false 401 0) 0]

def shown (each : Scored) : Decimal × Decimal × Decimal :=
  (each.intent.amount, each.amountScore, each.score)

def amountScore : Decimal := .finite false 9975000000000000000000000000 (-28)

def higher : Decimal := .finite false 9904166666666666666666666665 (-28)

def lower : Decimal := .finite false 7487500000000000000000000000 (-28)

def answer : Except Fault (List (Decimal × Decimal × Decimal) ×
    Option (Decimal × Decimal × Decimal)) := do
  let scored ← scoreAll .usual deposit intents
  let choice ← select .usual scored
  return ((eligible scored).map shown, choice.map (shown ·.winner))

/-- The younger of the two intents leads, and the older one wins. -/
structure Overtaken (scored : List Scored) (selection : Selection) (leader : Scored) : Prop where
  done : scoreAll .usual deposit intents = .ok scored
  chosen : select .usual scored = .ok (some selection)
  leads : shown leader = (.finite false 399 0, amountScore, higher)
  wins : shown selection.winner = (.finite false 401 0, amountScore, lower)
  best : ∀ best, Best (eligible scored) best ↔ best = leader

theorem exists_overtaken : ∃ scored selection leader, Overtaken scored selection leader := by
  have answered : answer.toOption =
      some ([(.finite false 399 0, amountScore, higher), (.finite false 401 0, amountScore, lower)],
        some (.finite false 401 0, amountScore, lower)) := by
    decide +kernel
  obtain ⟨scored, done, answered⟩ := bind_eq_ok.mp (toOption_eq_some.mp answered)
  obtain ⟨choice, chosen, answered⟩ := bind_eq_ok.mp answered
  obtain ⟨candidates, picked⟩ := Prod.mk.inj (Except.ok.inj answered)
  obtain ⟨selection, rfl, winner⟩ := Option.map_eq_some_iff.mp picked
  obtain ⟨leader, others, split, first, candidates⟩ := List.map_eq_cons_iff.mp candidates
  obtain ⟨other, rest, rfl, second, candidates⟩ := List.map_eq_cons_iff.mp candidates
  obtain rfl := List.map_eq_nil_iff.mp candidates
  have less : other.score.toRat < leader.score.toRat := by
    rw [(Prod.mk.inj (Prod.mk.inj first).2).2, (Prod.mk.inj (Prod.mk.inj second).2).2, higher,
      lower, Decimal.toRat_false, Decimal.toRat_false]
    norm_num
  refine ⟨scored, selection, leader, done, chosen, first, winner, ?_⟩
  intro best
  rw [split]
  constructor
  · intro high
    rcases List.mem_pair.mp high.member with same | same
    · exact same
    · have atMost := high.highest leader List.mem_cons_self
      rw [same] at atMost
      exact absurd atMost (not_le.mpr less)
  · rintro rfl
    refine ⟨List.mem_cons_self, ?_⟩
    intro each member
    rcases List.mem_pair.mp member with rfl | rfl
    · exact le_rfl
    · exact less.le

variable {scored : List Scored} {selection : Selection} {leader : Scored}

theorem Overtaken.amounts (overtaken : Overtaken scored selection leader) :
    leader.intent.amount = .finite false 399 0 ∧
      selection.winner.intent.amount = .finite false 401 0 :=
  ⟨(Prod.mk.inj overtaken.leads).1, (Prod.mk.inj overtaken.wins).1⟩

/-- The winner is far behind the leader. -/
theorem Overtaken.not_inside (overtaken : Overtaken scored selection leader) :
    ¬ Inside .usual leader selection.winner := by
  rintro ⟨difference, subtracted, within⟩
  have behind : (higher.sub lower).toOption =
      some (.finite false 2416666666666666666666666665 (-28)) := by
    decide +kernel
  rw [(Prod.mk.inj (Prod.mk.inj overtaken.leads).2).2,
    (Prod.mk.inj (Prod.mk.inj overtaken.wins).2).2, toOption_eq_some.mp behind] at subtracted
  rw [← Except.ok.inj subtracted, Policy.usual, Decimal.toRat_false, Decimal.toRat_false] at within
  norm_num at within

end Twins

/-- A deposit of 399.9975 makes up twin parts of 399 and 401, and the older intent wins. -/
theorem winner_is_near_or_twin_mirrored :
    ∃ scored selection leader, scoreAll .usual Twins.deposit Twins.intents = .ok scored ∧
      select .usual scored = .ok (some selection) ∧ Leads (eligible scored) leader ∧
      ¬ Inside .usual leader selection.winner ∧
      Twins (Twins.deposit.amount.toRat / leader.intent.amount.toRat)
        (Twins.deposit.amount.toRat / selection.winner.intent.amount.toRat) := by
  obtain ⟨scored, selection, leader, overtaken⟩ := Twins.exists_overtaken
  obtain ⟨found, leads, choice⟩ := winner_is_near_or_twin rfl rfl overtaken.done overtaken.chosen
  obtain rfl := (overtaken.best found).mp leads.best
  rcases choice with near | ⟨-, twins⟩
  · exact absurd (near found leads.best) overtaken.not_inside
  · obtain ⟨amount, amountWinner⟩ := overtaken.amounts
    refine ⟨scored, selection, found, overtaken.done, overtaken.chosen, leads,
      overtaken.not_inside, twins ?_ ?_ ?_ ?_⟩
    · exact .of_inRange ⟨by decide, by decide, by decide⟩ false
    · rw [amount]
      exact .of_inRange ⟨by decide, by decide, by decide⟩ (by decide)
    · rw [amountWinner]
      exact .of_inRange ⟨by decide, by decide, by decide⟩ (by decide)
    · rw [(Prod.mk.inj (Prod.mk.inj overtaken.leads).2).1]
      exact (Decimal.magnitude_pos (by decide) (-28)).ne'

/-- An intent for another amount can win from outside the bound for a tie. -/
theorem other_amount_wins_from_far :
    ¬ ∀ (policy : Policy) (deposit : Deposit) (intents : List Intent) (scored : List Scored)
      (selection : Selection), policy.check = .ok () → policy.amountWeight.isFinite →
      policy.timeWeight.isFinite → policy.tieDelta.isFinite →
      (∀ intent ∈ intents, Measures intent.amount) →
      scoreAll policy deposit intents = .ok scored →
      select policy scored = .ok (some selection) →
      (∀ best, Best (eligible scored) best →
        selection.winner.intent.amount.same? best.intent.amount = .ok false) →
      ∀ best, Best (eligible scored) best → Inside policy best selection.winner := by
  intro claim
  obtain ⟨scored, selection, leader, overtaken⟩ := Twins.exists_overtaken
  have best := (overtaken.best leader).mpr rfl
  refine overtaken.not_inside (claim .usual Twins.deposit Twins.intents scored selection rfl rfl rfl
    rfl ?_ overtaken.done overtaken.chosen ?_ leader best)
  · intro intent member
    rcases List.mem_pair.mp member with rfl | rfl
    · exact .of_inRange ⟨by decide, by decide, by decide⟩ (by decide)
    · exact .of_inRange ⟨by decide, by decide, by decide⟩ (by decide)
  · intro other high
    obtain rfl := (overtaken.best other).mp high
    obtain ⟨amount, amountWinner⟩ := overtaken.amounts
    rw [amount, amountWinner]
    decide +kernel

end Reconcile.Matching
