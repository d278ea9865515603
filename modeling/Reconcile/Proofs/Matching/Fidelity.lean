import Reconcile.Proofs.Matching.Decay
import Reconcile.Proofs.Matching.Tolerance
import Reconcile.Proofs.Settings.Numerals

set_option autoImplicit false

/-
How far a score is from its exact value. Each step rounds once, and a part of the result goes from
step to step: the scores of amount and time are off by a few units of the last digit of one, and
weighing them adds a few more, whatever the weights are. So the score keeps twenty-six places.
-/
namespace Reconcile

open Decimal (limit precision relativeError tinyExponent)

namespace Decimal

/-- What a policy can weigh with: zero, or a number of few digits that is not far from one. -/
def Weight (a : Decimal) : Prop :=
  ∃ s c e, a = .finite s c e ∧ (c = 0 ∨ s = false ∧ digitCount c ≤ precision ∧
    (10 : ℚ) ^ (-100 : ℤ) ≤ c * 10 ^ e ∧ (c : ℚ) * 10 ^ e ≤ 10 ^ (100 : ℤ))

namespace Weight

variable {a : Decimal} (weight : a.Weight)
include weight

theorem plain : a.Plain := by
  obtain ⟨s, c, e, rfl, zero | ⟨rfl, few, low, high⟩⟩ := weight
  · subst zero
    exact ⟨rfl, fun some => absurd (toRat_of_coefficient_zero s e) some⟩
  · have some : c ≠ 0 := by
      rintro rfl
      rw [Nat.cast_zero, zero_mul] at low
      exact absurd low (not_le.mpr (ten_pos _))
    have least : -100 < e + digitCount c :=
      (zpow_lt_zpow_iff_right₀ (by norm_num)).mp (low.trans_lt (magnitude_lt c e))
    have most : e + digitCount c - 1 ≤ 100 :=
      (zpow_le_zpow_iff_right₀ (by norm_num)).mp ((le_magnitude some e).trans high)
    refine .of_fits (.of_inRange ⟨few, ?_, ?_⟩ false)
    · simp only [precision, tinyExponent] at few ⊢
      omega
    · simp only [maxExponent]
      omega

theorem ge_of_pos (positive : 0 < a.toRat) : (10 : ℚ) ^ (-100 : ℤ) ≤ a.toRat := by
  obtain ⟨s, c, e, rfl, zero | ⟨rfl, -, low, -⟩⟩ := weight
  · subst zero
    rw [toRat_of_coefficient_zero] at positive
    exact absurd positive (lt_irrefl 0)
  · rw [toRat_false]
    exact low

end Weight

end Decimal

/-- The tolerance of an accepted policy has a value unless it is too great for arithmetic. -/
theorem Policy.tolerance_iff {policy : Policy} (accepted : policy.check = .ok ()) :
    (∃ bound, policy.tolerance = .ok bound) ↔ (policy.toleranceBps : ℚ) < 10000 * limit := by
  obtain ⟨notNegative, -⟩ := refuse_eq_ok.mp accepted
  have nonneg : (0 : ℚ) ≤ policy.toleranceBps := by exact_mod_cast not_lt.mp notNegative
  rw [mul_comm, ← div_lt_iff₀ (by norm_num)]
  rcases policy.tolerance_evaluates with ⟨above, failed⟩ | ⟨below, bound, done, -⟩
  · rw [abs_of_nonneg (by positivity)] at above
    rw [failed]
    exact ⟨fun ⟨bound, done⟩ => absurd done (by simp), fun below => absurd above (not_le.mpr below)⟩
  · rw [abs_of_nonneg (by positivity)] at below
    exact ⟨fun _ => below, fun _ => ⟨bound, done⟩⟩

namespace Matching

open Decimal (Unit)

/-- Rounding at the low end of the range is no matter beside weights. -/
theorem least_le_part {v : ℚ} (some : (10 : ℚ) ^ (-100 : ℤ) ≤ v) :
    (10 : ℚ) ^ tinyExponent / 2 ≤ v * relativeError / 4 := by
  have low : (10 : ℚ) ^ tinyExponent ≤ 10 ^ (-100 : ℤ) * 10 ^ (-28 : ℤ) := by
    rw [← Decimal.ten_add]
    exact Decimal.ten_mono (by decide)
  have scaled := mul_le_mul_of_nonneg_right some (Decimal.ten_pos (-28)).le
  norm_num [relativeError, precision] at low scaled ⊢
  linarith

/-- A quotient is near a number that its dividend is near as a part of the exact divisor. -/
theorem quotient_near {s w v b u : ℚ} (total : 0 < v) (nonneg : 0 ≤ u) (quarter : u ≤ 1 / 4)
    (within : 0 ≤ b ∧ b ≤ 1) (nearS : |s - v * b| ≤ 7 * (v * u))
    (nearW : |w - v| ≤ 5 / 4 * (v * u)) :
    0 < w ∧ |s / w - b| ≤ 12 * u ∧ |s / w| ≤ 4 := by
  have scaled := mul_le_mul_of_nonneg_left quarter total.le
  have great : 11 / 16 * v ≤ w := by
    have lower := (abs_le.mp nearW).1
    linarith
  have positive : 0 < w := by linarith
  have parts : s / w - b = ((s - v * b) + b * (v - w)) / w := by
    field_simp
    ring
  have shared : |b * (v - w)| ≤ 5 / 4 * (v * u) := by
    rw [abs_mul, abs_of_nonneg within.1, abs_sub_comm]
    exact (mul_le_of_le_one_left (abs_nonneg _) within.2).trans nearW
  have near : |s / w - b| ≤ 12 * u := by
    rw [parts, abs_div, abs_of_pos positive, div_le_iff₀ positive]
    have wide := mul_le_mul_of_nonneg_right great nonneg
    have both := abs_add_le (s - v * b) (b * (v - w))
    linarith
  refine ⟨positive, near, ?_⟩
  have sides := abs_le.mp near
  obtain ⟨least, most⟩ := within
  rw [abs_le]
  constructor <;> linarith

/-- A weighted score is near the exact one, and no greater than the weight. -/
theorem weighted_near {weight part product : Decimal} {x bound : ℚ} (plain : weight.Plain)
    (nonneg : 0 ≤ weight.toRat) (unit : Unit part) (near : |part.toRat - x| ≤ bound)
    (done : weight.mul part = .ok product) :
    product.Amount ∧ product.toRat ≤ weight.toRat ∧
      |product.toRat - weight.toRat * x| ≤
        weight.toRat * (bound + relativeError) + 10 ^ tinyExponent / 2 := by
  obtain ⟨found, made, amount, le⟩ := weighted_eq_ok plain nonneg unit
  obtain rfl : found = product := Except.ok.inj (made.symm.trans done)
  have error := (Decimal.mul_settled plain.isFinite unit.amount.fits.isFinite).error done
  have exact : 0 ≤ weight.toRat * part.toRat := mul_nonneg nonneg unit.amount.nonneg
  have scaled := mul_le_mul_of_nonneg_right (mul_le_of_le_one_right nonneg unit.le_one)
    Decimal.relativeError_nonneg
  have inner : |weight.toRat * part.toRat - weight.toRat * x| ≤ weight.toRat * bound := by
    rw [← mul_sub, abs_mul, abs_of_nonneg nonneg]
    exact mul_le_mul_of_nonneg_left near nonneg
  rw [abs_of_nonneg exact] at error
  refine ⟨amount, le, ?_⟩
  have path := abs_sub_le found.toRat (weight.toRat * part.toRat) (weight.toRat * x)
  linarith

section Blend

variable {policy : Policy} (accepted : policy.check = .ok ())
  (amountWeight : policy.amountWeight.Weight) (timeWeight : policy.timeWeight.Weight)
include accepted amountWeight timeWeight

theorem weighs_of_weights : policy.Weighs := ⟨accepted, amountWeight.plain, timeWeight.plain⟩

theorem weights_nonneg : 0 ≤ policy.amountWeight.toRat ∧ 0 ≤ policy.timeWeight.toRat :=
  Policy.weights_nonneg accepted amountWeight.plain.isFinite timeWeight.plain.isFinite

/-- One of the weights is not zero, so together they are not too small. -/
theorem weights_ge :
    (10 : ℚ) ^ (-100 : ℤ) ≤ policy.amountWeight.toRat + policy.timeWeight.toRat := by
  have weighs := weighs_of_weights accepted amountWeight timeWeight
  obtain ⟨nonnegA, nonnegT⟩ := weights_nonneg accepted amountWeight timeWeight
  obtain ⟨weight, -, positive, -, rounds⟩ := weighs.weight
  rcases nonnegA.eq_or_lt with none | some
  · rcases nonnegT.eq_or_lt with nothing | some
    · rw [← none, ← nothing, add_zero] at rounds
      exact absurd (rounds.eq_iff.mpr Decimal.representable_zero) positive.ne'
    · exact (timeWeight.ge_of_pos some).trans (le_add_of_nonneg_left nonnegA)
  · exact (amountWeight.ge_of_pos some).trans (le_add_of_nonneg_right nonnegT)

section Means

variable {amount time : Decimal} {x y : ℚ} (first : Unit amount) (second : Unit time)
  (nearX : |amount.toRat - x| ≤ 4 * relativeError) (nearY : |time.toRat - y| ≤ 4 * relativeError)
include first second nearX nearY

/-- The errors of the products and of their sum, as parts of the exact divisor. -/
theorem dividend_near {left right sum : Decimal}
    (leftDone : policy.amountWeight.mul amount = .ok left)
    (rightDone : policy.timeWeight.mul time = .ok right) (summed : left.add right = .ok sum) :
    sum.isFinite ∧
      |sum.toRat - (policy.amountWeight.toRat * x + policy.timeWeight.toRat * y)| ≤
        7 * ((policy.amountWeight.toRat + policy.timeWeight.toRat) * relativeError) := by
  obtain ⟨nonnegA, nonnegT⟩ := weights_nonneg accepted amountWeight timeWeight
  obtain ⟨leftAmount, leftLe, leftNear⟩ :=
    weighted_near amountWeight.plain nonnegA first nearX leftDone
  obtain ⟨rightAmount, rightLe, rightNear⟩ :=
    weighted_near timeWeight.plain nonnegT second nearY rightDone
  have settled := Decimal.add_settled leftAmount.fits rightAmount.fits
  have error := settled.error summed
  rw [abs_of_nonneg (add_nonneg leftAmount.nonneg rightAmount.nonneg)] at error
  have nonneg := Decimal.relativeError_nonneg
  have unit := mul_nonneg (add_nonneg nonnegA nonnegT) nonneg
  have scaled := mul_le_mul_of_nonneg_right (add_le_add leftLe rightLe) nonneg
  have least := least_le_part (weights_ge accepted amountWeight timeWeight)
  have parts := abs_add_le (left.toRat - policy.amountWeight.toRat * x)
    (right.toRat - policy.timeWeight.toRat * y)
  rw [sub_add_sub_comm] at parts
  have path := abs_sub_le sum.toRat (left.toRat + right.toRat)
    (policy.amountWeight.toRat * x + policy.timeWeight.toRat * y)
  exact ⟨(settled.rounds summed).isFinite, by linarith⟩

/-- The weighted mean is near that of two numbers that the scores are near. -/
theorem blend_near {mean : Decimal} (withinX : 0 ≤ x ∧ x ≤ 1) (withinY : 0 ≤ y ∧ y ≤ 1)
    (done : blend policy amount time = .ok mean) :
    mean.isFinite ∧
      |mean.toRat - (policy.amountWeight.toRat * x + policy.timeWeight.toRat * y) /
        (policy.amountWeight.toRat + policy.timeWeight.toRat)| ≤ 18 * relativeError := by
  obtain ⟨weight, added, done⟩ := bind_eq_ok.mp done
  obtain ⟨left, leftDone, done⟩ := bind_eq_ok.mp done
  obtain ⟨right, rightDone, done⟩ := bind_eq_ok.mp done
  obtain ⟨sum, summed, divided⟩ := bind_eq_ok.mp done
  obtain ⟨finite, sumNear⟩ := dividend_near accepted amountWeight timeWeight first second nearX
    nearY leftDone rightDone summed
  obtain ⟨nonnegA, nonnegT⟩ := weights_nonneg accepted amountWeight timeWeight
  have great := weights_ge accepted amountWeight timeWeight
  have total := (Decimal.ten_pos (-100)).trans_le great
  have least := least_le_part great
  have nonneg := Decimal.relativeError_nonneg
  have settled := amountWeight.plain.add_settled timeWeight.plain
  have error := settled.error added
  have partLeA := mul_le_mul_of_nonneg_left withinX.2 nonnegA
  have partLeT := mul_le_mul_of_nonneg_left withinY.2 nonnegT
  have partA := mul_nonneg nonnegA withinX.1
  have partT := mul_nonneg nonnegT withinY.1
  have above : 0 ≤ policy.amountWeight.toRat * x + policy.timeWeight.toRat * y := by linarith
  have most : policy.amountWeight.toRat * x + policy.timeWeight.toRat * y ≤
      policy.amountWeight.toRat + policy.timeWeight.toRat := by linarith
  rw [abs_of_pos total] at error
  generalize policy.amountWeight.toRat * x + policy.timeWeight.toRat * y = dividend at *
  generalize policy.amountWeight.toRat + policy.timeWeight.toRat = divisor at *
  have unit := mul_nonneg total.le nonneg
  have weightNear : |weight.toRat - divisor| ≤ 5 / 4 * (divisor * relativeError) := by linarith
  rw [← mul_div_cancel₀ dividend total.ne'] at sumNear
  obtain ⟨positive, quotient, small⟩ := quotient_near total nonneg relativeError_le
    ⟨div_nonneg above total.le, (div_le_one total).mpr most⟩ sumNear weightNear
  have meanSettled :=
    Decimal.div_settled finite (settled.rounds added).isFinite positive.ne'
  have meanError := meanSettled.error divided
  have meanScaled := mul_le_mul_of_nonneg_right small nonneg
  have low := least_le_relativeError
  refine ⟨(meanSettled.rounds divided).isFinite, ?_⟩
  have path := abs_sub_le mean.toRat (sum.toRat / weight.toRat) (dividend / divisor)
  linarith

end Means

end Blend

theorem closeness_within {declared : ℚ} (positive : 0 < declared) (actual : ℚ) :
    0 ≤ closeness declared actual ∧ closeness declared actual ≤ 1 := by
  have gap : 0 ≤ |declared - actual| / declared := div_nonneg (abs_nonneg _) positive.le
  exact ⟨le_max_left _ _, max_le zero_le_one (by linarith)⟩

theorem remaining_within (elapsed window : ℤ) :
    0 ≤ remaining elapsed window ∧ remaining elapsed window ≤ 1 :=
  ⟨le_min zero_le_one (le_max_left _ _), min_le_left _ _⟩

/-- The score without any rounding. -/
def exactScore (policy : Policy) (deposit : Deposit) (intent : Intent) : ℚ :=
  max 0 (min policy.inferredCap.toRat
    ((policy.amountWeight.toRat * closeness intent.amount.toRat deposit.amount.toRat +
      policy.timeWeight.toRat * remaining (deposit.confirmed.instant - intent.created.instant)
        (intent.expires.instant - intent.created.instant)) /
      (policy.amountWeight.toRat + policy.timeWeight.toRat)))

section Scores

variable {policy : Policy} {deposit : Deposit} {intent : Intent}

theorem score_near (accepted : policy.check = .ok ()) (amountWeight : policy.amountWeight.Weight)
    (timeWeight : policy.timeWeight.Weight) (declared : intent.amount.Middling)
    (actual : deposit.amount.Middling)
    (timed : Timed intent.created intent.expires deposit.confirmed)
    (lasts : intent.created.instant < intent.expires.instant) {scored : Scored}
    (done : score policy deposit intent = .ok scored) :
    |scored.score.toRat - exactScore policy deposit intent| ≤ 18 * relativeError := by
  obtain ⟨-, -, amounts, mean, blended, clamped⟩ := score_eq_ok done
  have times := timeScore_of_score done
  obtain ⟨-, left⟩ := timeScore_of_window lasts times
  obtain ⟨time, made, unitT⟩ := timeScore_eq_ok timed
  obtain rfl : time = scored.timeScore := Except.ok.inj (made.symm.trans times)
  have unitA := amountScore_unit declared.amount actual.amount amounts
  have nonneg := Decimal.relativeError_nonneg
  have nearA := amountScore_near declared.fits actual.fits declared.positive amounts
  have nearT := (timeLeft_near (by omega) left).trans (by linarith : _ ≤ 4 * relativeError)
  obtain ⟨finite, near⟩ := blend_near accepted amountWeight timeWeight unitA unitT nearA nearT
    (closeness_within declared.positive _) (remaining_within _ _) blended
  have kept := Decimal.clamp_near finite rfl (Policy.capped_of_check accepted).isFinite clamped near
  rwa [Decimal.toRat_zero] at kept

/-- There is a score unless the tolerance is too great for arithmetic. -/
theorem scored_iff (accepted : policy.check = .ok ()) (amountWeight : policy.amountWeight.Weight)
    (timeWeight : policy.timeWeight.Weight) (declared : intent.amount.Middling)
    (actual : deposit.amount.Middling)
    (timed : Timed intent.created intent.expires deposit.confirmed) :
    (∃ scored, score policy deposit intent = .ok scored) ↔
      (policy.toleranceBps : ℚ) < 10000 * limit := by
  rw [← Policy.tolerance_iff accepted]
  constructor
  · rintro ⟨scored, done⟩
    obtain ⟨-, tolerated, -⟩ := score_eq_ok done
    obtain ⟨gap, bound, -, divided, -⟩ :=
      withinTolerance_eq_ok declared.amount actual.amount tolerated
    exact ⟨bound, divided⟩
  · intro bounded
    have weighs := weighs_of_weights accepted amountWeight timeWeight
    rcases score_cases_of_timed weighs bounded declared.amount actual.amount timed with
      ⟨outgrown, -⟩ | ⟨-, scored⟩
    · exact absurd outgrown (declared.not_outgrown actual)
    · exact scored

/-- A score is exact to twenty-six places, whatever the weights, the amounts and the window. There
is one under every accepted policy of such weights, unless its tolerance is too great for
arithmetic, and no environment gives a tolerance like that. -/
theorem score_is_faithful (accepted : policy.check = .ok ())
    (amountWeight : policy.amountWeight.Weight) (timeWeight : policy.timeWeight.Weight)
    (declared : intent.amount.Middling) (actual : deposit.amount.Middling)
    (timed : Timed intent.created intent.expires deposit.confirmed)
    (lasts : intent.created.instant < intent.expires.instant) :
    ((∃ scored, score policy deposit intent = .ok scored) ↔
      (policy.toleranceBps : ℚ) < 10000 * limit) ∧
    (∀ scored, score policy deposit intent = .ok scored →
      |scored.score.toRat - exactScore policy deposit intent| < 1 / 10 ^ 26) ∧
    ∀ env : Environment, (env.matching.toleranceBps : ℚ) < 10000 * limit := by
  refine ⟨?_, ?_, Environment.tolerance_lt⟩
  · exact scored_iff accepted amountWeight timeWeight declared actual timed
  · intro scored done
    have near := score_near accepted amountWeight timeWeight declared actual timed lasts done
    refine near.trans_lt ?_
    norm_num [relativeError, precision]

end Scores

namespace Fidelity

def policy : Policy :=
  { Policy.usual with
    amountWeight := .finite false 3 (-100), timeWeight := .finite false 7 99 }

/-- An intent for a tiny amount of as many digits as there may be. -/
def intent : Intent := Sample.intent "i" (.finite false 1234567890123456789012345678 (-1027)) 0

def deposit : Deposit := Sample.deposit (.finite false 1 (-1000)) 1200

theorem amountWeight : policy.amountWeight.Weight :=
  ⟨_, _, _, rfl, Or.inr ⟨rfl, by decide, by norm_num, by norm_num⟩⟩

theorem timeWeight : policy.timeWeight.Weight :=
  ⟨_, _, _, rfl, Or.inr ⟨rfl, by decide, by norm_num, by norm_num⟩⟩

theorem declared : intent.amount.Middling := ⟨_, _, rfl, by decide, by decide, by decide, by decide⟩

theorem actual : deposit.amount.Middling := ⟨_, _, rfl, by decide, by decide, by decide, by decide⟩

theorem timed : Timed intent.created intent.expires deposit.confirmed :=
  timed_of_moments rfl rfl rfl

/-- The same policy with a tolerance that no decimal is as great as. -/
def lenient : Policy := { policy with toleranceBps := 10 ^ 1000004 }

theorem lenient_tolerance : 10000 * limit ≤ (lenient.toleranceBps : ℚ) := by
  have places : (4 : ℤ) + (Decimal.maxExponent + 1) = (1000004 : ℕ) := by decide
  have power : (10000 : ℚ) * 10 ^ (Decimal.maxExponent + 1) = (10 ^ 1000004 : ℤ) := by
    rw [show (10000 : ℚ) = 10 ^ (4 : ℤ) by norm_num, ← Decimal.ten_add, places, zpow_natCast,
      Int.cast_pow, Int.cast_ofNat]
  exact (mul_le_mul_of_nonneg_left Decimal.limit_le (by norm_num)).trans power.le

def unzoned : Intent :=
  { intent with
    created := { intent.created with offset := none },
    expires := { intent.expires with offset := none } }

end Fidelity

/-- Weights, amounts and times far apart leave a score that is exact to twenty-six places. -/
theorem score_is_faithful_apart :
    ∃ scored, score Fidelity.policy Fidelity.deposit Fidelity.intent = .ok scored ∧
      |scored.score.toRat - exactScore Fidelity.policy Fidelity.deposit Fidelity.intent| <
        1 / 10 ^ 26 := by
  have accepted : Fidelity.policy.check.toOption = some () := by decide +kernel
  obtain ⟨exists_score, near, -⟩ := score_is_faithful (toOption_eq_some.mp accepted)
    Fidelity.amountWeight Fidelity.timeWeight Fidelity.declared Fidelity.actual Fidelity.timed
    (by decide)
  have small : (Fidelity.policy.toleranceBps : ℚ) < 10000 * limit :=
    (by norm_num [Fidelity.policy, Policy.usual] : (Fidelity.policy.toleranceBps : ℚ) < 10000).trans
      (lt_mul_of_one_lt_right (by norm_num) Decimal.one_lt_limit)
  obtain ⟨scored, done⟩ := exists_score.mpr small
  exact ⟨scored, done, near scored done⟩

/-- Not every score exists, even under a policy that keeps its rules: the tolerance can be too great
for arithmetic, and a clock with a zone can meet clocks without. -/
theorem score_fails_on_great_tolerance :
    (¬ ∀ (policy : Policy) (deposit : Deposit) (intent : Intent), policy.check = .ok () →
      policy.amountWeight.Weight → policy.timeWeight.Weight → intent.amount.Middling →
      deposit.amount.Middling → Timed intent.created intent.expires deposit.confirmed →
      intent.created.instant < intent.expires.instant →
      ∃ scored, score policy deposit intent = .ok scored) ∧
    ∀ scored, score Fidelity.policy Fidelity.deposit Fidelity.unzoned ≠ .ok scored := by
  refine ⟨fun promised => ?_, fun scored done => ?_⟩
  · have accepted : Fidelity.lenient.check.toOption = some () := by decide +kernel
    have exists_score := promised Fidelity.lenient Fidelity.deposit Fidelity.intent
      (toOption_eq_some.mp accepted) Fidelity.amountWeight Fidelity.timeWeight Fidelity.declared
      Fidelity.actual Fidelity.timed (by decide)
    have small := (scored_iff (toOption_eq_some.mp accepted) Fidelity.amountWeight
      Fidelity.timeWeight Fidelity.declared Fidelity.actual Fidelity.timed).mp exists_score
    exact absurd small (not_lt.mpr Fidelity.lenient_tolerance)
  · have failed : (score Fidelity.policy Fidelity.deposit
        Fidelity.unzoned).toOption.isNone := by
      decide +kernel
    rw [done] at failed
    cases failed

end Matching

end Reconcile
