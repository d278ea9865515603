import Reconcile.Proofs.Calendar.Instants
import Reconcile.Proofs.Matching.Confidence
import Reconcile.Proofs.Matching.Gap

set_option autoImplicit false

/-
Under a policy with regular numbers scoring comes to an end. The one thing that can go wrong is a
gap between the amounts that is too great; the scores of amount and time lie between zero and one,
and their weighted mean is no greater than the weights allow.
-/
namespace Reconcile

open Decimal (Amount limit Rounds)

/-- An intent as the tables keep one that was declared. -/
structure Intent.Kept (intent : Intent) : Prop where
  amount : intent.amount.Amount
  created : Column.moment intent.created = .ok intent.created
  expires : Column.moment intent.expires = .ok intent.expires

/-- The deposit is too great for the intent: the gap between their amounts has no value. -/
def Intent.Outgrown (intent : Intent) (deposit : Deposit) : Prop :=
  limit * intent.amount.toRat ≤ deposit.amount.toRat

namespace Decimal

variable {a b : Decimal}

/-- A number from zero to one that fits. -/
structure Unit (a : Decimal) : Prop where
  amount : a.Amount
  le_one : a.toRat ≤ 1

theorem unit_zero : Unit zero := ⟨amount_zero, by rw [toRat_zero]; norm_num⟩

theorem unit_one : Unit one := ⟨amount_one, toRat_one.le⟩

theorem max?_cases (finiteA : a.isFinite) (finiteB : b.isFinite) :
    ∃ r, a.max? b = .ok r ∧ (r = a ∨ r = b) ∧ a.toRat ≤ r.toRat ∧ b.toRat ≤ r.toRat := by
  rw [max?, lt?_eq finiteA finiteB]
  by_cases less : a.toRat < b.toRat
  · rw [decide_eq_true less]
    exact ⟨b, rfl, Or.inr rfl, less.le, le_rfl⟩
  · rw [decide_eq_false less]
    exact ⟨a, rfl, Or.inl rfl, le_rfl, not_lt.mp less⟩

theorem min?_cases (finiteA : a.isFinite) (finiteB : b.isFinite) :
    ∃ r, a.min? b = .ok r ∧ (r = a ∨ r = b) := by
  rw [min?, lt?_eq finiteB finiteA]
  by_cases less : b.toRat < a.toRat
  · rw [decide_eq_true less]
    exact ⟨b, rfl, Or.inr rfl⟩
  · rw [decide_eq_false less]
    exact ⟨a, rfl, Or.inl rfl⟩

/-- One less an amount, but not below zero. -/
theorem Amount.complement (amount : a.Amount) :
    ∃ rest r, one.sub a = .ok rest ∧ zero.max? rest = .ok r ∧ rest.Fits ∧ Unit r := by
  obtain ⟨rest, subtracted, rounds⟩ := amount_one.sub_eq_ok amount
  obtain ⟨r, done, which, notBelow, -⟩ := max?_cases fits_zero.isFinite rounds.isFinite
  rw [toRat_zero] at notBelow
  have restLe : rest.toRat ≤ 1 := by
    refine rounds.le_of_le representable_one ?_
    rw [toRat_one]
    linarith [amount.nonneg]
  refine ⟨rest, r, subtracted, done, rounds.fits, ?_⟩
  rcases which with rfl | rfl
  · exact unit_zero
  · exact ⟨⟨rounds.fits, notBelow⟩, restLe⟩

theorem clamp_eq_ok {value high : Decimal} (fits : value.Fits) (within : Unit high) :
    ∃ r, Matching.clamp value .zero high = .ok r ∧ Unit r := by
  obtain ⟨inner, least, whichInner⟩ := min?_cases within.amount.fits.isFinite fits.isFinite
  have innerFits : inner.Fits := by
    rcases whichInner with rfl | rfl
    · exact within.amount.fits
    · exact fits
  obtain ⟨r, greatest, whichOuter, -⟩ := max?_cases fits_zero.isFinite innerFits.isFinite
  have done : Matching.clamp value .zero high = .ok r := (bind_of_ok least).trans greatest
  have between := clamp_within within.amount.fits.isFinite within.amount.nonneg done
  refine ⟨r, done, ⟨?_, between.nonneg⟩, between.le.trans within.le_one⟩
  rcases whichOuter with rfl | rfl
  · exact fits_zero
  · exact innerFits

theorem clamp_of_finite {value high : Decimal} (finite : value.isFinite)
    (finiteHigh : high.isFinite) : ∃ r, Matching.clamp value .zero high = .ok r := by
  obtain ⟨inner, least, which⟩ := min?_cases finiteHigh finite
  have finiteInner : inner.isFinite := by
    rcases which with rfl | rfl
    · exact finiteHigh
    · exact finite
  obtain ⟨r, greatest, -⟩ := max?_cases fits_zero.isFinite finiteInner
  exact ⟨r, (bind_of_ok least).trans greatest⟩

theorem ofInt_fits {n : ℤ} (few : n.natAbs < tenTo precision) : (ofInt n).Fits := by
  have digits : digitCount n.natAbs ≤ precision := digitCount_le_iff.mpr few
  refine Fits.of_inRange ⟨digits, by decide, ?_⟩ _
  have wide : (precision : ℤ) ≤ maxExponent := by decide
  omega

theorem toRat_ofInt (n : ℤ) : (ofInt n).toRat = n := by
  rw [ofInt, toRat_natAbs, zpow_zero, mul_one]

end Decimal

namespace Matching

open Decimal (Unit)

variable {deposit : Deposit} {intent : Intent}

theorem amountScore_cases (declared : intent.amount.Amount) (actual : deposit.amount.Amount) :
    (intent.Outgrown deposit ∧
      (∃ fault, amountScore intent.amount deposit.amount = .error fault)) ∨
    (¬ intent.Outgrown deposit ∧
      (∃ score, amountScore intent.amount deposit.amount = .ok score ∧ Unit score) ∧
      ∃ gap, amountGap intent.amount deposit.amount = .ok gap ∧ gap.Amount) := by
  rcases amountGap_cases declared actual with ⟨great, fault, failed⟩ | ⟨small, gap, done, amount⟩
  · exact Or.inl ⟨great, fault, bind_of_error failed⟩
  · obtain ⟨rest, score, subtracted, kept, -, unit⟩ := amount.complement
    refine Or.inr ⟨not_le.mpr small, ⟨score, ?_, unit⟩, gap, done, amount⟩
    exact (bind_of_ok done).trans ((bind_of_ok subtracted).trans kept)

theorem amountScore_unit {score : Decimal} (declared : intent.amount.Amount)
    (actual : deposit.amount.Amount)
    (done : amountScore intent.amount deposit.amount = .ok score) : Unit score := by
  rcases amountScore_cases declared actual with
    ⟨-, fault, failed⟩ | ⟨-, ⟨found, made, unit⟩, -⟩
  · rw [failed] at done
    cases done
  · cases made.symm.trans done
    exact unit

/-- Times of which each can be compared with the others: clocks show them, and all of them go with
a zone or none. -/
structure Timed (created expires confirmed : Timestamp) : Prop where
  shownCreated : created.Shown
  shownExpires : expires.Shown
  shownConfirmed : confirmed.Shown
  lasting : expires.sameKind created = true
  since : confirmed.sameKind created = true

theorem span_le : Timestamp.span ≤ tenTo Decimal.precision := by decide

theorem timeLeft_eq_ok {elapsed window : ℤ} (few : elapsed.natAbs < tenTo Decimal.precision)
    (fewer : window.natAbs < tenTo Decimal.precision) (positive : 0 < window) :
    ∃ score, timeLeft elapsed window = .ok score ∧ Unit score := by
  have fits := Decimal.ofInt_fits few
  have windowFits := Decimal.ofInt_fits fewer
  obtain ⟨passed, greatest, which, notBelow, -⟩ :=
    Decimal.max?_cases Decimal.fits_zero.isFinite fits.isFinite
  rw [Decimal.toRat_zero] at notBelow
  have passedFits : passed.Fits := by
    rcases which with rfl | rfl
    · exact Decimal.fits_zero
    · exact fits
  have length : (1 : ℚ) ≤ window := by exact_mod_cast positive
  have value : (Decimal.ofInt window).toRat = window := Decimal.toRat_ofInt window
  have quotient : 0 ≤ passed.toRat / window := div_nonneg notBelow (by linarith)
  have small : |passed.toRat / (Decimal.ofInt window).toRat| < limit := by
    rw [value, abs_of_nonneg quotient]
    exact (div_le_self notBelow length).trans_lt passedFits.lt_limit
  have some : (Decimal.ofInt window).toRat ≠ 0 := by
    rw [value]
    linarith
  obtain ⟨part, divided, rounds⟩ :=
    (Decimal.div_evaluates passedFits.isFinite windowFits.isFinite some).eq_ok small
  rw [value] at rounds
  obtain ⟨rest, -, subtracted, -, restFits, -⟩ := (rounds.amount quotient).complement
  obtain ⟨score, clamped, unit⟩ := Decimal.clamp_eq_ok restFits Decimal.unit_one
  refine ⟨score, ?_, unit⟩
  exact (bind_of_ok greatest).trans
    ((bind_of_ok divided).trans ((bind_of_ok subtracted).trans clamped))

section Times

variable {created expires confirmed : Timestamp} (timed : Timed created expires confirmed)
include timed

/-- An intent that lasts for some time is measured by the part of its window that is left. -/
theorem timeScore_eq_timeLeft (lasts : created.instant < expires.instant) :
    timeScore created expires confirmed = liftDecimal
      (timeLeft (confirmed.instant - created.instant) (expires.instant - created.instant)) := by
  have lasting : ¬ expires.instant - created.instant ≤ 0 := by omega
  refine (bind_of_ok (liftClock_eq_ok.mpr (Timestamp.minus?_of_alike timed.lasting))).trans ?_
  rw [if_neg lasting]
  exact bind_of_ok (liftClock_eq_ok.mpr (Timestamp.minus?_of_alike timed.since))

/-- One that expires before it begins is out of time. -/
theorem timeScore_of_closed (closed : expires.instant ≤ created.instant) :
    timeScore created expires confirmed = .ok .zero := by
  refine (bind_of_ok (liftClock_eq_ok.mpr (Timestamp.minus?_of_alike timed.lasting))).trans ?_
  rw [if_pos (by omega)]
  rfl

theorem timeScore_eq_ok :
    ∃ score, timeScore created expires confirmed = .ok score ∧ Unit score := by
  rcases lt_or_ge created.instant expires.instant with lasts | closed
  · have few := (timed.shownConfirmed.near timed.shownCreated).trans_le span_le
    have fewer := (timed.shownExpires.near timed.shownCreated).trans_le span_le
    obtain ⟨score, done, unit⟩ := timeLeft_eq_ok few fewer (by omega)
    refine ⟨score, ?_, unit⟩
    rw [timeScore_eq_timeLeft timed lasts, done]
    rfl
  · exact ⟨.zero, timeScore_of_closed timed closed, Decimal.unit_zero⟩

end Times

theorem timed_of_aware {created expires confirmed : Timestamp} (first : created.Aware)
    (second : expires.Aware) (third : confirmed.Aware) : Timed created expires confirmed :=
  ⟨first.shown, second.shown, third.shown, second.sameKind first, third.sameKind first⟩

theorem timed_of_moments {created expires confirmed : Timestamp}
    (first : Column.moment created = .ok created) (second : Column.moment expires = .ok expires)
    (third : Column.moment confirmed = .ok confirmed) : Timed created expires confirmed :=
  timed_of_aware (Timestamp.aware_of_moment first) (Timestamp.aware_of_moment second)
    (Timestamp.aware_of_moment third)

end Matching

/-- The policy is accepted, and its weights are numbers as arithmetic returns them or zero. -/
structure Policy.Weighs (policy : Policy) : Prop where
  accepted : policy.check = .ok ()
  amountWeight : policy.amountWeight.Plain
  timeWeight : policy.timeWeight.Plain

/-- The weights of the policy are numbers as arithmetic returns them, and its other values have a
place in the order of numbers. -/
structure Policy.Regular (policy : Policy) : Prop where
  accepted : policy.check = .ok ()
  amountWeight : policy.amountWeight.Fits
  timeWeight : policy.timeWeight.Fits
  tieDelta : policy.tieDelta.isNan = false
  tolerance : ∃ tolerance, policy.tolerance = .ok tolerance

namespace Policy

variable {policy : Policy}

theorem Regular.capped (regular : policy.Regular) : policy.Capped :=
  capped_of_check regular.accepted

theorem Regular.weighs (regular : policy.Regular) : policy.Weighs :=
  ⟨regular.accepted, .of_fits regular.amountWeight, .of_fits regular.timeWeight⟩

theorem weights_nonneg (accepted : policy.check = .ok ()) (finiteA : policy.amountWeight.isFinite)
    (finiteT : policy.timeWeight.isFinite) :
    0 ≤ policy.amountWeight.toRat ∧ 0 ≤ policy.timeWeight.toRat := by
  obtain ⟨signs, -⟩ := check_eq_ok accepted
  unfold hasNegativeWeight at signs
  rw [Decimal.lt?_eq finiteA rfl, Decimal.lt?_eq finiteT rfl, Decimal.toRat_zero] at signs
  by_cases below : policy.amountWeight.toRat < 0
  · rw [decide_eq_true below] at signs
    cases signs
  · rw [decide_eq_false below] at signs
    exact ⟨not_lt.mp below, not_lt.mp (of_decide_eq_false (Except.ok.inj signs))⟩

theorem weight_pos (accepted : policy.check = .ok ()) {weight : Decimal}
    (added : policy.amountWeight.add policy.timeWeight = .ok weight) (finite : weight.isFinite) :
    0 < weight.toRat := by
  obtain ⟨-, ⟨sum, summed, compared⟩, -⟩ := check_eq_ok accepted
  obtain rfl : sum = weight := Except.ok.inj (summed.symm.trans added)
  rw [Decimal.le?_eq finite rfl, Decimal.toRat_zero] at compared
  exact not_le.mp (of_decide_eq_false (Except.ok.inj compared))

theorem Weighs.weight (weighs : policy.Weighs) :
    ∃ weight, policy.amountWeight.add policy.timeWeight = .ok weight ∧ 0 < weight.toRat ∧
      policy.amountWeight.toRat + policy.timeWeight.toRat < limit ∧
      Rounds (policy.amountWeight.toRat + policy.timeWeight.toRat) weight := by
  obtain ⟨nonnegA, nonnegT⟩ := weights_nonneg weighs.accepted weighs.amountWeight.isFinite
    weighs.timeWeight.isFinite
  obtain ⟨-, ⟨weight, added, -⟩, -⟩ := check_eq_ok weighs.accepted
  rcases (weighs.amountWeight.add_settled weighs.timeWeight).evaluates with
    ⟨-, failed⟩ | ⟨below, sum, done, rounds⟩
  · rw [failed] at added
    cases added
  · rw [abs_of_nonneg (add_nonneg nonnegA nonnegT)] at below
    exact ⟨sum, done, weight_pos weighs.accepted done rounds.isFinite, below, rounds⟩

theorem tolerance_evaluates (policy : Policy) :
    Decimal.Evaluates policy.tolerance (policy.toleranceBps / 10000) := by
  have evaluates := Decimal.div_evaluates (a := .ofInt policy.toleranceBps) (b := .ofInt 10000)
    rfl rfl (by norm_num [Decimal.toRat_ofInt])
  rwa [Decimal.toRat_ofInt, Decimal.toRat_ofInt] at evaluates

theorem tolerance_isFinite {bound : Decimal} (done : policy.tolerance = .ok bound) :
    bound.isFinite = true := by
  rcases policy.tolerance_evaluates with ⟨-, failed⟩ | ⟨-, quotient, divided, rounds⟩
  · rw [failed] at done
    cases done
  · cases divided.symm.trans done
    exact rounds.isFinite

theorem usual_regular : usual.Regular := by
  refine ⟨rfl, Decimal.fits_one, Decimal.fits_one, rfl, ⟨.finite false (5 * 10 ^ 27) (-30), ?_⟩⟩
  decide +kernel

theorem regular_of_usual (usual : policy = .usual) : policy.Regular := usual ▸ usual_regular

end Policy

namespace Matching

open Decimal (Unit)

variable {policy : Policy} {deposit : Deposit} {intent : Intent}

/-- A weight times a number between zero and one is at most the weight. -/
theorem weighted_eq_ok {weight part : Decimal} (plain : weight.Plain) (positive : 0 ≤ weight.toRat)
    (unit : Unit part) :
    ∃ product, weight.mul part = .ok product ∧ product.Amount ∧
      product.toRat ≤ weight.toRat := by
  have nonneg := mul_nonneg positive unit.amount.nonneg
  have le : weight.toRat * part.toRat ≤ weight.toRat :=
    mul_le_of_le_one_right positive unit.le_one
  obtain ⟨product, done, rounds⟩ :=
    (Decimal.mul_evaluates plain.isFinite unit.amount.fits.isFinite).eq_ok (by
      rw [abs_of_nonneg nonneg]
      exact le.trans_lt ((le_abs_self _).trans_lt plain.representable.abs_lt))
  exact ⟨product, done, rounds.amount nonneg, rounds.le_of_le plain.representable le⟩

theorem blend_eq_ok (weighs : policy.Weighs) {amount time : Decimal} (first : Unit amount)
    (second : Unit time) : ∃ mean, blend policy amount time = .ok mean ∧ mean.isFinite = true := by
  obtain ⟨nonnegA, nonnegT⟩ := Policy.weights_nonneg weighs.accepted weighs.amountWeight.isFinite
    weighs.timeWeight.isFinite
  obtain ⟨weight, added, positive, below, weightRounds⟩ := weighs.weight
  obtain ⟨left, leftDone, leftAmount, leftLe⟩ := weighted_eq_ok weighs.amountWeight nonnegA first
  obtain ⟨right, rightDone, rightAmount, rightLe⟩ :=
    weighted_eq_ok weighs.timeWeight nonnegT second
  have nonneg := add_nonneg leftAmount.nonneg rightAmount.nonneg
  have total : |left.toRat + right.toRat| < limit := by
    rw [abs_of_nonneg nonneg]
    linarith
  obtain ⟨sum, sumDone, sumRounds⟩ :=
    (Decimal.add_evaluates leftAmount.fits rightAmount.fits).eq_ok total
  -- Rounding at most doubles the sum, and it leaves no less than the greater of the weights.
  have double : sum.toRat ≤ 2 * (left.toRat + right.toRat) := by
    have close := sumRounds.nearest 0 Decimal.representable_zero
    rw [sub_zero, abs_of_nonneg nonneg, abs_sub_comm] at close
    linarith [le_abs_self (sum.toRat - (left.toRat + right.toRat))]
  have half : policy.amountWeight.toRat + policy.timeWeight.toRat ≤ 2 * weight.toRat := by
    have leastA := weightRounds.ge_of_ge weighs.amountWeight.representable
      (le_add_of_nonneg_right nonnegT)
    have leastT := weightRounds.ge_of_ge weighs.timeWeight.representable
      (le_add_of_nonneg_left nonnegA)
    linarith
  have quotient : |sum.toRat / weight.toRat| < limit := by
    have ten : (10 : ℚ) ^ (1 : ℤ) ≤ 10 ^ Decimal.maxExponent := Decimal.ten_mono (by decide)
    rw [zpow_one] at ten
    rw [abs_of_nonneg (div_nonneg (sumRounds.nonneg nonneg) positive.le), div_lt_iff₀ positive]
    have four : 4 * weight.toRat < limit * weight.toRat :=
      mul_lt_mul_of_pos_right (by linarith [Decimal.lt_limit]) positive
    linarith
  obtain ⟨mean, divided, meanRounds⟩ :=
    (Decimal.div_evaluates sumRounds.isFinite weightRounds.isFinite positive.ne').eq_ok quotient
  refine ⟨mean, ?_, meanRounds.isFinite⟩
  exact (bind_of_ok added).trans ((bind_of_ok leftDone).trans
    ((bind_of_ok rightDone).trans ((bind_of_ok sumDone).trans divided)))

theorem score_of_parts {amount time mean worth : Decimal} {eligible : Bool}
    (amounts : amountScore intent.amount deposit.amount = .ok amount)
    (times : timeScore intent.created intent.expires deposit.confirmed = .ok time)
    (blended : blend policy amount time = .ok mean)
    (tolerated : withinTolerance policy intent.amount deposit.amount = .ok eligible)
    (clamped : clamp mean .zero policy.inferredCap = .ok worth) :
    score policy deposit intent = .ok ⟨intent, eligible, amount, time, worth⟩ :=
  (bind_of_ok (liftDecimal_eq_ok.mpr amounts)).trans
    ((bind_of_ok times).trans ((bind_of_ok (liftDecimal_eq_ok.mpr blended)).trans
      ((bind_of_ok (liftDecimal_eq_ok.mpr tolerated)).trans
        (bind_of_ok (liftDecimal_eq_ok.mpr clamped)))))

theorem score_cases_of_timed (weighs : policy.Weighs)
    (bounded : ∃ tolerance, policy.tolerance = .ok tolerance) (declared : intent.amount.Amount)
    (actual : deposit.amount.Amount)
    (timed : Timed intent.created intent.expires deposit.confirmed) :
    (intent.Outgrown deposit ∧ ∃ fault, score policy deposit intent = .error (.decimal fault)) ∨
    (¬ intent.Outgrown deposit ∧ ∃ scored, score policy deposit intent = .ok scored) := by
  rcases amountScore_cases declared actual with
    ⟨great, fault, failed⟩ | ⟨small, ⟨amount, scoredAmount, amountUnit⟩, gap, gapDone, gapAmount⟩
  · refine Or.inl ⟨great, fault, bind_of_error ?_⟩
    rw [failed]
    rfl
  · obtain ⟨time, scoredTime, timeUnit⟩ := timeScore_eq_ok timed
    obtain ⟨mean, blended, meanFinite⟩ := blend_eq_ok weighs amountUnit timeUnit
    obtain ⟨worth, clamped⟩ := Decimal.clamp_of_finite meanFinite
      (Policy.capped_of_check weighs.accepted).isFinite
    obtain ⟨tolerance, divided⟩ := bounded
    obtain ⟨eligible, tolerated⟩ : ∃ eligible,
        withinTolerance policy intent.amount deposit.amount = .ok eligible :=
      ⟨_, (bind_of_ok gapDone).trans ((bind_of_ok divided).trans
        (Decimal.le?_eq gapAmount.fits.isFinite (Policy.tolerance_isFinite divided)))⟩
    exact Or.inr ⟨small, _, score_of_parts scoredAmount scoredTime blended tolerated clamped⟩

theorem score_cases (regular : policy.Regular) (kept : intent.Kept)
    (actual : deposit.amount.Amount)
    (confirmed : Column.moment deposit.confirmed = .ok deposit.confirmed) :
    (intent.Outgrown deposit ∧ ∃ fault, score policy deposit intent = .error (.decimal fault)) ∨
    (¬ intent.Outgrown deposit ∧ ∃ scored, score policy deposit intent = .ok scored) :=
  score_cases_of_timed regular.weighs regular.tolerance kept.amount actual
    (timed_of_moments kept.created kept.expires confirmed)

theorem scoreAll_cases (regular : policy.Regular) (actual : deposit.amount.Amount)
    (confirmed : Column.moment deposit.confirmed = .ok deposit.confirmed) {intents : List Intent}
    (kept : ∀ intent ∈ intents, intent.Kept) :
    ((∃ intent ∈ intents, intent.Outgrown deposit) ∧
      ∃ fault, scoreAll policy deposit intents = .error (.decimal fault)) ∨
    ((∀ intent ∈ intents, ¬ intent.Outgrown deposit) ∧
      ∃ scored, scoreAll policy deposit intents = .ok scored) := by
  induction intents with
  | nil => exact Or.inr ⟨by simp, [], rfl⟩
  | cons intent rest ih =>
    have opened : scoreAll policy deposit (intent :: rest) = (do
        let first ← score policy deposit intent
        let others ← scoreAll policy deposit rest
        return first :: others) := List.mapM_cons
    rw [opened]
    rcases score_cases regular (kept intent List.mem_cons_self) actual confirmed with
      ⟨great, fault, failed⟩ | ⟨small, scored, done⟩
    · exact Or.inl ⟨⟨intent, List.mem_cons_self, great⟩, fault, bind_of_error failed⟩
    · rw [bind_of_ok done]
      rcases ih fun other member => kept other (List.mem_cons_of_mem intent member) with
        ⟨⟨other, member, great⟩, fault, failed⟩ | ⟨none, others, made⟩
      · exact Or.inl ⟨⟨other, List.mem_cons_of_mem intent member, great⟩, fault,
          bind_of_error failed⟩
      · exact Or.inr ⟨List.forall_mem_cons.mpr ⟨small, none⟩, scored :: others,
          bind_of_ok made⟩

end Matching

end Reconcile
