import Reconcile.Proofs.Decimal.Monotone
import Reconcile.Proofs.Matching.Clarity

set_option autoImplicit false

/-
The farther a deposit is from an intent, the less the match is worth. Every step of a score keeps
the order of its exact values through its rounding, so a greater gap between the amounts or a later
confirmation never raises the score, and with it never the confidence of a match without rivals.
-/
namespace Reconcile

open Decimal (limit)

namespace Decimal

section Bounds

variable {value low high r : Decimal}

theorem clamp_toRat (finite : value.isFinite) (finiteLow : low.isFinite)
    (finiteHigh : high.isFinite) (done : Matching.clamp value low high = .ok r) :
    r.isFinite ∧ r.toRat = max low.toRat (min high.toRat value.toRat) := by
  obtain ⟨inner, least, greatest⟩ := bind_eq_ok.mp done
  obtain ⟨finiteInner, innerValue⟩ := min?_toRat finiteHigh finite least
  obtain ⟨finiteR, outerValue⟩ := max?_toRat finiteLow finiteInner greatest
  refine ⟨finiteR, ?_⟩
  rw [outerValue, innerValue]

theorem clamp_mono {other s : Decimal} (finite : value.isFinite) (finiteOther : other.isFinite)
    (finiteLow : low.isFinite) (finiteHigh : high.isFinite) (le : value.toRat ≤ other.toRat)
    (done : Matching.clamp value low high = .ok r)
    (also : Matching.clamp other low high = .ok s) : r.toRat ≤ s.toRat := by
  rw [(clamp_toRat finite finiteLow finiteHigh done).2,
    (clamp_toRat finiteOther finiteLow finiteHigh also).2]
  exact max_le_max_left _ (min_le_min_left _ le)

end Bounds

theorem complement_rounds {a r : Decimal} (fits : a.Fits) (done : one.sub a = .ok r) :
    Rounds (1 - a.toRat) r := by
  have rounds := (sub_settled fits_one fits).rounds done
  rwa [toRat_one] at rounds

theorem complement_nonpos {a r : Decimal} (fits : a.Fits) (whole : 1 ≤ a.toRat)
    (done : one.sub a = .ok r) : r.toRat ≤ 0 :=
  (complement_rounds fits done).le_of_le representable_zero (by linarith)

theorem complement_antitone {a b r s : Decimal} (fitsA : a.Fits) (fitsB : b.Fits)
    (le : a.toRat ≤ b.toRat) (done : one.sub a = .ok r) (also : one.sub b = .ok s) :
    s.toRat ≤ r.toRat :=
  (sub_settled fits_one fitsB).mono (sub_settled fits_one fitsA) (sub_le_sub_left le _) also done

end Decimal

namespace Matching

section Gaps

variable {declared near far gap wider : Decimal} (fits : declared.Fits) (fitsN : near.Fits)
  (fitsF : far.Fits) (positive : 0 < declared.toRat)
  (further : |declared.toRat - near.toRat| ≤ |declared.toRat - far.toRat|)
include fits fitsN positive

/-- The gap is the size of a rounded difference, divided and rounded once more. -/
theorem amountGap_settled (done : amountGap declared near = .ok gap) :
    ∃ difference, declared.sub near = .ok difference ∧
      Decimal.Settled (.ok gap) (|difference.toRat| / declared.toRat) := by
  obtain ⟨difference, subtracted, done⟩ := bind_eq_ok.mp done
  obtain ⟨size, sized, divided⟩ := bind_eq_ok.mp done
  have rounds := (Decimal.sub_settled fits fitsN).rounds subtracted
  obtain ⟨found, made, fitsSize, value⟩ := rounds.fits.abs_eq_ok
  obtain rfl : found = size := Except.ok.inj (made.symm.trans sized)
  have settled := Decimal.div_settled fitsSize.isFinite fits.isFinite positive.ne'
  rw [divided, value] at settled
  exact ⟨difference, subtracted, settled⟩

include fitsF further

theorem amountGap_mono (done : amountGap declared near = .ok gap)
    (also : amountGap declared far = .ok wider) :
    gap.Fits ∧ wider.Fits ∧ gap.toRat ≤ wider.toRat := by
  obtain ⟨first, firstDone, firstGap⟩ := amountGap_settled fits fitsN positive done
  obtain ⟨second, secondDone, secondGap⟩ := amountGap_settled fits fitsF positive also
  have sizes : |first.toRat| ≤ |second.toRat| :=
    (Decimal.sub_settled fits fitsN).abs_mono (Decimal.sub_settled fits fitsF) further firstDone
      secondDone
  have parts : |first.toRat| / declared.toRat ≤ |second.toRat| / declared.toRat :=
    div_le_div_of_nonneg_right sizes positive.le
  exact ⟨(firstGap.rounds rfl).fits, (secondGap.rounds rfl).fits,
    firstGap.mono secondGap parts rfl rfl⟩

theorem amountScore_antitone {score lower : Decimal} (done : amountScore declared near = .ok score)
    (also : amountScore declared far = .ok lower) :
    score.isFinite ∧ lower.isFinite ∧ lower.toRat ≤ score.toRat := by
  obtain ⟨gap, measured, done⟩ := bind_eq_ok.mp done
  obtain ⟨rest, subtracted, greatest⟩ := bind_eq_ok.mp done
  obtain ⟨wider, found, also⟩ := bind_eq_ok.mp also
  obtain ⟨less, taken, most⟩ := bind_eq_ok.mp also
  obtain ⟨fitsGap, fitsWider, le⟩ := amountGap_mono fits fitsN fitsF positive further measured found
  have order := Decimal.complement_antitone fitsGap fitsWider le subtracted taken
  have finiteRest := (Decimal.complement_rounds fitsGap subtracted).isFinite
  have finiteLess := (Decimal.complement_rounds fitsWider taken).isFinite
  obtain ⟨finite, value⟩ := Decimal.max?_toRat rfl finiteRest greatest
  obtain ⟨finiteLower, lowerValue⟩ := Decimal.max?_toRat rfl finiteLess most
  refine ⟨finite, finiteLower, ?_⟩
  rw [value, lowerValue]
  exact max_le_max_left _ order

end Gaps

section Times

variable {elapsed later window : ℤ} {score lower : Decimal}

/-- The part of the window that has passed, if it has a value. -/
theorem timeLeft_settled (lasts : 0 < window) (done : timeLeft elapsed window = .ok score) :
    ∃ part rest : Decimal,
      Decimal.Settled (.ok part) (max 0 (elapsed : ℚ) / window) ∧ Decimal.one.sub part = .ok rest ∧
      clamp rest .zero .one = .ok score := by
  obtain ⟨passed, greatest, done⟩ := bind_eq_ok.mp done
  obtain ⟨part, divided, done⟩ := bind_eq_ok.mp done
  obtain ⟨rest, subtracted, clamped⟩ := bind_eq_ok.mp done
  have finiteElapsed : (Decimal.ofInt elapsed).isFinite = true := rfl
  have finiteWindow : (Decimal.ofInt window).isFinite = true := rfl
  obtain ⟨finite, value⟩ := Decimal.max?_toRat rfl finiteElapsed greatest
  rw [Decimal.toRat_zero, Decimal.toRat_ofInt] at value
  have some : (Decimal.ofInt window).toRat ≠ 0 := by
    rw [Decimal.toRat_ofInt]
    exact_mod_cast lasts.ne'
  have settled := Decimal.div_settled finite finiteWindow some
  rw [divided, value, Decimal.toRat_ofInt] at settled
  exact ⟨part, rest, settled, subtracted, clamped⟩

theorem timeLeft_antitone (lasts : 0 < window) (after : elapsed ≤ later)
    (done : timeLeft elapsed window = .ok score) (also : timeLeft later window = .ok lower) :
    score.isFinite ∧ lower.isFinite ∧ lower.toRat ≤ score.toRat := by
  obtain ⟨part, rest, settled, subtracted, clamped⟩ := timeLeft_settled lasts done
  obtain ⟨more, less, settledMore, taken, kept⟩ := timeLeft_settled lasts also
  have length : (0 : ℚ) < window := by exact_mod_cast lasts
  have passed : max 0 (elapsed : ℚ) / window ≤ max 0 (later : ℚ) / window :=
    div_le_div_of_nonneg_right (max_le_max_left 0 (by exact_mod_cast after)) length.le
  have fits := (settled.rounds rfl).fits
  have fitsMore := (settledMore.rounds rfl).fits
  have order := Decimal.complement_antitone fits fitsMore
    (settled.mono settledMore passed rfl rfl) subtracted taken
  have finiteRest := (Decimal.complement_rounds fits subtracted).isFinite
  have finiteLess := (Decimal.complement_rounds fitsMore taken).isFinite
  exact ⟨(Decimal.clamp_toRat finiteRest rfl rfl clamped).1,
    (Decimal.clamp_toRat finiteLess rfl rfl kept).1,
    Decimal.clamp_mono finiteLess finiteRest rfl rfl order kept clamped⟩

end Times

section Means

variable {policy : Policy} (accepted : policy.check = .ok ())
  (finiteA : policy.amountWeight.isFinite) (finiteT : policy.timeWeight.isFinite)
include accepted finiteA finiteT

/-- The products, their sum and the mean are each rounded once. -/
theorem blend_settled {amount time mean : Decimal} (numberA : amount.isFinite)
    (numberT : time.isFinite) (done : blend policy amount time = .ok mean) :
    ∃ weight left right sum : Decimal,
      policy.amountWeight.add policy.timeWeight = .ok weight ∧ 0 < weight.toRat ∧
      Decimal.Settled (.ok left) (policy.amountWeight.toRat * amount.toRat) ∧
      Decimal.Settled (.ok right) (policy.timeWeight.toRat * time.toRat) ∧
      Decimal.Settled (.ok sum) (left.toRat + right.toRat) ∧
      Decimal.Settled (.ok mean) (sum.toRat / weight.toRat) := by
  obtain ⟨weight, added, done⟩ := bind_eq_ok.mp done
  obtain ⟨left, leftDone, done⟩ := bind_eq_ok.mp done
  obtain ⟨right, rightDone, done⟩ := bind_eq_ok.mp done
  obtain ⟨sum, sumDone, divided⟩ := bind_eq_ok.mp done
  have finite := Decimal.add_isFinite finiteA finiteT added
  have positive := Policy.weight_pos accepted added finite
  have leftSettled := Decimal.mul_settled finiteA numberA
  have rightSettled := Decimal.mul_settled finiteT numberT
  rw [leftDone] at leftSettled
  rw [rightDone] at rightSettled
  have sumSettled :=
    Decimal.add_settled (leftSettled.rounds rfl).fits (rightSettled.rounds rfl).fits
  rw [sumDone] at sumSettled
  have meanSettled := Decimal.div_settled (sumSettled.rounds rfl).isFinite finite positive.ne'
  rw [divided] at meanSettled
  exact ⟨weight, left, right, sum, added, positive, leftSettled, rightSettled, sumSettled,
    meanSettled⟩

theorem blend_mono {amount time less sooner mean lower : Decimal} (numberA : amount.isFinite)
    (numberT : time.isFinite) (otherA : less.isFinite) (otherT : sooner.isFinite)
    (amounts : less.toRat ≤ amount.toRat) (times : sooner.toRat ≤ time.toRat)
    (done : blend policy amount time = .ok mean) (also : blend policy less sooner = .ok lower) :
    mean.isFinite ∧ lower.isFinite ∧ lower.toRat ≤ mean.toRat := by
  obtain ⟨nonnegA, nonnegT⟩ := Policy.weights_nonneg accepted finiteA finiteT
  obtain ⟨weight, left, right, sum, added, positive, leftRounds, rightRounds, sumRounds,
    meanRounds⟩ := blend_settled accepted finiteA finiteT numberA numberT done
  obtain ⟨again, first, second, total, weighed, -, firstRounds, secondRounds, totalRounds,
    lowerRounds⟩ := blend_settled accepted finiteA finiteT otherA otherT also
  obtain rfl : again = weight := Except.ok.inj (weighed.symm.trans added)
  have amountPart : first.toRat ≤ left.toRat :=
    firstRounds.mono leftRounds (mul_le_mul_of_nonneg_left amounts nonnegA) rfl rfl
  have timePart : second.toRat ≤ right.toRat :=
    secondRounds.mono rightRounds (mul_le_mul_of_nonneg_left times nonnegT) rfl rfl
  have sums : total.toRat ≤ sum.toRat :=
    totalRounds.mono sumRounds (add_le_add amountPart timePart) rfl rfl
  exact ⟨(meanRounds.rounds rfl).isFinite, (lowerRounds.rounds rfl).isFinite,
    lowerRounds.mono meanRounds (div_le_div_of_nonneg_right sums positive.le) rfl rfl⟩

end Means

/-- A deposit is no nearer to an intent than another: the gap between the amounts is no less, and it
was confirmed no earlier. -/
structure Farther (intent : Intent) (near far : Deposit) : Prop where
  amount : |intent.amount.toRat - near.amount.toRat| ≤ |intent.amount.toRat - far.amount.toRat|
  confirmed : near.confirmed.instant ≤ far.confirmed.instant

section Scores

variable {policy : Policy} {intent : Intent} {near far : Deposit} {each other : Scored}

theorem score_antitone (accepted : policy.check = .ok ()) (finiteA : policy.amountWeight.isFinite)
    (finiteT : policy.timeWeight.isFinite) (lasts : intent.created.instant < intent.expires.instant)
    (fits : intent.amount.Fits) (positive : 0 < intent.amount.toRat) (fitsN : near.amount.Fits)
    (fitsF : far.amount.Fits) (farther : Farther intent near far)
    (done : score policy near intent = .ok each) (also : score policy far intent = .ok other) :
    other.score.toRat ≤ each.score.toRat := by
  have window : 0 < intent.expires.instant - intent.created.instant := by omega
  have later : near.confirmed.instant - intent.created.instant ≤
      far.confirmed.instant - intent.created.instant := by
    have confirmed := farther.confirmed
    omega
  obtain ⟨-, -, amountDone, mean, blended, clamped⟩ := score_eq_ok done
  obtain ⟨-, -, otherAmount, lower, otherBlended, otherClamped⟩ := score_eq_ok also
  obtain ⟨-, timeDone⟩ := timeScore_of_window lasts (timeScore_of_score done)
  obtain ⟨-, otherTime⟩ := timeScore_of_window lasts (timeScore_of_score also)
  obtain ⟨numberA, lessA, amounts⟩ :=
    amountScore_antitone fits fitsN fitsF positive farther.amount amountDone otherAmount
  obtain ⟨numberT, lessT, times⟩ := timeLeft_antitone window later timeDone otherTime
  obtain ⟨finiteMean, finiteLower, means⟩ := blend_mono accepted finiteA finiteT numberA numberT
    lessA lessT amounts times blended otherBlended
  exact Decimal.clamp_mono finiteLower finiteMean rfl (Policy.capped_of_check accepted).isFinite
    means otherClamped clamped

/-- A match without rivals is worth the whole ten thousandths of its score. -/
theorem select_singleton (capped : policy.Capped) (number : policy.tieDelta.isNan = false)
    (bounded : each.Bounded policy) (passes : each.eligible = true) :
    ∃ selection, select policy [each] = .ok (some selection) ∧ selection.winner = each ∧
      selection.confidence.toRat = (⌊each.score.toRat * 10000⌋₊ : ℚ) / 10000 := by
  have candidates : eligible [each] = [each] := List.filter_cons_of_pos passes
  have alike : ∀ a ∈ eligible [each], ∀ b ∈ eligible [each],
      a.intent.created.sameKind b.intent.created = true := by
    intro a first b second
    rw [candidates, List.mem_singleton] at first second
    rw [first, second, Timestamp.sameKind_iff]
  rcases select_cases capped number (List.forall_mem_singleton.mpr bounded) alike with
    ⟨empty, -⟩ | ⟨selection, leader, chosen, choice⟩
  · rw [candidates] at empty
    cases empty
  · have member := (mem_tied.mp choice.oldest.member).1
    rw [candidates] at choice member
    have same := List.mem_singleton.mp member
    have few : (tied policy leader [each]).length ≤ 1 := List.length_filter_le _ [each]
    have alone : selection.ambiguous = false := by
      rw [choice.ambiguous]
      exact decide_eq_false (by omega)
    have worth := choice.worth
    rw [same, alone] at worth
    exact ⟨selection, chosen, same, (confidenceOf_eq_floor capped bounded worth).2⟩

/-- Under an accepted policy of numbers, the score for a deposit that is farther from an intent is
no higher, and neither is the confidence of a match without rivals. If the score is lower by a ten
thousandth, the confidence is lower as well. Under a regular policy there is a score for every
deposit that is not too great for the intent. -/
theorem match_weakens_with_distance (accepted : policy.check = .ok ())
    (finiteA : policy.amountWeight.isFinite) (finiteT : policy.timeWeight.isFinite)
    (finite : policy.tieDelta.isFinite) (lasts : intent.created.instant < intent.expires.instant)
    (fits : intent.amount.Fits) (positive : 0 < intent.amount.toRat) :
    (policy.Regular → intent.Kept → ∀ deposit : Deposit, deposit.amount.Amount →
      Column.moment deposit.confirmed = .ok deposit.confirmed →
      deposit.amount.toRat < limit * intent.amount.toRat →
      ∃ scored, score policy deposit intent = .ok scored) ∧
    ∀ (near far : Deposit) (each other : Scored), near.amount.Fits → far.amount.Fits →
      Farther intent near far → score policy near intent = .ok each →
      score policy far intent = .ok other →
      other.score.toRat ≤ each.score.toRat ∧
      (each.eligible = true → other.eligible = true →
        ∃ first second, select policy [each] = .ok (some first) ∧ first.winner = each ∧
          select policy [other] = .ok (some second) ∧ second.winner = other ∧
          second.confidence.toRat ≤ first.confidence.toRat ∧
          (other.score.toRat + 1 / 10000 ≤ each.score.toRat →
            second.confidence.toRat < first.confidence.toRat)) := by
  have capped := Policy.capped_of_check accepted
  have number := Decimal.isNan_of_isFinite finite
  refine ⟨?_, ?_⟩
  · intro regular kept deposit actual confirmed small
    rcases score_cases regular kept actual confirmed with ⟨great, -⟩ | ⟨-, scored⟩
    · exact absurd small (not_lt.mpr great)
    · exact scored
  · intro near far each other fitsN fitsF farther done also
    have scores := score_antitone accepted finiteA finiteT lasts fits positive fitsN fitsF farther
      done also
    refine ⟨scores, ?_⟩
    intro passes otherPasses
    have otherBounded := bounded_of_score capped also
    obtain ⟨first, chosen, winner, confidence⟩ :=
      select_singleton capped number (bounded_of_score capped done) passes
    obtain ⟨second, otherChosen, otherWinner, otherConfidence⟩ :=
      select_singleton capped number otherBounded otherPasses
    refine ⟨first, second, chosen, winner, otherChosen, otherWinner, ?_, ?_⟩
    · have whole : ⌊other.score.toRat * 10000⌋₊ ≤ ⌊each.score.toRat * 10000⌋₊ :=
        Nat.floor_le_floor (by linarith)
      rw [confidence, otherConfidence]
      exact div_le_div_of_nonneg_right (by exact_mod_cast whole) (by norm_num)
    · intro lower
      have nonneg : 0 ≤ other.score.toRat * 10000 :=
        mul_nonneg otherBounded.score.nonneg (by norm_num)
      have next : ⌊other.score.toRat * 10000⌋₊ + 1 ≤ ⌊each.score.toRat * 10000⌋₊ := by
        rw [← Nat.floor_add_one nonneg]
        exact Nat.floor_le_floor (by linarith)
      rw [confidence, otherConfidence]
      exact div_lt_div_of_pos_right (by exact_mod_cast next) (by norm_num)

end Scores

namespace Closeness

def intent : Intent := Sample.intent "i" (.finite false 100 0) 0

def near : Deposit := Sample.deposit (.finite false 100 0) 0

def far : Deposit := Sample.deposit (.finite false 997 (-1)) 600

theorem farther : Farther intent near far := by
  refine ⟨?_, by decide⟩
  simp only [intent, near, far, Sample.intent, Sample.deposit, Decimal.toRat_false]
  norm_num

def scored (deposit : Deposit) : Except Fault (Bool × Decimal) := do
  let each ← score .usual deposit intent
  return (each.eligible, each.score)

end Closeness

/-- A deposit of less that comes later makes a weaker match. -/
theorem match_weakens_with_distance_later :
    ∃ each other first second, score .usual Closeness.near Closeness.intent = .ok each ∧
      score .usual Closeness.far Closeness.intent = .ok other ∧
      select .usual [each] = .ok (some first) ∧ select .usual [other] = .ok (some second) ∧
      second.confidence.toRat < first.confidence.toRat := by
  have nearScored : (Closeness.scored Closeness.near).toOption =
      some (true, .finite false 999 (-3)) := by
    decide +kernel
  have farScored : (Closeness.scored Closeness.far).toOption =
      some (true, .finite false 9151666666666666666666666665 (-28)) := by
    decide +kernel
  obtain ⟨each, done, shown⟩ := bind_eq_ok.mp (toOption_eq_some.mp nearScored)
  obtain ⟨other, also, otherShown⟩ := bind_eq_ok.mp (toOption_eq_some.mp farScored)
  obtain ⟨passes, value⟩ := Prod.mk.inj (Except.ok.inj shown)
  obtain ⟨otherPasses, otherValue⟩ := Prod.mk.inj (Except.ok.inj otherShown)
  have positive : 0 < Closeness.intent.amount.toRat := Decimal.magnitude_pos (by decide) 0
  obtain ⟨-, weakens⟩ := @match_weakens_with_distance .usual Closeness.intent rfl rfl rfl rfl
    (by decide) (.of_inRange ⟨by decide, by decide, by decide⟩ false) positive
  obtain ⟨-, picks⟩ := weakens Closeness.near Closeness.far each other
    (.of_inRange ⟨by decide, by decide, by decide⟩ false)
    (.of_inRange ⟨by decide, by decide, by decide⟩ false)
    Closeness.farther done also
  obtain ⟨first, second, chosen, -, otherChosen, -, -, lower⟩ := picks passes otherPasses
  refine ⟨each, other, first, second, done, also, chosen, otherChosen, lower ?_⟩
  rw [value, otherValue, Decimal.toRat_false, Decimal.toRat_false]
  norm_num

end Matching

end Reconcile
