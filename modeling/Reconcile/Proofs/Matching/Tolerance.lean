import Reconcile.Proofs.Decimal.Difference
import Reconcile.Proofs.Matching.Twins

set_option autoImplicit false

/-
The edge of the tolerance. Inside half of the declared amount a difference is not rounded, so the
gap is the exact quotient, rounded once, and rounding does not carry it past the tolerance, which
is a number of few digits. Nor does it carry a gap back from outside: half a percent of an amount
is a number of few digits too, and a gap that is wider is wider by more than half of the distance
to the next number.
-/
namespace Reconcile

open Decimal (Rounds Representable precision)

namespace Decimal

/-- A number above zero with its leading digit within a thousand places of the units. -/
def Middling (a : Decimal) : Prop :=
  ∃ c e, a = .finite false c e ∧ c ≠ 0 ∧ digitCount c ≤ precision ∧
    -1000 ≤ e + digitCount c - 1 ∧ e + digitCount c - 1 ≤ 1000

namespace Middling

variable {a : Decimal} (middling : a.Middling)
include middling

theorem fits : a.Fits := by
  obtain ⟨c, e, rfl, -, few, low, high⟩ := middling
  refine .of_inRange ⟨few, ?_, ?_⟩ false
  · simp only [precision, tinyExponent] at few ⊢
    omega
  · simp only [maxExponent]
    omega

theorem positive : 0 < a.toRat := by
  obtain ⟨c, e, rfl, some, -⟩ := middling
  rw [toRat_false]
  exact magnitude_pos some e

theorem low : (10 : ℚ) ^ (-1000 : ℤ) ≤ a.toRat := by
  obtain ⟨c, e, rfl, some, -, low, -⟩ := middling
  rw [toRat_false]
  exact (ten_mono low).trans (le_magnitude some e)

theorem high : a.toRat < 10 ^ (1001 : ℤ) := by
  obtain ⟨c, e, rfl, -, -, -, high⟩ := middling
  rw [toRat_false]
  exact (magnitude_lt c e).trans_le (ten_mono (by omega))

theorem amount : a.Amount := ⟨middling.fits, middling.positive.le⟩

end Middling

/-- No middling amount is too great for another. -/
theorem Middling.not_outgrown {intent : Intent} {deposit : Deposit}
    (declared : intent.amount.Middling) (actual : deposit.amount.Middling) :
    ¬ intent.Outgrown deposit :=
  not_le.mpr (lt_limit_mul ((ten_mono (by decide)).trans declared.low) actual.high.le)

/-- What lies beyond the middle between two numbers is not rounded to the lower one. -/
theorem Rounds.lt_of_middle {x y z : ℚ} {r : Decimal} (rounds : Rounds x r)
    (kept : Representable z) (less : y < z) (beyond : y + z < 2 * x) : y < r.toRat := by
  by_contra notAbove
  have close := rounds.nearest z kept
  rw [abs_of_nonneg (by linarith)] at close
  rcases abs_cases (x - z) with ⟨size, -⟩ | ⟨size, -⟩ <;> rw [size] at close <;> linarith

theorem unit_le {k e : ℤ} (positive : 0 < (k : ℚ) * 10 ^ e) : (10 : ℚ) ^ e ≤ k * 10 ^ e := by
  rw [mul_pos_iff_of_pos_right (ten_pos e)] at positive
  have whole : (1 : ℚ) ≤ k := by exact_mod_cast positive
  exact le_mul_of_one_le_left (ten_pos e).le whole

theorem ten_two_up (e : ℤ) : (10 : ℚ) ^ (e + 2) = 100 * 10 ^ e := by
  rw [ten_add, mul_comm]
  norm_num

/-- How far two hundredfold of the difference is above a number, at least: both are multiples of
one unit, and neither number has more digits than fit. -/
theorem half_percent_gap {x y : ℚ} (keptX : Representable x) (keptY : Representable y)
    (near : 2 * |x - y| ≤ x) (beyond : x < 200 * |x - y|) :
    x < (200 * |x - y| - x) * 10 ^ (precision : ℤ) := by
  have nonneg : 0 ≤ x := by linarith [abs_nonneg (x - y)]
  have half : x ≤ 2 * y := by linarith [le_abs_self (x - y)]
  obtain ⟨c, e, rangeX, rfl⟩ := keptX.magnitude nonneg
  obtain ⟨d, f, rangeY, rfl⟩ := keptY.magnitude (by linarith)
  -- The unit is the lower of the last places, that of the second number taken two places up, since
  -- it is only ever counted in hundreds.
  have unitsX := magnitude_shift c (min_le_left e (f + 2))
  have unitsY := magnitude_shift d (min_le_right e (f + 2))
  have few : (c : ℚ) * 10 ^ e < 10 ^ min e (f + 2) * 10 ^ (precision : ℤ) := by
    rcases le_total e (f + 2) with lower | higher
    · rw [min_eq_left lower]
      exact rangeX.below
    · have below := rangeY.below
      rw [min_eq_right higher, ten_two_up, mul_assoc]
      linarith
  rw [ten_two_up f, mul_left_comm] at unitsY
  generalize c * tenTo (e - min e (f + 2)).toNat = m at unitsX
  generalize d * tenTo (f + 2 - min e (f + 2)).toNat = n at unitsY
  generalize min e (f + 2) = unit at unitsX unitsY few
  have step : (10 : ℚ) ^ unit ≤ 200 * |(c : ℚ) * 10 ^ e - d * 10 ^ f| - c * 10 ^ e := by
    rw [← sub_pos] at beyond
    rcases abs_cases ((c : ℚ) * 10 ^ e - d * 10 ^ f) with ⟨size, -⟩ | ⟨size, -⟩ <;>
      rw [size] at beyond ⊢
    · have whole : 200 * ((c : ℚ) * 10 ^ e - d * 10 ^ f) - c * 10 ^ e =
          (199 * m - 2 * n : ℤ) * 10 ^ unit := by
        push_cast
        linarith
      rw [whole] at beyond ⊢
      exact unit_le beyond
    · have whole : 200 * -((c : ℚ) * 10 ^ e - d * 10 ^ f) - c * 10 ^ e =
          (2 * n - 201 * m : ℤ) * 10 ^ unit := by
        push_cast
        linarith
      rw [whole] at beyond ⊢
      exact unit_le beyond
  exact few.trans_le (mul_le_mul_of_nonneg_right step (ten_pos _).le)

end Decimal

theorem Policy.tolerance_eq_ok {policy : Policy} (notBelow : 0 ≤ policy.toleranceBps)
    (notAbove : policy.toleranceBps ≤ 5000) :
    ∃ bound, policy.tolerance = .ok bound ∧ bound.Fits ∧
      bound.toRat = policy.toleranceBps / 10000 := by
  have least : (0 : ℚ) ≤ policy.toleranceBps := by exact_mod_cast notBelow
  have most : (policy.toleranceBps : ℚ) ≤ 5000 := by exact_mod_cast notAbove
  have value : (policy.toleranceBps : ℚ) / 10000 = policy.toleranceBps * 10 ^ (-4 : ℤ) := by
    rw [zpow_neg, ← div_eq_mul_inv]
    norm_num
  have kept : Representable (policy.toleranceBps / 10000) := by
    rw [value]
    refine Decimal.InRange.representable (c := 5000) ⟨by decide, by decide, by decide⟩ ?_
    rw [abs_of_nonneg (mul_nonneg least (Decimal.ten_pos _).le)]
    exact mul_le_mul_of_nonneg_right (by exact_mod_cast most) (Decimal.ten_pos _).le
  obtain ⟨bound, done, rounds⟩ := policy.tolerance_evaluates.eq_ok kept.abs_lt
  exact ⟨bound, done, rounds.fits, rounds.eq_iff.mpr kept⟩

namespace Matching

section Gap

variable {declared actual gap : Decimal} (fits : declared.Fits) (other : actual.Fits)
  (positive : 0 < declared.toRat) (done : amountGap declared actual = .ok gap)
include fits other positive done

/-- Inside half of the declared amount the exact gap is rounded once. -/
theorem amountGap_rounds (near : 2 * |declared.toRat - actual.toRat| ≤ declared.toRat) :
    Rounds (|declared.toRat - actual.toRat| / declared.toRat) gap := by
  obtain ⟨difference, subtracted, settled⟩ := amountGap_settled fits other positive done
  rw [Decimal.sub_exact fits other near subtracted] at settled
  exact settled.rounds rfl

theorem amountGap_le {bound : ℚ} (kept : Representable bound) (half : bound ≤ 1 / 2)
    (within : |declared.toRat - actual.toRat| ≤ bound * declared.toRat) : gap.toRat ≤ bound := by
  have near : bound * declared.toRat ≤ 1 / 2 * declared.toRat :=
    mul_le_mul_of_nonneg_right half positive.le
  have rounds := amountGap_rounds fits other positive done (by linarith)
  exact rounds.le_of_le kept ((div_le_iff₀ positive).mpr within)

/-- A difference of more than half of the declared amount leaves a wide gap. -/
theorem le_amountGap_of_far (far : declared.toRat < 2 * |declared.toRat - actual.toRat|) :
    1 / 4 ≤ gap.toRat := by
  obtain ⟨difference, subtracted, settled⟩ := amountGap_settled fits other positive done
  have error := Decimal.sub_error fits other subtracted
  have small := mul_le_mul_of_nonneg_left relativeError_le
    (abs_nonneg (declared.toRat - actual.toRat))
  have sizes := (abs_le.mp ((abs_abs_sub_abs_le difference.toRat _).trans error)).1
  have kept : Representable (1 / 4) :=
    ⟨false, 25, -2, ⟨by decide, by decide, by decide⟩, by norm_num [Decimal.toRat_false]⟩
  refine (settled.rounds rfl).ge_of_ge kept ?_
  rw [le_div_iff₀ positive]
  linarith

/-- A difference of more than half a percent leaves a gap of more than half a percent. -/
theorem lt_amountGap (beyond : declared.toRat < 200 * |declared.toRat - actual.toRat|) :
    1 / 200 < gap.toRat := by
  rcases le_or_gt (2 * |declared.toRat - actual.toRat|) declared.toRat with near | far
  · have rounds := amountGap_rounds fits other positive done near
    have apart := Decimal.half_percent_gap fits.representable other.representable near beyond
    -- The number with all digits that follows half a percent.
    have next : Representable (1 / 200 + 10 ^ (-30 : ℤ)) :=
      ⟨false, 5 * 10 ^ 27 + 1, -30, ⟨by decide, by decide, by decide⟩, by
        norm_num [Decimal.toRat_false]⟩
    refine rounds.lt_of_middle next (lt_add_of_pos_right _ (Decimal.ten_pos _)) ?_
    rw [← mul_div_assoc, lt_div_iff₀ positive]
    norm_num [precision] at apart ⊢
    linarith
  · have wide := le_amountGap_of_far fits other positive done far
    linarith

end Gap

/-- A tolerance that has a value decides by the order of the rounded gap and the rounded bound. -/
theorem withinTolerance_eq_ok {policy : Policy} {declared actual : Decimal} {eligible : Bool}
    (declaredAmount : declared.Amount) (actualAmount : actual.Amount)
    (done : withinTolerance policy declared actual = .ok eligible) :
    ∃ gap bound, amountGap declared actual = .ok gap ∧ policy.tolerance = .ok bound ∧
      (eligible = true ↔ gap.toRat ≤ bound.toRat) := by
  obtain ⟨gap, measured, done⟩ := bind_eq_ok.mp done
  obtain ⟨bound, divided, compared⟩ := bind_eq_ok.mp done
  have finite := (amountGap_amount declaredAmount actualAmount measured).fits.isFinite
  rw [Decimal.le?_eq finite (Policy.tolerance_isFinite divided), Except.ok.injEq] at compared
  exact ⟨gap, bound, measured, divided, by rw [← compared, decide_eq_true_eq]⟩

section Edge

variable {policy : Policy} {deposit : Deposit} {intent : Intent}

/-- Up to a tolerance of one half, an intent is eligible if the amounts differ by no more than the
tolerance, the edge included. For half a percent the converse is true as well: what is eligible does
not differ by more. Under weights that are numbers there is a score for all times that can be
compared. -/
theorem eligible_at_edge (notBelow : 0 ≤ policy.toleranceBps)
    (notAbove : policy.toleranceBps ≤ 5000) (declared : intent.amount.Middling)
    (actual : deposit.amount.Middling) :
    (policy.Weighs → Timed intent.created intent.expires deposit.confirmed →
      ∃ scored, score policy deposit intent = .ok scored) ∧
    ∀ scored, score policy deposit intent = .ok scored →
      (10000 * |intent.amount.toRat - deposit.amount.toRat| ≤
        policy.toleranceBps * intent.amount.toRat → scored.eligible = true) ∧
      (policy.toleranceBps = 50 → scored.eligible = true →
        200 * |intent.amount.toRat - deposit.amount.toRat| ≤ intent.amount.toRat) := by
  obtain ⟨bound, divided, fitsBound, value⟩ := Policy.tolerance_eq_ok notBelow notAbove
  refine ⟨?_, ?_⟩
  · intro weighs timed
    rcases score_cases_of_timed weighs ⟨bound, divided⟩ declared.amount actual.amount timed with
      ⟨outgrown, -⟩ | ⟨-, scored⟩
    · exact absurd outgrown (declared.not_outgrown actual)
    · exact scored
  · intro scored done
    obtain ⟨-, tolerated, -⟩ := score_eq_ok done
    obtain ⟨gap, found, measured, again, eligible⟩ :=
      withinTolerance_eq_ok declared.amount actual.amount tolerated
    obtain rfl : bound = found := Except.ok.inj (divided.symm.trans again)
    have most : (policy.toleranceBps : ℚ) ≤ 5000 := by exact_mod_cast notAbove
    rw [eligible]
    refine ⟨?_, ?_⟩
    · intro within
      refine amountGap_le declared.fits actual.fits declared.positive measured
        fitsBound.representable ?_ ?_
      · rw [value]
        linarith
      · rw [value]
        linarith
    · intro usual inside
      by_contra beyond
      have outside := lt_amountGap declared.fits actual.fits declared.positive measured
        (not_le.mp beyond)
      rw [value, usual] at inside
      norm_num at inside
      linarith

end Edge

namespace Edge

def intent : Intent := Sample.intent "i" (.finite false 100 0) 0

def last : Deposit := Sample.deposit (.finite false 1005 (-1)) 60

/-- The next greater amount that has no more digits than fit. -/
def next : Deposit := Sample.deposit (.finite false (1005 * 10 ^ 24 + 1) (-25)) 60

theorem middling :
    intent.amount.Middling ∧ last.amount.Middling ∧ next.amount.Middling :=
  ⟨⟨_, _, rfl, by decide, by decide, by decide, by decide⟩,
    ⟨_, _, rfl, by decide, by decide, by decide, by decide⟩,
    ⟨_, _, rfl, by decide, by decide, by decide, by decide⟩⟩

end Edge

/-- Half a percent more than declared is eligible, and the next greater amount is not. -/
theorem eligible_at_edge_hundred :
    (∃ scored, score .usual Edge.last Edge.intent = .ok scored ∧ scored.eligible = true) ∧
      ∃ scored, score .usual Edge.next Edge.intent = .ok scored ∧ scored.eligible = false := by
  obtain ⟨intent, last, next⟩ := Edge.middling
  have timed : Timed Edge.intent.created Edge.intent.expires (.utc 60000000) :=
    timed_of_moments rfl rfl rfl
  have weighs := Policy.usual_regular.weighs
  obtain ⟨exists_last, inside⟩ := @eligible_at_edge .usual Edge.last Edge.intent (by decide)
    (by decide) intent last
  obtain ⟨exists_next, outside⟩ := @eligible_at_edge .usual Edge.next Edge.intent (by decide)
    (by decide) intent next
  obtain ⟨scored, done⟩ := exists_last weighs timed
  obtain ⟨other, also⟩ := exists_next weighs timed
  refine ⟨⟨scored, done, (inside scored done).1 ?_⟩, other, also, ?_⟩
  · simp only [Edge.intent, Edge.last, Sample.intent, Sample.deposit, Decimal.toRat_false,
      Policy.usual]
    norm_num [abs_of_neg]
  · rw [← Bool.not_eq_true]
    intro passes
    have within := (outside other also).2 rfl passes
    simp only [Edge.intent, Edge.next, Sample.intent, Sample.deposit, Decimal.toRat_false] at within
    norm_num [abs_of_neg] at within

end Matching

end Reconcile
