import Reconcile.Matching.Score
import Reconcile.Proofs.Decimal.Operations
import Reconcile.Proofs.Result

set_option autoImplicit false

/-
The gap between two amounts as a fraction of the declared one. It is too great exactly if the
actual amount reaches the declared one taken times the limit; a declared amount of zero is the
case in which any actual amount does.
-/
namespace Reconcile

namespace Decimal

/-- An amount as columns keep it: a number that fits and is not negative. -/
structure Amount (a : Decimal) : Prop where
  fits : a.Fits
  nonneg : 0 ≤ a.toRat

theorem Rounds.amount {x : ℚ} {r : Decimal} (rounds : Rounds x r) (nonneg : 0 ≤ x) : r.Amount :=
  ⟨rounds.fits, rounds.nonneg nonneg⟩

theorem amount_zero : zero.Amount := ⟨fits_zero, toRat_zero.ge⟩

theorem amount_one : one.Amount := ⟨fits_one, by rw [toRat_one]; norm_num⟩

theorem one_lt_limit : 1 < limit := by
  have below := fits_one.lt_limit
  rwa [toRat_one] at below

/-- No number up to a great power of ten is too great for one that is not below its inverse. -/
theorem lt_limit_mul {x y : ℚ} (low : (10 : ℚ) ^ (-1001 : ℤ) ≤ x) (high : y ≤ 10 ^ (1001 : ℤ)) :
    y < limit * x := by
  have wide : (10 : ℚ) ^ (1001 : ℤ) ≤ 10 ^ maxExponent * 10 ^ (-1001 : ℤ) := by
    rw [← ten_add]
    exact ten_mono (by decide)
  refine high.trans_lt (wide.trans_lt ?_)
  exact mul_lt_mul lt_limit low (ten_pos _) ((ten_pos _).trans lt_limit).le

variable {a b : Decimal}

theorem Amount.abs_sub_lt (amountA : a.Amount) (amountB : b.Amount) :
    |a.toRat - b.toRat| < limit := by
  have nonnegA := amountA.nonneg
  have nonnegB := amountB.nonneg
  have belowA := amountA.fits.lt_limit
  have belowB := amountB.fits.lt_limit
  rw [abs_lt]
  constructor <;> linarith

theorem Amount.sub_eq_ok (amountA : a.Amount) (amountB : b.Amount) :
    ∃ r, a.sub b = .ok r ∧ Rounds (a.toRat - b.toRat) r :=
  (sub_evaluates amountA.fits amountB.fits).eq_ok (amountA.abs_sub_lt amountB)

/-- Below this bound the next greater number lies so far away that a difference of a declared
amount cannot reach it. -/
theorem gap_le_limit : 2 + 2 * 10 ^ (precision : ℤ) < limit := by
  have great := lt_limit
  have wide : (10 : ℚ) ^ ((precision : ℤ) + 1) ≤ 10 ^ maxExponent := ten_mono (by decide)
  rw [ten_add, zpow_one] at wide
  have some : (1 : ℚ) ≤ 10 ^ (precision : ℤ) := one_le_zpow₀ (by norm_num) (by decide)
  linarith

/-- The rounded difference reaches the limit exactly if the greater amount itself does. -/
theorem limit_le_difference_iff {size : Decimal} (amountA : a.Amount) (amountB : b.Amount)
    (rounds : Rounds |a.toRat - b.toRat| size) :
    limit * a.toRat ≤ size.toRat ↔ limit * a.toRat ≤ b.toRat := by
  have nonneg := amountA.nonneg
  have nonnegB := amountB.nonneg
  have great := gap_le_limit
  have wide := ten_pos (precision : ℤ)
  have atLeast : a.toRat ≤ limit * a.toRat := le_mul_of_one_le_left nonneg one_lt_limit.le
  constructor
  · intro reaches
    by_contra below
    -- The difference is at most the greater of the two.
    rcases le_total a.toRat b.toRat with less | more
    · have size_le := rounds.le_of_le amountB.fits.representable (by
        rw [abs_of_nonpos (sub_nonpos.mpr less)]
        linarith)
      linarith
    · have size_le := rounds.le_of_le amountA.fits.representable (by
        rw [abs_of_nonneg (sub_nonneg.mpr more)]
        linarith)
      have some : 0 < a.toRat := by
        by_contra none
        have zero : a.toRat = 0 := le_antisymm (not_lt.mp none) nonneg
        rw [zero, mul_zero] at below
        exact below nonnegB
      have beyond : a.toRat < limit * a.toRat := lt_mul_of_one_lt_left some one_lt_limit
      linarith
  · intro reaches
    have less : a.toRat ≤ b.toRat := atLeast.trans reaches
    rw [abs_of_nonpos (sub_nonpos.mpr less), neg_sub] at rounds
    by_contra below
    -- Otherwise a number would lie between the difference and the greater amount.
    have close := rounds.nearest b.toRat amountB.fits.representable
    rw [abs_sub_comm, abs_sub_comm _ b.toRat, sub_sub_cancel, abs_of_nonneg nonneg] at close
    have lower := neg_le_of_abs_le close
    have sized : size.toRat < b.toRat := by linarith
    have gap := rounds.representable.gap amountB.fits.representable
      (rounds.nonneg (sub_nonneg.mpr less)) sized
    have narrow : (b.toRat - size.toRat) * 10 ^ (precision : ℤ) ≤
        2 * a.toRat * 10 ^ (precision : ℤ) :=
      mul_le_mul_of_nonneg_right (by linarith) wide.le
    have bounded : limit * a.toRat ≤ (2 + 2 * 10 ^ (precision : ℤ)) * a.toRat := by linarith
    have zero : a.toRat = 0 := by
      by_contra some
      have positive : 0 < a.toRat := lt_of_le_of_ne nonneg (Ne.symm some)
      exact absurd (le_of_mul_le_mul_right bounded positive) (not_le.mpr great)
    rw [zero, mul_zero] at below
    exact below (rounds.nonneg (sub_nonneg.mpr less))

end Decimal

namespace Matching

open Decimal (Amount limit Rounds)

variable {declared actual : Decimal}

/-- The gap has a value unless the actual amount is too great for the declared one. -/
theorem amountGap_cases (amountA : declared.Amount) (amountB : actual.Amount) :
    (limit * declared.toRat ≤ actual.toRat ∧
      ∃ fault, amountGap declared actual = .error fault) ∨
    (actual.toRat < limit * declared.toRat ∧
      ∃ gap, amountGap declared actual = .ok gap ∧ gap.Amount) := by
  obtain ⟨difference, subtracted, rounds⟩ := amountA.sub_eq_ok amountB
  obtain ⟨size, sized, fits, same⟩ := rounds.fits.abs_eq_ok
  have sizeRounds := rounds.abs fits same
  have nonneg : 0 ≤ size.toRat := sizeRounds.nonneg (abs_nonneg _)
  have opened : amountGap declared actual = size.div declared :=
    (bind_of_ok subtracted).trans (bind_of_ok sized)
  rw [opened, ← not_le, ← Decimal.limit_le_difference_iff amountA amountB sizeRounds]
  by_cases none : declared.toRat = 0
  · refine Or.inl ⟨?_, Decimal.div_of_zero fits.isFinite amountA.fits.isFinite none⟩
    rw [none, mul_zero]
    exact nonneg
  · have positive : 0 < declared.toRat := lt_of_le_of_ne amountA.nonneg (Ne.symm none)
    have quotient : 0 ≤ size.toRat / declared.toRat := div_nonneg nonneg positive.le
    have evaluates := Decimal.div_evaluates fits.isFinite amountA.fits.isFinite none
    by_cases above : limit * declared.toRat ≤ size.toRat
    · refine Or.inl ⟨above, .overflow, evaluates.eq_error ?_⟩
      rw [abs_of_nonneg quotient, le_div_iff₀ positive]
      exact above
    · have small : |size.toRat / declared.toRat| < limit := by
        rw [abs_of_nonneg quotient, div_lt_iff₀ positive]
        exact not_le.mp above
      obtain ⟨gap, done, gapRounds⟩ := evaluates.eq_ok small
      exact Or.inr ⟨above, gap, done, gapRounds.amount quotient⟩

theorem amountGap_amount {gap : Decimal} (amountA : declared.Amount) (amountB : actual.Amount)
    (done : amountGap declared actual = .ok gap) : gap.Amount := by
  rcases amountGap_cases amountA amountB with ⟨-, fault, failed⟩ | ⟨-, found, made, amount⟩
  · rw [failed] at done
    cases done
  · cases made.symm.trans done
    exact amount

end Matching

end Reconcile
