import Reconcile.Proofs.Decimal.Operations
import Reconcile.Proofs.Decimal.Rows
import Reconcile.Settings.Environment

set_option autoImplicit false

/-
Whole numbers that are read from settings. A text may have only so many digits, so no number is
read whose fraction is too great for arithmetic, and the tolerance of a policy that the environment
gives always has a value.
-/
namespace Reconcile

theorem cast_lt_of_few {n : ℤ} {k : ℕ} (few : n.natAbs < tenTo k) : (n : ℚ) < 10 ^ (k : ℤ) := by
  have size : (n : ℚ) ≤ (n.natAbs : ℕ) := by
    rw [Nat.cast_natAbs]
    exact_mod_cast le_abs_self n
  rw [← Decimal.cast_tenTo]
  exact size.trans_lt (by exact_mod_cast few)

/-- A number that is read has no more digits than may be written. -/
theorem Numeral.int?_few {text : String} {n : Int} (read : Numeral.int? text = some n) :
    n.natAbs < tenTo Numeral.digitLimit := by
  simp only [int?, Option.bind_eq_bind, Option.bind_eq_some_iff] at read
  obtain ⟨digits, -, read⟩ := read
  split at read
  · rename_i d ds taken
    split at read
    · cases read
    · rename_i few
      have small := Decimal.takeDigits_small digits
      rw [taken] at small
      dsimp only at small
      have value := (Decimal.ofDigits_lt small).trans_le (tenTo_le_tenTo.mpr (not_lt.mp few))
      obtain rfl := Option.some.inj read
      split <;> omega
  · cases read

namespace Environment

theorem int_few (env : Environment) (name : String) {default : Int}
    (few : default.natAbs < tenTo Numeral.digitLimit) :
    (env.int name default).natAbs < tenTo Numeral.digitLimit := by
  unfold int readOr
  dsimp only
  split
  · exact few
  · cases read : Numeral.int? (env.value name) with
    | none => exact few
    | some n => exact Numeral.int?_few read

/-- The tolerance from the environment is far below what is too great. -/
theorem tolerance_lt (env : Environment) :
    (env.matching.toleranceBps : ℚ) < 10000 * Decimal.limit := by
  have usual : Policy.usual.toleranceBps.natAbs < tenTo Numeral.digitLimit :=
    (by decide : Policy.usual.toleranceBps.natAbs < tenTo 2).trans_le
      (tenTo_le_tenTo.mpr (by decide))
  have below : (10 : ℚ) ^ (Numeral.digitLimit : ℤ) ≤ 10 ^ Decimal.maxExponent :=
    Decimal.ten_mono (by decide)
  have size := ((cast_lt_of_few (env.int_few "MATCH_AMOUNT_TOLERANCE_BPS" usual)).trans_le
    below).trans Decimal.lt_limit
  have same : env.matching.toleranceBps =
      env.int "MATCH_AMOUNT_TOLERANCE_BPS" Policy.usual.toleranceBps := by
    rw [matching]
  have positive := (Decimal.ten_pos Decimal.maxExponent).trans Decimal.lt_limit
  rw [same]
  refine size.trans_le ?_
  exact le_mul_of_one_le_left positive.le (by norm_num)

end Environment

end Reconcile
