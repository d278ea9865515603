import Mathlib.Algebra.Order.Field.Power
import Mathlib.Tactic.GCongr
import Reconcile.Proofs.Binary64
import Reconcile.Proofs.Decimal.Nearest

set_option autoImplicit false

/-
Rounding to 53 bits. The place of the last bit is found from the bits of the numerator and the
denominator, so a value has one place whatever ratio it is given as, and the nearest mantissa at
that place is the only one. Every rounded value is in the one form that the format has for it.
-/
namespace Reconcile

namespace Binary64

theorem cast_twoTo (k : ℕ) : ((twoTo k : ℕ) : ℚ) = 2 ^ (k : ℤ) := by
  rw [twoTo, Nat.pow_eq, Nat.cast_pow, Nat.cast_ofNat, zpow_natCast]

theorem cast_twoTo_toNat {k : ℤ} (nonneg : 0 ≤ k) : ((twoTo k.toNat : ℕ) : ℚ) = 2 ^ k := by
  rw [cast_twoTo, Int.toNat_of_nonneg nonneg]

theorem twoTo_pos (k : ℕ) : 0 < twoTo k := Nat.pow_pos (by decide)

theorem unit_pos (k : ℤ) : (0 : ℚ) < 2 ^ k := by positivity

theorem two_add (j k : ℤ) : (2 : ℚ) ^ (j + k) = 2 ^ j * 2 ^ k := zpow_add₀ (by norm_num) j k

theorem two_lt_two {j k : ℤ} : (2 : ℚ) ^ j < 2 ^ k ↔ j < k := zpow_lt_zpow_iff_right₀ (by norm_num)

theorem two_le_two {j k : ℤ} (le : j ≤ k) : (2 : ℚ) ^ j ≤ 2 ^ k :=
  zpow_le_zpow_right₀ (by norm_num) le

theorem scaled_lt_iff {x : ℚ} {e : ℤ} (k : ℕ) : x / 2 ^ e < 2 ^ k ↔ x < 2 ^ (e + k) := by
  rw [div_lt_iff₀ (unit_pos e), two_add, zpow_natCast, mul_comm]

theorem le_scaled_iff {x : ℚ} {e : ℤ} (k : ℕ) : 2 ^ k ≤ x / 2 ^ e ↔ 2 ^ (e + k) ≤ x := by
  rw [← not_lt, ← not_lt, scaled_lt_iff]

section Ratio

variable {n d : ℕ}

theorem bits_bounds (some : n ≠ 0) :
    (2 : ℚ) ^ (n.log2 : ℤ) ≤ n ∧ (n : ℚ) < 2 ^ ((n.log2 : ℤ) + 1) := by
  rw [← cast_twoTo, show (n.log2 : ℤ) + 1 = ((n.log2 + 1 : ℕ) : ℤ) by push_cast; rfl, ← cast_twoTo]
  exact ⟨by exact_mod_cast Nat.log2_self_le some, by exact_mod_cast Nat.lt_log2_self⟩

/-- Whether a ratio is below `2 ^ (53 + k)`, in whole numbers. -/
theorem ratio_lt_iff (n : ℕ) (someD : d ≠ 0) (k : ℤ) :
    (if 0 ≤ k then n < twoTo 53 * (d * twoTo k.toNat) else n * twoTo (-k).toNat < twoTo 53 * d) ↔
      (n : ℚ) / d < 2 ^ (53 + k) := by
  have positive : (0 : ℚ) < d := by exact_mod_cast Nat.pos_of_ne_zero someD
  have bits : ((twoTo 53 : ℕ) : ℚ) = 2 ^ (53 : ℤ) := cast_twoTo 53
  rw [div_lt_iff₀ positive, two_add]
  split
  · rename_i up
    rw [← Nat.cast_lt (α := ℚ), Nat.cast_mul, Nat.cast_mul, bits, cast_twoTo_toNat up]
    exact iff_of_eq (by ring_nf)
  · rename_i down
    have inverse : ((twoTo (-k).toNat : ℕ) : ℚ) * 2 ^ k = 1 := by
      rw [cast_twoTo_toNat (by omega), ← two_add, neg_add_cancel, zpow_zero]
    rw [← Nat.cast_lt (α := ℚ), Nat.cast_mul, Nat.cast_mul, bits,
      ← mul_lt_mul_iff_of_pos_right (unit_pos k), mul_assoc, inverse, mul_one]
    exact iff_of_eq (by ring_nf)

/-- The last of 53 bits stands at the place that is computed. -/
theorem lastPlace_bounds (someN : n ≠ 0) (someD : d ≠ 0) :
    (2 : ℚ) ^ (lastPlace n d + 52) ≤ n / d ∧ (n : ℚ) / d < 2 ^ (lastPlace n d + 53) := by
  obtain ⟨lowN, highN⟩ := bits_bounds someN
  obtain ⟨lowD, highD⟩ := bits_bounds someD
  have positive : (0 : ℚ) < d := by exact_mod_cast Nat.pos_of_ne_zero someD
  set guess : ℤ := (n.log2 : ℤ) - d.log2 - 53 with guessed
  have low : (2 : ℚ) ^ (guess + 52) ≤ n / d := by
    rw [le_div_iff₀ positive]
    calc (2 : ℚ) ^ (guess + 52) * d ≤ 2 ^ (guess + 52) * 2 ^ ((d.log2 : ℤ) + 1) := by gcongr
      _ = 2 ^ (n.log2 : ℤ) := by rw [← two_add, guessed]; congr 1; omega
      _ ≤ n := lowN
  have high : (n : ℚ) / d < 2 ^ (guess + 54) := by
    rw [div_lt_iff₀ positive]
    calc (n : ℚ) < 2 ^ ((n.log2 : ℤ) + 1) := highN
      _ = 2 ^ (guess + 54) * 2 ^ (d.log2 : ℤ) := by rw [← two_add, guessed]; congr 1; omega
      _ ≤ 2 ^ (guess + 54) * d := by gcongr
  have place : lastPlace n d = if (n : ℚ) / d < 2 ^ (53 + guess) then guess else guess + 1 := by
    simp only [lastPlace, ← guessed]
    congr 1
    exact propext (ratio_lt_iff n someD guess)
  rw [place, add_comm 53 guess]
  split
  · rename_i below
    exact ⟨low, below⟩
  · rename_i above
    rw [not_lt] at above
    rw [add_assoc, add_assoc]
    exact ⟨above, high⟩

end Ratio

/-- The place of the last bit that is kept of a value: 53 bits hold its whole part, and no fewer
unless the place is the lowest. -/
structure Last (x : ℚ) (e : ℤ) : Prop where
  lowest : lowestExponent ≤ e
  below : x < 2 ^ (e + 53)
  above : lowestExponent < e → 2 ^ (e + 52) ≤ x

theorem Last.unique {x : ℚ} {e f : ℤ} (first : Last x e) (second : Last x f) : e = f := by
  by_contra apart
  wlog less : e < f generalizing e f
  · exact this second first (Ne.symm apart) (by omega)
  have crossed := (second.above (first.lowest.trans_lt less)).trans_lt first.below
  rw [two_lt_two] at crossed
  omega

theorem last_of_ratio {n d : ℕ} (someN : n ≠ 0) (someD : d ≠ 0) :
    Last ((n : ℚ) / d) (Max.max lowestExponent (lastPlace n d)) := by
  obtain ⟨low, high⟩ := lastPlace_bounds someN someD
  refine ⟨le_max_left _ _, high.trans_le (two_le_two (by omega)), fun higher => ?_⟩
  rw [max_eq_right (by omega)]
  exact low

theorem roundShifted_nearest (n : ℕ) {d : ℕ} (someD : d ≠ 0) (e : ℤ) :
    NearestEven ((n : ℚ) / d / 2 ^ e) (roundShifted n d (-e)) := by
  have positive := Nat.pos_of_ne_zero someD
  unfold roundShifted
  split
  · rename_i up
    have nearest := roundHalfEven_nearest (n * twoTo (-e).toNat) positive
    rwa [Nat.cast_mul, cast_twoTo_toNat up, zpow_neg, mul_div_right_comm,
      ← div_eq_mul_inv] at nearest
  · have nearest := roundHalfEven_nearest n (Nat.mul_pos positive (twoTo_pos e.toNat))
    rw [Nat.cast_mul, cast_twoTo_toNat (by omega), ← div_div] at nearest
    rwa [neg_neg]

theorem ofRatio_eq (s : Bool) {n d m : ℕ} {e : ℤ} (someN : n ≠ 0) (someD : d ≠ 0)
    (last : Last ((n : ℚ) / d) e) (nearest : NearestEven ((n : ℚ) / d / 2 ^ e) m) :
    ofRatio s n d = settle s m e := by
  have placed := last.unique (last_of_ratio someN someD)
  rw [ofRatio, if_neg someN]
  dsimp only
  rw [← placed, nearest.unique (roundShifted_nearest n someD e)]

/-- Whether a number is in the form that the format has for it: the mantissa has 53 bits unless it
stands at the lowest place, and the place is one that there is. -/
def isCanonical : Binary64 → Bool
  | .finite _ m e =>
    m < twoTo 53 && (twoTo 52 ≤ m || e = lowestExponent) && lowestExponent ≤ e &&
      e ≤ greatestExponent
  | _ => true

theorem isCanonical_finite {s : Bool} {m : ℕ} {e : ℤ} :
    (finite s m e).isCanonical = true ↔ m < 2 ^ 53 ∧ (2 ^ 52 ≤ m ∨ e = lowestExponent) ∧
      lowestExponent ≤ e ∧ e ≤ greatestExponent := by
  simp only [isCanonical, Bool.and_eq_true, Bool.or_eq_true, decide_eq_true_eq, and_assoc]
  rfl

theorem settle_isCanonical (s : Bool) {m : ℕ} {e : ℤ} (few : m ≤ 2 ^ 53)
    (full : 2 ^ 52 ≤ m ∨ e = lowestExponent) (low : lowestExponent ≤ e) :
    (settle s m e).isCanonical := by
  have bits : twoTo 53 = 2 ^ 53 ∧ twoTo 52 = 2 ^ 52 := ⟨rfl, rfl⟩
  unfold settle
  by_cases carried : m = twoTo 53
  · rw [if_pos carried]
    dsimp only
    split
    · rfl
    · rename_i inside
      exact isCanonical_finite.mpr ⟨by decide, Or.inl (by decide), by omega, by omega⟩
  · rw [if_neg carried]
    dsimp only
    split
    · rfl
    · rename_i inside
      exact isCanonical_finite.mpr ⟨by omega, full, low, by omega⟩

theorem ofRatio_isCanonical (s : Bool) (n : ℕ) {d : ℕ} (someD : d ≠ 0) :
    (ofRatio s n d).isCanonical := by
  by_cases someN : n = 0
  · rw [ofRatio, if_pos someN]
    rfl
  have last := last_of_ratio someN someD
  have nearest := roundShifted_nearest n someD (Max.max lowestExponent (lastPlace n d))
  rw [ofRatio, if_neg someN]
  generalize Max.max lowestExponent (lastPlace n d) = e at last nearest
  refine settle_isCanonical s (nearest.le_of_ge ?_) ?_ last.lowest
  · exact_mod_cast ((scaled_lt_iff 53).mpr last.below).le
  · rcases last.lowest.eq_or_lt with same | higher
    · exact Or.inr same.symm
    · exact Or.inl (nearest.le_of_le (by exact_mod_cast (le_scaled_iff 52).mpr (last.above higher)))

theorem ofDecimal_isCanonical (s : Bool) (c : ℕ) (e : ℤ) : (ofDecimal s c e).isCanonical := by
  unfold ofDecimal
  split
  · rfl
  · dsimp only
    split
    · rfl
    · split
      · rfl
      · split
        · exact ofRatio_isCanonical s _ one_ne_zero
        · exact ofRatio_isCanonical s c (tenTo_pos _).ne'

end Binary64

end Reconcile
