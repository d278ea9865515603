import Reconcile.Proofs.Decimal.Nearest

set_option autoImplicit false

/-
What rounding gives: of all numbers that a rounded decimal can stand for one that is nearest to
the exact value, and an overflow exactly from a limit on, which lies half a unit below the first
power of ten that is too great.
-/
namespace Reconcile

theorem dist_scaled (x : ℚ) (unit : ℤ) (y : ℚ) :
    |x - y * 10 ^ unit| = |y - x / 10 ^ unit| * 10 ^ unit := by
  have positive : (0 : ℚ) < 10 ^ unit := by positivity
  rw [← abs_of_pos positive, ← abs_mul, abs_of_pos positive, sub_mul,
    div_mul_cancel₀ _ positive.ne', abs_sub_comm]

/-- Of the multiples of a unit none is nearer than the rounded one. -/
theorem NearestEven.le_multiple {x : ℚ} {unit : ℤ} {n : ℕ}
    (nearest : NearestEven (x / 10 ^ unit) n) (m : ℤ) :
    |x - n * 10 ^ unit| ≤ |x - m * 10 ^ unit| := by
  rw [dist_scaled, dist_scaled]
  exact mul_le_mul_of_nonneg_right (nearest.le_dist m) (by positivity)

namespace Decimal

/-- From here on a number is rounded to one that is too great. -/
def limit : ℚ := (10 ^ (precision : ℤ) - 1 / 2) * 10 ^ (maxExponent - precision + 1)

theorem ten_add (a b : ℤ) : (10 : ℚ) ^ (a + b) = 10 ^ a * 10 ^ b := zpow_add₀ (by norm_num) a b

theorem ten_pos (a : ℤ) : (0 : ℚ) < 10 ^ a := by positivity

theorem ten_mono {a b : ℤ} (le : a ≤ b) : (10 : ℚ) ^ a ≤ 10 ^ b :=
  zpow_le_zpow_right₀ (by norm_num) le

theorem ten_greatest : (10 : ℚ) ^ (maxExponent + 1) =
    10 ^ (precision : ℤ) * 10 ^ (maxExponent - precision + 1) := by
  rw [← ten_add]
  congr 1

theorem limit_le : limit ≤ 10 ^ (maxExponent + 1) := by
  rw [ten_greatest, limit]
  exact mul_le_mul_of_nonneg_right (by linarith) (ten_pos _).le

theorem lt_limit : (10 : ℚ) ^ maxExponent < limit := by
  have split : (10 : ℚ) ^ maxExponent =
      10 ^ ((precision : ℤ) - 1) * 10 ^ (maxExponent - precision + 1) := by
    rw [← ten_add]
    congr 1
  rw [split, limit]
  refine mul_lt_mul_of_pos_right ?_ (ten_pos _)
  norm_num [precision]

/-- The first of the places of a coefficient with as many digits as there may be. -/
theorem ten_leading (unit : ℤ) :
    (10 : ℚ) ^ (unit + precision - 1) = (tenTo (precision - 1) : ℕ) * 10 ^ unit := by
  rw [cast_tenTo, ← ten_add]
  congr 1
  rw [Nat.cast_sub (by decide)]
  push_cast
  ring

/-- Rounding `x` at a place keeps as many digits as there may be, or it keeps `x` as it is. -/
structure Place (x : ℚ) (unit : ℤ) : Prop where
  low : tinyExponent ≤ unit
  few : x < 10 ^ (unit + precision)
  fine : unit = tinyExponent ∨ 10 ^ (unit + precision - 1) ≤ x ∨ ∃ m : ℕ, x = m * 10 ^ unit

section Place

variable {x : ℚ} {unit : ℤ} {n : ℕ}

theorem Place.le_dist (place : Place x unit) (nearest : NearestEven (x / 10 ^ unit) n) {c : ℕ}
    {f : ℤ} (inRange : InRange c f) : |x - n * 10 ^ unit| ≤ |x - c * 10 ^ f| := by
  by_cases multiple : unit ≤ f
  · rw [← magnitude_shift c multiple]
    exact_mod_cast nearest.le_multiple (c * tenTo (f - unit).toNat : ℕ)
  · rcases place.fine with least | leading | ⟨m, exact⟩
    · have lowest := inRange.lowest
      omega
    · -- A number with lower places lies below the least one with the leading digit of `x`.
      have digits := inRange.digits
      have below : (c : ℚ) * 10 ^ f ≤ 10 ^ (unit + precision - 1) :=
        (magnitude_lt c f).le.trans (ten_mono (by omega))
      have close := nearest.le_multiple (tenTo (precision - 1) : ℕ)
      rw [Int.cast_natCast, ← ten_leading] at close
      rw [abs_of_nonneg (sub_nonneg.mpr leading)] at close
      rw [abs_of_nonneg (sub_nonneg.mpr (below.trans leading))]
      linarith
    · rw [exact, mul_div_cancel_right₀ _ (ten_pos unit).ne'] at nearest
      rw [nearest.eq_of_natCast, ← exact, sub_self, abs_zero]
      exact abs_nonneg _

theorem ten_precision : (10 : ℚ) ^ (precision : ℤ) = (tenTo precision : ℕ) := (cast_tenTo _).symm

theorem Place.le_tenTo (place : Place x unit) (nearest : NearestEven (x / 10 ^ unit) n) :
    n ≤ tenTo precision := by
  refine nearest.le_of_ge ?_
  rw [div_le_iff₀ (ten_pos unit), ← ten_precision, ← ten_add, add_comm]
  exact place.few.le

/-- What has a leading digit at the first of the places keeps all digits. -/
theorem tenTo_le_of_leading (nearest : NearestEven (x / 10 ^ unit) n)
    (leading : (10 : ℚ) ^ (unit + precision - 1) ≤ x) : tenTo (precision - 1) ≤ n := by
  rw [ten_leading] at leading
  exact nearest.le_of_le ((le_div_iff₀ (ten_pos unit)).mpr leading)

theorem le_of_leading (nearest : NearestEven (x / 10 ^ unit) n)
    (leading : (10 : ℚ) ^ (unit + precision - 1) ≤ x) :
    (10 : ℚ) ^ (unit + precision - 1) ≤ n * 10 ^ unit := by
  have least := tenTo_le_of_leading nearest leading
  rw [ten_leading]
  exact mul_le_mul_of_nonneg_right (by exact_mod_cast least) (ten_pos unit).le

/-- The tie below the first number that is too great is rounded up, as its lower neighbour is
odd. -/
theorem full_iff (nearest : NearestEven (x / 10 ^ unit) n) :
    tenTo precision ≤ n ↔ (10 ^ (precision : ℤ) - 1 / 2) * 10 ^ unit ≤ x := by
  rw [← le_div_iff₀ (ten_pos unit), ten_precision]
  have error := nearest.error
  constructor
  · intro full
    have most : ((tenTo precision : ℕ) : ℚ) ≤ n := by exact_mod_cast full
    rw [abs_le] at error
    linarith
  · intro above
    by_contra less
    have lower : (n : ℚ) + 1 ≤ (tenTo precision : ℕ) := by
      exact_mod_cast Nat.lt_of_not_le less
    have dist : |(n : ℚ) - x / 10 ^ unit| = 1 / 2 := by
      refine le_antisymm error ?_
      rw [abs_sub_comm]
      exact (by linarith : (1 : ℚ) / 2 ≤ x / 10 ^ unit - n).trans (le_abs_self _)
    have even := nearest.even dist
    have last : n = tenTo precision - 1 := by
      rw [abs_sub_comm, abs_of_nonneg (by linarith)] at dist
      have tight : (n : ℚ) + 1 = (tenTo precision : ℕ) := by linarith
      have whole : n + 1 = tenTo precision := by exact_mod_cast tight
      omega
    rw [last] at even
    revert even
    decide

/-- Between the limit and the first number that is too great there is no multiple of the place
of the last digit. -/
theorem limit_le_multiple {m : ℕ} (multiple : x = m * 10 ^ unit)
    (high : maxExponent - precision + 1 ≤ unit) : limit ≤ x ↔ (10 : ℚ) ^ (maxExponent + 1) ≤ x := by
  constructor
  · intro above
    rw [multiple, ← magnitude_shift m high] at above ⊢
    rw [limit, mul_le_mul_iff_of_pos_right (ten_pos _), ten_precision] at above
    rw [ten_greatest, mul_le_mul_iff_of_pos_right (ten_pos _), ten_precision]
    by_contra less
    have lower : ((m * tenTo (unit - (maxExponent - precision + 1)).toNat : ℕ) : ℚ) + 1 ≤
        (tenTo precision : ℕ) := by
      exact_mod_cast Nat.lt_of_not_le fun le => less (by exact_mod_cast le)
    linarith
  · exact limit_le.trans

/-- A rounded value is too great exactly from the limit on. -/
theorem Place.overflow_iff (place : Place x unit) (nearest : NearestEven (x / 10 ^ unit) n) :
    (10 : ℚ) ^ (maxExponent + 1) ≤ n * 10 ^ unit ↔ limit ≤ x := by
  rcases lt_trichotomy unit (maxExponent - precision + 1) with lower | same | higher
  · -- Neither the exact nor the rounded value reaches the greatest place.
    have small : x < 10 ^ maxExponent := place.few.trans_le (ten_mono (by omega))
    have rounded : (n : ℚ) * 10 ^ unit ≤ 10 ^ maxExponent := by
      have most : (n : ℚ) ≤ (tenTo precision : ℕ) := by exact_mod_cast place.le_tenTo nearest
      calc (n : ℚ) * 10 ^ unit ≤ (tenTo precision : ℕ) * 10 ^ unit :=
            mul_le_mul_of_nonneg_right most (ten_pos unit).le
        _ = 10 ^ (precision + unit) := by rw [← ten_precision, ten_add]
        _ ≤ 10 ^ maxExponent := ten_mono (by omega)
    have below : (10 : ℚ) ^ maxExponent < 10 ^ (maxExponent + 1) :=
      zpow_lt_zpow_right₀ (by norm_num) (by omega)
    have apart := lt_limit
    constructor <;> intro above <;> linarith
  · subst same
    rw [limit, ← full_iff nearest, ten_greatest, ten_precision,
      mul_le_mul_iff_of_pos_right (ten_pos _)]
    exact_mod_cast Iff.rfl
  · rcases place.fine with least | leading | ⟨m, exact⟩
    · subst least
      exact absurd higher (by decide)
    · have reaches : (10 : ℚ) ^ (maxExponent + 1) ≤ 10 ^ (unit + precision - 1) :=
        ten_mono (by omega)
      exact iff_of_true (reaches.trans (le_of_leading nearest leading))
        (limit_le.trans (reaches.trans leading))
    · rw [exact, mul_div_cancel_right₀ _ (ten_pos unit).ne'] at nearest
      rw [nearest.eq_of_natCast, ← exact]
      exact (limit_le_multiple exact higher.le).symm

end Place

/-- A digit too many is given back: the digits are zeros after the first. -/
theorem carried {rounded : ℕ} {unit : ℤ} (low : tinyExponent ≤ unit)
    (few : rounded ≤ tenTo precision) {c : ℕ} {last : ℤ}
    (carry : (if rounded = tenTo precision then (tenTo (precision - 1), unit + 1)
      else (rounded, unit)) = (c, last)) :
    (c : ℚ) * 10 ^ last = rounded * 10 ^ unit ∧ digitCount c ≤ precision ∧
      tinyExponent ≤ last := by
  split_ifs at carry with full
  · obtain ⟨rfl, rfl⟩ := Prod.mk.inj carry
    refine ⟨?_, by decide, by omega⟩
    rw [full, cast_tenTo, cast_tenTo, ← ten_add, ← ten_add, Nat.cast_sub (by decide)]
    congr 1
    push_cast
    ring
  · obtain ⟨rfl, rfl⟩ := Prod.mk.inj carry
    exact ⟨rfl, digitCount_le_iff.mpr (few.lt_of_ne full), low⟩

theorem leading_iff {c : ℕ} (positive : c ≠ 0) (last : ℤ) :
    maxExponent < last + digitCount c - 1 ↔ (10 : ℚ) ^ (maxExponent + 1) ≤ c * 10 ^ last := by
  constructor
  · intro high
    exact (ten_mono (by omega)).trans (le_magnitude positive last)
  · intro great
    by_contra notHigh
    have less := (magnitude_lt c last).trans_le
      (ten_mono (show last + digitCount c ≤ maxExponent + 1 by omega))
    exact absurd great (not_le.mpr less)

/-- The coefficient before the carry is nearest to the exact value in units of the place. -/
theorem shifted_nearest (n : ℕ) {d : ℕ} (divisor : 0 < d) {e : ℤ} {x : ℚ}
    (value : (n : ℚ) / d * 10 ^ e = x) (unit : ℤ) :
    NearestEven (x / 10 ^ unit) (roundShifted n d (e - unit)) := by
  have shifted := roundShifted_nearest n divisor (e - unit)
  rwa [zpow_sub₀ (by norm_num), ← mul_div_assoc, value] at shifted

/-- Rounding at a place overflows from the limit on; below it gives a number that is nearest to
the exact value. -/
theorem settle_cases (s : Bool) (n : ℕ) {d : ℕ} (divisor : 0 < d) {e unit : ℤ} {x : ℚ}
    (value : (n : ℚ) / d * 10 ^ e = x) (place : Place x unit) :
    (limit ≤ x ∧ settle s n d e unit = .error .overflow) ∨
      (x < limit ∧ ∃ c f, settle s n d e unit = .ok (.finite s c f) ∧ InRange c f ∧
        ∀ {c' : ℕ} {f' : ℤ}, InRange c' f' → |x - c * 10 ^ f| ≤ |x - c' * 10 ^ f'|) := by
  have nearest := shifted_nearest n divisor value unit
  unfold settle
  dsimp only
  generalize roundShifted n d (e - unit) = rounded at nearest ⊢
  cases carry : (if rounded = tenTo precision then (tenTo (precision - 1), unit + 1)
    else (rounded, unit)) with
  | mk c last =>
    obtain ⟨same, digits, lowest⟩ := carried place.low (place.le_tenTo nearest) carry
    have close : ∀ {c' : ℕ} {f' : ℤ}, InRange c' f' →
        |x - c * 10 ^ last| ≤ |x - c' * 10 ^ f'| := by
      intro c' f' inRange
      rw [same]
      exact place.le_dist nearest inRange
    have overflow := place.overflow_iff nearest
    rw [← same] at overflow
    dsimp only
    by_cases zero : c = 0
    · subst zero
      rw [Nat.cast_zero, zero_mul] at overflow close
      have below : x < limit :=
        not_le.mp fun above => absurd (overflow.mpr above) (not_le.mpr (ten_pos _))
      refine Or.inr ⟨below, 0, 0, if_pos rfl, ⟨by decide, by decide, by decide⟩, ?_⟩
      intro c' f' inRange
      rw [Nat.cast_zero, zero_mul]
      exact close inRange
    · rw [if_neg zero]
      by_cases above : limit ≤ x
      · have high := (leading_iff zero last).mpr (overflow.mpr above)
        exact Or.inl ⟨above, if_pos high⟩
      · have notHigh := mt (fun high => overflow.mp ((leading_iff zero last).mp high)) above
        exact Or.inr ⟨not_le.mp above, c, last, if_neg notHigh,
          ⟨digits, lowest, Int.not_lt.mp notHigh⟩, close⟩

/-- The numbers that a rounded decimal can stand for. -/
def Representable (y : ℚ) : Prop := ∃ s c e, InRange c e ∧ (finite s c e).toRat = y

/-- A decimal is in range and stands for a number that is nearest to the exact value, of all that
it could stand for. -/
structure Rounds (x : ℚ) (r : Decimal) : Prop where
  inRange : ∃ s c e, InRange c e ∧ r = .finite s c e
  nearest : ∀ y, Representable y → |x - r.toRat| ≤ |x - y|

def sign (s : Bool) : ℚ := if s then -1 else 1

theorem toRat_finite (s : Bool) (c : ℕ) (e : ℤ) : (finite s c e).toRat = sign s * (c * 10 ^ e) := by
  cases s
  · rw [toRat_false, sign, if_neg Bool.false_ne_true, one_mul]
  · rw [toRat_true, sign, if_pos rfl, neg_one_mul]

theorem abs_sign_mul_sub (s : Bool) (x y : ℚ) : |sign s * x - sign s * y| = |x - y| := by
  rw [← mul_sub, abs_mul]
  cases s <;> simp [sign]

theorem inRange_zero : InRange 0 0 := ⟨by decide, by decide, by decide⟩

/-- The sign is put on after the size has been rounded. -/
theorem rounds_of_size (s : Bool) {x : ℚ} (nonneg : 0 ≤ x) {c : ℕ} {f : ℤ} (inRange : InRange c f)
    (close : ∀ {c' : ℕ} {f' : ℤ}, InRange c' f' → |x - c * 10 ^ f| ≤ |x - c' * 10 ^ f'|) :
    Rounds (sign s * x) (.finite s c f) := by
  refine ⟨⟨s, c, f, inRange, rfl⟩, ?_⟩
  rintro y ⟨t, c', f', inRange', rfl⟩
  rw [toRat_finite, toRat_finite, abs_sign_mul_sub]
  by_cases same : s = t
  · rw [same, abs_sign_mul_sub]
    exact close inRange'
  · -- A number of the other sign is farther away than zero.
    have origin := close inRange_zero
    rw [Nat.cast_zero, zero_mul, sub_zero, abs_of_nonneg nonneg] at origin
    refine origin.trans ?_
    have size := magnitude_nonneg c' f'
    have flipped : sign t = -sign s := by
      cases s <;> cases t <;> simp_all [sign]
    have opposite : sign s * x - sign t * (c' * 10 ^ f') = sign s * (x + c' * 10 ^ f') := by
      rw [flipped]
      ring
    rw [opposite, abs_mul, abs_of_nonneg (add_nonneg nonneg size)]
    cases s <;> simp [sign, size]

theorem fit_place (c : ℕ) (e : ℤ) :
    Place (c * 10 ^ e) (max tinyExponent (max e (e + digitCount c - precision))) := by
  refine ⟨le_max_left _ _, ?_, ?_⟩
  · exact (magnitude_lt c e).trans_le (ten_mono (by omega))
  · by_cases zero : c = 0
    · subst zero
      exact Or.inr (Or.inr ⟨0, by rw [Nat.cast_zero, zero_mul, zero_mul]⟩)
    · rcases le_total tinyExponent (max e (e + digitCount c - precision)) with above | below
      · rw [max_eq_right above]
        rcases le_total e (e + digitCount c - precision) with many | few
        · rw [max_eq_right many]
          refine Or.inr (Or.inl ?_)
          rw [sub_add_cancel]
          exact le_magnitude zero e
        · rw [max_eq_left few]
          exact Or.inr (Or.inr ⟨c, rfl⟩)
      · exact Or.inl (max_eq_left below)

theorem fit_cases (s : Bool) (c : ℕ) (e : ℤ) :
    (limit ≤ c * 10 ^ e ∧ fit s c e = .error .overflow) ∨
      (c * 10 ^ e < limit ∧ ∃ r, fit s c e = .ok r ∧ Rounds (finite s c e).toRat r) := by
  have value : (c : ℚ) / (1 : ℕ) * 10 ^ e = c * 10 ^ e := by rw [Nat.cast_one, div_one]
  rcases settle_cases s c Nat.one_pos value (fit_place c e) with
    ⟨above, failed⟩ | ⟨below, c', f, done, inRange, close⟩
  · exact Or.inl ⟨above, failed⟩
  · refine Or.inr ⟨below, .finite s c' f, done, ?_⟩
    rw [toRat_finite]
    exact rounds_of_size s (magnitude_nonneg c e) inRange close

/-- The digits of a quotient, before its place is known. -/
theorem quotient_bounds {n d : ℕ} (someN : n ≠ 0) (someD : d ≠ 0) :
    (10 : ℚ) ^ ((digitCount n : ℤ) - 1 - digitCount d) < n / d ∧
      (n : ℚ) / d < 10 ^ ((digitCount n : ℤ) - digitCount d + 1) := by
  have lowN := le_magnitude someN 0
  have highN := magnitude_lt n 0
  have lowD := le_magnitude someD 0
  have highD := magnitude_lt d 0
  rw [zpow_zero, mul_one, zero_add] at lowN highN lowD highD
  have divisor : (0 : ℚ) < d := by
    have some : 0 < d := Nat.pos_of_ne_zero someD
    exact_mod_cast some
  constructor
  · rw [zpow_sub₀ (by norm_num), div_lt_div_iff₀ (ten_pos _) divisor]
    calc (10 : ℚ) ^ ((digitCount n : ℤ) - 1) * d
        < 10 ^ ((digitCount n : ℤ) - 1) * 10 ^ (digitCount d : ℤ) :=
          mul_lt_mul_of_pos_left highD (ten_pos _)
      _ ≤ n * 10 ^ (digitCount d : ℤ) := mul_le_mul_of_nonneg_right lowN (ten_pos _).le
  · rw [div_lt_iff₀ divisor]
    calc (n : ℚ) < 10 ^ (digitCount n : ℤ) := highN
      _ = 10 ^ ((digitCount n : ℤ) - digitCount d + 1) * 10 ^ ((digitCount d : ℤ) - 1) := by
          rw [← ten_add]
          congr 1
          ring
      _ ≤ 10 ^ ((digitCount n : ℤ) - digitCount d + 1) * d :=
          mul_le_mul_of_nonneg_left lowD (ten_pos _).le

/-- The place that is chosen leaves just as many digits as there may be. -/
theorem quotientUnit_bounds {n d : ℕ} (someN : n ≠ 0) (someD : d ≠ 0) (e : ℤ) :
    (10 : ℚ) ^ (quotientUnit n d e + precision - 1) ≤ (n : ℚ) / d * 10 ^ e ∧
      (n : ℚ) / d * 10 ^ e < 10 ^ (quotientUnit n d e + precision) := by
  obtain ⟨low, high⟩ := quotient_bounds someN someD
  unfold quotientUnit
  dsimp only
  generalize shift : (precision + digitCount d - digitCount n : ℤ) = k
  have whole := le_wholeShifted_iff n (Nat.pos_of_ne_zero someD) k (tenTo_pos precision)
  rw [← ten_precision] at whole
  -- With the shift the quotient has as many digits as there may be, or one more.
  have least : (10 : ℚ) ^ ((precision : ℤ) - 1) < n / d * 10 ^ k := by
    calc (10 : ℚ) ^ ((precision : ℤ) - 1)
        = 10 ^ ((digitCount n : ℤ) - 1 - digitCount d) * 10 ^ k := by
          rw [← ten_add]
          congr 1
          omega
      _ < n / d * 10 ^ k := mul_lt_mul_of_pos_right low (ten_pos k)
  have most : (n : ℚ) / d * 10 ^ k < 10 ^ ((precision : ℤ) + 1) := by
    calc (n : ℚ) / d * 10 ^ k < 10 ^ ((digitCount n : ℤ) - digitCount d + 1) * 10 ^ k :=
          mul_lt_mul_of_pos_right high (ten_pos k)
      _ = 10 ^ ((precision : ℤ) + 1) := by
          rw [← ten_add]
          congr 1
          omega
  have moved : (n : ℚ) / d * 10 ^ e = n / d * 10 ^ k * 10 ^ (e - k) := by
    rw [mul_assoc, ← ten_add, add_sub_cancel]
  have scaled : ∀ a : ℤ, (10 : ℚ) ^ (a + (e - k)) = 10 ^ a * 10 ^ (e - k) :=
    fun a => ten_add a (e - k)
  rw [moved]
  split_ifs with more
  · have above := whole.mp more
    rw [show e - k + 1 + precision - 1 = precision + (e - k) by ring,
      show e - k + 1 + precision = precision + 1 + (e - k) by ring, scaled, scaled]
    exact ⟨mul_le_mul_of_nonneg_right above (ten_pos _).le,
      mul_lt_mul_of_pos_right most (ten_pos _)⟩
  · have below := not_le.mp (mt whole.mpr more)
    rw [show e - k + precision - 1 = precision - 1 + (e - k) by ring,
      show e - k + precision = precision + (e - k) by ring, scaled, scaled]
    exact ⟨mul_le_mul_of_nonneg_right least.le (ten_pos _).le,
      mul_lt_mul_of_pos_right below (ten_pos _)⟩

/-- The place of a quotient is chosen after its leading digit, if that is not too low. -/
theorem fitQuotient_place {n d : ℕ} (someN : n ≠ 0) (someD : d ≠ 0) (e : ℤ) :
    Place ((n : ℚ) / d * 10 ^ e) (max tinyExponent (quotientUnit n d e)) := by
  obtain ⟨leading, few⟩ := quotientUnit_bounds someN someD e
  refine ⟨le_max_left _ _, few.trans_le (ten_mono (by omega)), ?_⟩
  rcases le_total tinyExponent (quotientUnit n d e) with above | below
  · rw [max_eq_right above]
    exact Or.inr (Or.inl leading)
  · exact Or.inl (max_eq_left below)

theorem representable_zero : Representable 0 :=
  ⟨false, 0, 0, inRange_zero, toRat_of_coefficient_zero false 0⟩

theorem representable_one : Representable 1 :=
  ⟨false, 1, 0, ⟨by decide, by decide, by decide⟩, toRat_one⟩

namespace Rounds

variable {x y : ℚ} {r : Decimal}

theorem isFinite (rounds : Rounds x r) : r.isFinite := by
  obtain ⟨s, c, e, -, rfl⟩ := rounds.inRange
  rfl

theorem representable (rounds : Rounds x r) : Representable r.toRat := by
  obtain ⟨s, c, e, inRange, rfl⟩ := rounds.inRange
  exact ⟨s, c, e, inRange, rfl⟩

/-- Nothing is lost exactly if there was nothing to round. -/
theorem eq_iff (rounds : Rounds x r) : r.toRat = x ↔ Representable x := by
  constructor
  · intro same
    exact same ▸ rounds.representable
  · intro kept
    have close := rounds.nearest x kept
    rw [sub_self, abs_zero] at close
    exact (sub_eq_zero.mp (abs_nonpos_iff.mp close)).symm

/-- What is at most a number that needs no rounding is not rounded above it. -/
theorem le_of_le (rounds : Rounds x r) (kept : Representable y) (le : x ≤ y) : r.toRat ≤ y := by
  by_contra more
  have close := rounds.nearest y kept
  rw [abs_sub_comm x, abs_sub_comm x, abs_of_nonneg (by linarith), abs_of_nonneg (by linarith)]
    at close
  linarith

theorem ge_of_ge (rounds : Rounds x r) (kept : Representable y) (ge : y ≤ x) : y ≤ r.toRat := by
  by_contra less
  have close := rounds.nearest y kept
  rw [abs_of_nonneg (by linarith), abs_of_nonneg (by linarith)] at close
  linarith

theorem nonneg (rounds : Rounds x r) (positive : 0 ≤ x) : 0 ≤ r.toRat :=
  rounds.ge_of_ge representable_zero positive

/-- Another form of the same number is rounded too. -/
theorem congr {other : Decimal} (rounds : Rounds x r) (inRange : ∃ s c e, InRange c e ∧
    other = .finite s c e) (same : other.toRat = r.toRat) : Rounds x other :=
  ⟨inRange, by rw [same]; exact rounds.nearest⟩

end Rounds

theorem Canonical.inRange {s : Bool} {c : ℕ} {e : ℤ} (canonical : Canonical (.finite s c e)) :
    InRange c e := by
  cases canonical with
  | zero => exact inRange_zero
  | finite s inRange ends => exact inRange

theorem unpadded_inRange (s : Bool) {c : ℕ} {e : ℤ} (inRange : InRange c e) :
    (∃ t d f, InRange d f ∧ unpadded (.finite s c e) = .finite t d f) ∧
      (unpadded (.finite s c e)).toRat = (finite s c e).toRat := by
  by_cases zero : c = 0
  · subst zero
    refine ⟨⟨s, 0, 0, inRange_zero, rfl⟩, ?_⟩
    rw [unpadded, toRat_of_coefficient_zero, toRat_of_coefficient_zero]
  · obtain ⟨canonical, d, f, stripped, same⟩ := unpadded_of_inRange s zero inRange
    rw [stripped] at canonical ⊢
    refine ⟨⟨s, d, f, canonical.inRange, rfl⟩, ?_⟩
    rw [toRat_finite, toRat_finite, same]

theorem normalize_cases (s : Bool) (c : ℕ) (e : ℤ) :
    (limit ≤ c * 10 ^ e ∧ normalize (.finite s c e) = .error .overflow) ∨
      (c * 10 ^ e < limit ∧
        ∃ r, normalize (.finite s c e) = .ok r ∧ Rounds (finite s c e).toRat r) := by
  rcases fit_cases s c e with ⟨above, failed⟩ | ⟨below, r, done, rounds⟩
  · refine Or.inl ⟨above, ?_⟩
    rw [normalize_finite, failed]
    rfl
  · refine Or.inr ⟨below, unpadded r, ?_, ?_⟩
    · rw [normalize_finite, done]
      rfl
    · obtain ⟨t, c', f, inRange, rfl⟩ := rounds.inRange
      obtain ⟨kept, same⟩ := unpadded_inRange t inRange
      exact rounds.congr kept same

theorem rounds_of_normalize {a r : Decimal} (finite : a.isFinite) (done : a.normalize = .ok r) :
    Rounds a.toRat r := by
  obtain ⟨s, c, e, rfl⟩ := eq_finite_of_isFinite finite
  rcases normalize_cases s c e with ⟨-, failed⟩ | ⟨-, other, made, rounds⟩
  · rw [failed] at done
    cases done
  · cases made.symm.trans done
    exact rounds

/-- Half of the least number above zero, and what is less, is rounded to zero. -/
theorem fit_of_tiny (s : Bool) {c : ℕ} {e : ℤ}
    (tiny : (c : ℚ) * 10 ^ e ≤ 1 / 2 * 10 ^ tinyExponent) : fit s c e = .ok (.finite s 0 0) := by
  have place : c = 0 ∨ max tinyExponent (max e (e + digitCount c - precision)) = tinyExponent := by
    by_cases zero : c = 0
    · exact Or.inl zero
    · -- The leading digit stands below the lowest place.
      have leading : (10 : ℚ) ^ (e + digitCount c - 1) < 10 ^ tinyExponent :=
        ((le_magnitude zero e).trans tiny).trans_lt (by linarith [ten_pos tinyExponent])
      have lower := (zpow_lt_zpow_iff_right₀ (by norm_num)).mp leading
      have counted := digitCount_pos zero
      have digits : (0 : ℤ) < precision := by decide
      exact Or.inr (by omega)
  have none : roundShifted c 1
      (e - max tinyExponent (max e (e + digitCount c - precision))) = 0 := by
    have nearest := roundShifted_nearest c Nat.one_pos
      (e - max tinyExponent (max e (e + digitCount c - precision)))
    rw [Nat.cast_one, div_one] at nearest
    rcases place with rfl | least
    · rw [Nat.cast_zero, zero_mul] at nearest
      exact nearest.eq_zero (by norm_num)
    · rw [least] at nearest ⊢
      refine nearest.eq_zero ?_
      rw [zpow_sub₀ (by norm_num), ← mul_div_assoc, div_le_iff₀ (ten_pos _)]
      exact tiny
  rw [fit, settle, none]
  rfl

/-- A number that is not negative is normalized to zero exactly if it is at most half of the least
number above zero. -/
theorem normalize_eq_zero_iff {s : Bool} {c : ℕ} {e : ℤ} {r : Decimal}
    (done : normalize (.finite s c e) = .ok r) :
    r.toRat = 0 ↔ (c : ℚ) * 10 ^ e ≤ 1 / 2 * 10 ^ tinyExponent := by
  constructor
  · intro zero
    rcases normalize_cases s c e with ⟨-, failed⟩ | ⟨-, r', done', rounds⟩
    · rw [failed] at done
      cases done
    · cases done.symm.trans done'
      have least : InRange 1 tinyExponent := ⟨by decide, by decide, by decide⟩
      have close := rounds.nearest (sign s * 10 ^ tinyExponent)
        ⟨s, 1, tinyExponent, least, by rw [toRat_finite, Nat.cast_one, one_mul]⟩
      rw [zero, toRat_finite, ← mul_zero (sign s), abs_sign_mul_sub, abs_sign_mul_sub, sub_zero,
        abs_of_nonneg (magnitude_nonneg c e)] at close
      by_contra more
      rcases abs_cases ((c : ℚ) * 10 ^ e - 10 ^ tinyExponent) with ⟨same, -⟩ | ⟨same, -⟩
      · linarith [ten_pos tinyExponent]
      · linarith
  · intro tiny
    rw [normalize_finite, fit_of_tiny s tiny] at done
    cases done
    exact toRat_of_coefficient_zero s 0

end Decimal

end Reconcile
