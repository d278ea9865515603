import Mathlib.Tactic.FieldSimp
import Mathlib.Tactic.Linarith
import Reconcile.Binary64.Shortest
import Reconcile.Proofs.Binary64.Rounding
import Reconcile.Proofs.Decimal.Rounding

set_option autoImplicit false

/-
The shortest decimal reads back. Whatever lies in the interval of a number is rounded to it, and
seventeen digits are always enough to reach the interval, so the search never ends without a hit.
-/
namespace Reconcile.Binary64

open Decimal (digitCount cast_tenTo_toNat)

/-- The value rounds to `m * 2 ^ e`. The ends of the interval do so only if the mantissa is even. -/
structure RoundsTo (m : ℕ) (e : ℤ) (x : ℚ) : Prop where
  low : ((m : ℚ) - quarters m e / 4) * 2 ^ e ≤ x
  high : x ≤ (m + 1 / 2) * 2 ^ e
  odd : m % 2 ≠ 0 → ((m : ℚ) - 1 / 2) * 2 ^ e < x ∧ x < (m + 1 / 2) * 2 ^ e

theorem quarters_le (m : ℕ) (e : ℤ) : (quarters m e : ℚ) ≤ 2 := by
  unfold quarters
  split <;> norm_num

theorem lowest_bound : (10 : ℚ) ^ (-330 : ℤ) ≤ 1 / 2 * 2 ^ lowestExponent := by
  have bits : (2 : ℕ) * 2 ^ 1074 ≤ 10 ^ 330 := by decide +kernel
  have inverse : (2 : ℚ) * 2 ^ 1074 ≤ 10 ^ 330 := by exact_mod_cast bits
  rw [lowestExponent, zpow_neg, zpow_neg, one_div, ← mul_inv]
  exact inv_anti₀ (by positivity) inverse

theorem greatest_bound : (2 : ℚ) ^ 53 * 2 ^ greatestExponent < 10 ^ (310 : ℤ) := by
  have bits : (2 : ℕ) ^ 53 * 2 ^ 971 < 10 ^ 310 := by decide +kernel
  have cast : (2 : ℚ) ^ 53 * 2 ^ 971 < 10 ^ 310 := by exact_mod_cast bits
  rw [show greatestExponent = ((971 : ℕ) : ℤ) from rfl, show (310 : ℤ) = ((310 : ℕ) : ℤ) from rfl,
    zpow_natCast, zpow_natCast]
  exact cast

section Back

variable {s : Bool} {m : ℕ} {e : ℤ} {x : ℚ} (rounds : RoundsTo m e x)
include rounds

theorem RoundsTo.pos (some : m ≠ 0) : 0 < x := by
  have least : (1 : ℚ) ≤ m := by exact_mod_cast Nat.one_le_iff_ne_zero.mpr some
  have quarter := quarters_le m e
  refine lt_of_lt_of_le (mul_pos ?_ (unit_pos e)) rounds.low
  linarith

theorem RoundsTo.scaled : (m : ℚ) - quarters m e / 4 ≤ x / 2 ^ e ∧ x / 2 ^ e ≤ m + 1 / 2 :=
  ⟨(le_div_iff₀ (unit_pos e)).mpr rounds.low, (div_le_iff₀ (unit_pos e)).mpr rounds.high⟩

theorem RoundsTo.nearest (near : (m : ℚ) - 1 / 2 ≤ x / 2 ^ e) : NearestEven (x / 2 ^ e) m := by
  obtain ⟨-, most⟩ := rounds.scaled
  refine ⟨?_, ?_⟩
  · rw [abs_le]
    constructor <;> linarith
  · intro half
    by_contra odd
    obtain ⟨above, below⟩ := rounds.odd odd
    rw [← lt_div_iff₀ (unit_pos e)] at above
    rw [← div_lt_iff₀ (unit_pos e)] at below
    have inside : |(m : ℚ) - x / 2 ^ e| < 1 / 2 := by
      rw [abs_lt]
      constructor <;> linarith
    exact absurd half inside.ne

variable (canonical : (finite s m e).isCanonical = true)
include canonical

/-- A lower quarter below a power of two has its last bit one place lower, where rounding
carries. -/
theorem RoundsTo.settled_below (higher : lowestExponent < e) (lower : x / 2 ^ e < 2 ^ 52) :
    Last x (e - 1) ∧ NearestEven (x / 2 ^ (e - 1)) (2 ^ 53) ∧
      settle s (2 ^ 53) (e - 1) = finite s m e := by
  obtain ⟨-, full, -, high⟩ := isCanonical_finite.mp canonical
  obtain ⟨least, -⟩ := rounds.scaled
  have quarter := quarters_le m e
  have boundary : m = 2 ^ 52 := by
    have bits : 2 ^ 52 ≤ m := full.resolve_right (by omega)
    have next : (m : ℚ) < 2 ^ 52 + 1 := by linarith
    have : m < 2 ^ 52 + 1 := by exact_mod_cast next
    omega
  have one : (quarters m e : ℚ) = 1 := by rw [quarters, if_pos ⟨boundary, higher⟩, Nat.cast_one]
  have whole : (m : ℚ) = 2 ^ 52 := by exact_mod_cast boundary
  have place : (2 : ℚ) ^ e = 2 * 2 ^ (e - 1) := by
    rw [show e = 1 + (e - 1) by omega, two_add, zpow_one, add_sub_cancel_left]
  have double : x / 2 ^ (e - 1) = 2 * (x / 2 ^ e) := by
    rw [place]
    field_simp
  rw [one, whole] at least
  refine ⟨⟨by omega, ?_, fun _ => ?_⟩, ⟨?_, fun _ => by decide⟩, ?_⟩
  · rw [show e - 1 + 53 = e + (52 : ℕ) by omega, ← scaled_lt_iff]
    exact lower
  · rw [show e - 1 + 52 = e - 1 + (52 : ℕ) by omega, ← le_scaled_iff, double]
    linarith
  · rw [double, abs_le]
    push_cast
    constructor <;> linarith
  · have carried : 2 ^ 53 = twoTo 53 := rfl
    rw [settle, if_pos carried]
    dsimp only
    rw [sub_add_cancel, if_neg (not_lt.mpr high), boundary]
    rfl

/-- The rest of the interval has it at the place of the mantissa. -/
theorem RoundsTo.settled_at (apart : lowestExponent < e → 2 ^ 52 ≤ x / 2 ^ e) :
    Last x e ∧ NearestEven (x / 2 ^ e) m ∧ settle s m e = finite s m e := by
  obtain ⟨few, -, low, high⟩ := isCanonical_finite.mp canonical
  obtain ⟨least, most⟩ := rounds.scaled
  have fewer : (m : ℚ) + 1 ≤ 2 ^ 53 := by exact_mod_cast few
  have quarter := quarters_le m e
  have below : x / 2 ^ e < 2 ^ 53 := by linarith
  refine ⟨⟨low, (scaled_lt_iff 53).mp below, fun higher => (le_scaled_iff 52).mp (apart higher)⟩,
    rounds.nearest (by linarith), ?_⟩
  have bits : twoTo 53 = 2 ^ 53 := rfl
  rw [settle, if_neg (by omega)]
  exact if_neg (not_lt.mpr high)

theorem RoundsTo.settled : ∃ n f, Last x f ∧ NearestEven (x / 2 ^ f) n ∧
    settle s n f = finite s m e := by
  by_cases lower : lowestExponent < e ∧ x / 2 ^ e < 2 ^ 52
  · exact ⟨_, _, rounds.settled_below canonical lower.1 lower.2⟩
  · exact ⟨m, e, rounds.settled_at canonical fun higher =>
      le_of_not_gt fun less => lower ⟨higher, less⟩⟩

/-- A ratio that rounds to a number in the form of the format is read as that number. -/
theorem RoundsTo.ofRatio {n d : ℕ} (some : m ≠ 0) (ratio : (n : ℚ) / d = x) :
    ofRatio s n d = finite s m e := by
  have positive := rounds.pos some
  have someN : n ≠ 0 := by
    rintro rfl
    rw [Nat.cast_zero, zero_div] at ratio
    exact positive.ne ratio
  have someD : d ≠ 0 := by
    rintro rfl
    rw [Nat.cast_zero, div_zero] at ratio
    exact positive.ne ratio
  obtain ⟨k, f, last, nearest, settled⟩ := rounds.settled canonical
  rw [← ratio] at last nearest
  rw [ofRatio_eq s someN someD last nearest, settled]

/-- No number of the format is so great or so small that its decimals are not read in full. -/
theorem RoundsTo.bounds (some : m ≠ 0) :
    (10 : ℚ) ^ (-330 : ℤ) ≤ x ∧ x < 10 ^ (310 : ℤ) := by
  obtain ⟨few, -, low, high⟩ := isCanonical_finite.mp canonical
  have least : (1 : ℚ) ≤ m := by exact_mod_cast Nat.one_le_iff_ne_zero.mpr some
  have most : (m : ℚ) + 1 ≤ 2 ^ 53 := by exact_mod_cast few
  have quarter := quarters_le m e
  constructor
  · refine le_trans ?_ rounds.low
    calc (10 : ℚ) ^ (-330 : ℤ) ≤ 1 / 2 * 2 ^ lowestExponent := lowest_bound
      _ ≤ (m - quarters m e / 4) * 2 ^ e := by
          refine mul_le_mul ?_ (two_le_two low) (unit_pos _).le ?_ <;> linarith
  · refine lt_of_le_of_lt rounds.high ?_
    calc ((m : ℚ) + 1 / 2) * 2 ^ e ≤ 2 ^ 53 * 2 ^ greatestExponent := by
          refine mul_le_mul ?_ (two_le_two high) (unit_pos _).le ?_ <;> linarith
      _ < 10 ^ (310 : ℤ) := greatest_bound

/-- A decimal that rounds to a number in the form of the format is read as that number. -/
theorem RoundsTo.ofDecimal {c : ℕ} {p : ℤ} (some : m ≠ 0) (value : (c : ℚ) * 10 ^ p = x) :
    ofDecimal s c p = finite s m e := by
  have positive := rounds.pos some
  obtain ⟨least, most⟩ := rounds.bounds canonical some
  have someC : c ≠ 0 := by
    rintro rfl
    rw [Nat.cast_zero, zero_mul] at value
    exact positive.ne value
  rw [← value] at least most
  have low : ¬ p + digitCount c < -330 := by
    intro small
    have below := (Decimal.magnitude_lt c p).trans_le (Decimal.ten_mono small.le)
    exact absurd least (not_le.mpr below)
  have high : ¬ 310 < p + digitCount c := by
    intro great
    have above := (Decimal.ten_mono (show 310 ≤ p + digitCount c - 1 by omega)).trans
      (Decimal.le_magnitude someC p)
    exact absurd most (not_lt.mpr above)
  rw [Binary64.ofDecimal, if_neg someC]
  dsimp only
  rw [if_neg high, if_neg low]
  split
  · rename_i up
    refine rounds.ofRatio canonical some ?_
    rw [Nat.cast_mul, cast_tenTo_toNat up, Nat.cast_one, div_one, value]
  · rename_i down
    refine rounds.ofRatio canonical some ?_
    rw [cast_tenTo_toNat (by omega), zpow_neg, div_inv_eq_mul, value]

end Back

section Grid

variable {d : ℕ}

/-- A decimal in the units in which it is compared. -/
theorem cast_scaled (d c : ℕ) (p : ℤ) :
    ((c * tenTo p.toNat * d : ℕ) : ℚ) = c * 10 ^ p * d * tenTo (-p).toNat := by
  have power : (tenTo p.toNat : ℚ) = 10 ^ p * tenTo (-p).toNat := by
    rw [Decimal.cast_tenTo, Decimal.cast_tenTo, ← Decimal.ten_add]
    congr 1
    omega
  rw [Nat.cast_mul, Nat.cast_mul, power]
  ring

variable (some : d ≠ 0)
include some

theorem le_scaled_iff_le (a c : ℕ) (p : ℤ) :
    a * tenTo (-p).toNat ≤ c * tenTo p.toNat * d ↔ (a : ℚ) / d ≤ c * 10 ^ p := by
  have positive : (0 : ℚ) < d := by exact_mod_cast Nat.pos_of_ne_zero some
  have scale : (0 : ℚ) < tenTo (-p).toNat := by exact_mod_cast tenTo_pos (-p).toNat
  rw [← Nat.cast_le (α := ℚ), cast_scaled, Nat.cast_mul, mul_le_mul_iff_of_pos_right scale,
    div_le_iff₀ positive]

theorem scaled_le_iff_le (a c : ℕ) (p : ℤ) :
    c * tenTo p.toNat * d ≤ a * tenTo (-p).toNat ↔ (c : ℚ) * 10 ^ p ≤ a / d := by
  have positive : (0 : ℚ) < d := by exact_mod_cast Nat.pos_of_ne_zero some
  have scale : (0 : ℚ) < tenTo (-p).toNat := by exact_mod_cast tenTo_pos (-p).toNat
  rw [← Nat.cast_le (α := ℚ), cast_scaled, Nat.cast_mul, mul_le_mul_iff_of_pos_right scale,
    le_div_iff₀ positive]

theorem scaled_lt_iff_lt (a c : ℕ) (p : ℤ) :
    c * tenTo p.toNat * d < a * tenTo (-p).toNat ↔ (c : ℚ) * 10 ^ p < a / d :=
  lt_iff_lt_of_le_iff_le (le_scaled_iff_le some a c p)

theorem lt_scaled_iff_lt (a c : ℕ) (p : ℤ) :
    a * tenTo (-p).toNat < c * tenTo p.toNat * d ↔ (a : ℚ) / d < c * 10 ^ p :=
  lt_iff_lt_of_le_iff_le (scaled_le_iff_le some a c p)

/-- A positive ratio reaches the place that is taken for that of its leading digit. -/
theorem ten_leadingPlace_le {n : ℕ} (someN : n ≠ 0) :
    (10 : ℚ) ^ leadingPlace n d ≤ n / d := by
  have reaches := scaled_le_iff_le some n 1 ((digitCount n : ℤ) - digitCount d)
  rw [one_mul, Nat.cast_one, one_mul, mul_comm (tenTo _)] at reaches
  unfold leadingPlace
  dsimp only
  split
  · rename_i exactly
    exact reaches.mp exactly
  · have low := (Decimal.quotient_bounds someN some).1
    rw [sub_right_comm] at low
    exact low.le

end Grid

section Interval

variable {i : Interval} (den : i.den ≠ 0)
include den

theorem holds_of_between {c : ℕ} {p : ℤ} (above : (i.low : ℚ) / i.den < c * 10 ^ p)
    (below : (c : ℚ) * 10 ^ p < i.high / i.den) : i.holds c p = true := by
  have less := (lt_scaled_iff_lt den i.low c p).mpr above
  have more := (scaled_lt_iff_lt den i.high c p).mpr below
  unfold Interval.holds
  dsimp only
  split <;> simp [less, more, less.le, more.le]

theorem bounds_of_holds {c : ℕ} {p : ℤ} (holds : i.holds c p = true) :
    (i.low : ℚ) / i.den ≤ c * 10 ^ p ∧ (c : ℚ) * 10 ^ p ≤ i.high / i.den ∧
      (i.closed = false →
        (i.low : ℚ) / i.den < c * 10 ^ p ∧ (c : ℚ) * 10 ^ p < i.high / i.den) := by
  rw [← le_scaled_iff_le den, ← scaled_le_iff_le den, ← lt_scaled_iff_lt den,
    ← scaled_lt_iff_lt den]
  unfold Interval.holds at holds
  dsimp only at holds
  split at holds
  · rename_i closed
    simp only [Bool.and_eq_true, decide_eq_true_eq] at holds
    exact ⟨holds.1, holds.2, fun isOpen => by rw [closed] at isOpen; cases isOpen⟩
  · simp only [Bool.and_eq_true, decide_eq_true_eq] at holds
    exact ⟨holds.1.le, holds.2.le, fun _ => holds⟩

/-- The value lies between two neighbours on a grid. -/
theorem near_bounds (p : ℤ) : ((i.near p).1 : ℚ) * 10 ^ p ≤ i.value / i.den ∧
    (i.value : ℚ) / i.den < ((i.near p).1 + 1 : ℕ) * 10 ^ p := by
  have positive : 0 < tenTo p.toNat * i.den := Nat.mul_pos (tenTo_pos _) (Nat.pos_of_ne_zero den)
  rw [← scaled_le_iff_le den, ← lt_scaled_iff_lt den, mul_assoc, mul_assoc]
  exact ⟨Nat.div_mul_le_self _ _, Nat.lt_mul_of_div_lt (Nat.lt_succ_self _) positive⟩

end Interval

/-- One of the two neighbours on a grid lies in the interval. -/
def Interval.Hits (i : Interval) (p : ℤ) : Prop :=
  i.holds (i.near p).1 p = true ∨ i.holds ((i.near p).1 + 1) p = true

/-- A search that comes to a grid with a hit ends with a decimal in the interval. -/
theorem search_holds {i : Interval} {fuel : ℕ} {p : ℤ} (hit : ∃ k < fuel, i.Hits (p - k)) :
    i.holds (i.search fuel p).1 (i.search fuel p).2 = true := by
  induction fuel generalizing p with
  | zero =>
    obtain ⟨k, less, -⟩ := hit
    cases less
  | succ fuel ih =>
    obtain ⟨k, less, hits⟩ := hit
    unfold Interval.search
    rcases near : i.near p with ⟨c, half⟩
    cases lower : i.holds c p <;> cases upper : i.holds (c + 1) p <;>
      simp only [Bool.and_true, Bool.and_false, Bool.false_eq_true, if_true, if_false, lower,
        upper]
    · refine ih ?_
      cases k with
      | zero =>
        rw [Nat.cast_zero, sub_zero, Interval.Hits, near, lower, upper] at hits
        exact absurd hits (by decide)
      | succ k =>
        refine ⟨k, by omega, ?_⟩
        rwa [sub_sub, add_comm 1, ← Nat.cast_succ]
    · split
      · exact lower
      · split <;> assumption
      · exact upper

section Hits

variable {m : ℕ} {e : ℤ}

theorem quarter_unit (e : ℤ) :
    (twoTo (e - 2).toNat : ℚ) / twoTo (2 - e).toNat = 2 ^ e / 4 := by
  rw [cast_twoTo, cast_twoTo, ← zpow_sub₀ two_ne_zero,
    show ((e - 2).toNat : ℤ) - (2 - e).toNat = e - 2 by omega, zpow_sub₀ two_ne_zero]
  norm_num

theorem intervalOf_den (m : ℕ) (e : ℤ) : (intervalOf m e).den ≠ 0 := (twoTo_pos _).ne'

theorem intervalOf_value (m : ℕ) (e : ℤ) :
    ((intervalOf m e).value : ℚ) / (intervalOf m e).den = m * 2 ^ e := by
  rw [intervalOf, Nat.cast_mul, mul_div_assoc, quarter_unit]
  push_cast
  ring

theorem intervalOf_high (m : ℕ) (e : ℤ) :
    ((intervalOf m e).high : ℚ) / (intervalOf m e).den = (m + 1 / 2) * 2 ^ e := by
  rw [intervalOf, Nat.cast_mul, mul_div_assoc, quarter_unit]
  push_cast
  ring

theorem intervalOf_low (some : m ≠ 0) (e : ℤ) :
    ((intervalOf m e).low : ℚ) / (intervalOf m e).den = (m - quarters m e / 4) * 2 ^ e := by
  have few : quarters m e ≤ 4 * m := by
    have most : (quarters m e : ℚ) ≤ 2 := quarters_le m e
    have : quarters m e ≤ 2 := by exact_mod_cast most
    omega
  rw [intervalOf, Nat.cast_mul, mul_div_assoc, quarter_unit, Nat.cast_sub few]
  push_cast
  ring

/-- A decimal in the interval of a number rounds to it. -/
theorem roundsTo_of_holds (some : m ≠ 0) {c : ℕ} {p : ℤ}
    (holds : (intervalOf m e).holds c p = true) : RoundsTo m e (c * 10 ^ p) := by
  obtain ⟨low, high, strict⟩ := bounds_of_holds (intervalOf_den m e) holds
  rw [intervalOf_low some, intervalOf_high] at strict
  rw [intervalOf_low some] at low
  rw [intervalOf_high] at high
  refine ⟨low, high, fun odd => ?_⟩
  have even : twoTo 52 % 2 = 0 := rfl
  have two : quarters m e = 2 := by
    refine if_neg ?_
    rintro ⟨rfl, -⟩
    exact odd even
  have isOpen : (intervalOf m e).closed = false := decide_eq_false odd
  have inside := strict isOpen
  rw [two] at inside
  norm_num at inside ⊢
  exact inside

/-- The last of seventeen digits is a smaller unit than the distance to the ends, twice. -/
theorem seventeenth_digit_lt (few : m < 2 ^ 53) {unit : ℚ}
    (leading : unit * 10 ^ 16 ≤ m * 2 ^ e) (some : 0 < unit) :
    unit < quarters m e / 2 * 2 ^ e := by
  have place := unit_pos e
  unfold quarters
  split
  · rename_i boundary
    have whole : (m : ℚ) = 2 ^ 52 := by exact_mod_cast boundary.1
    rw [whole] at leading
    push_cast
    linarith
  · have fewer : (m : ℚ) * 2 ^ e < 2 ^ 53 * 2 ^ e := by
      refine mul_lt_mul_of_pos_right ?_ place
      exact_mod_cast few
    push_cast
    linarith

/-- Seventeen digits are enough to reach the interval. -/
theorem intervalOf_hits (some : m ≠ 0) (few : m < 2 ^ 53) :
    (intervalOf m e).Hits
      (leadingPlace (intervalOf m e).value (intervalOf m e).den - (16 : ℕ)) := by
  have den := intervalOf_den m e
  have value : (intervalOf m e).value ≠ 0 := by
    have scale := twoTo_pos (e - 2).toNat
    exact Nat.mul_ne_zero (by omega) scale.ne'
  have reached := ten_leadingPlace_le den value
  obtain ⟨below, above⟩ := near_bounds den
    (leadingPlace (intervalOf m e).value (intervalOf m e).den - (16 : ℕ))
  rw [intervalOf_value] at reached below above
  set p := leadingPlace (intervalOf m e).value (intervalOf m e).den - (16 : ℕ) with place
  set c := ((intervalOf m e).near p).1
  have leading : (10 : ℚ) ^ p * 10 ^ 16 ≤ m * 2 ^ e := by
    rw [place, zpow_sub₀ (by norm_num), zpow_natCast, div_mul_cancel₀ _ (by norm_num)]
    exact reached
  have fine := seventeenth_digit_lt few leading (Decimal.ten_pos p)
  have quarter : (quarters m e : ℚ) * 2 ^ e ≤ 2 * 2 ^ e :=
    mul_le_mul_of_nonneg_right (quarters_le m e) (unit_pos e).le
  have unit := unit_pos e
  rw [Nat.cast_add_one, add_mul, one_mul] at above
  -- The nearer of the two neighbours is at most half a unit away.
  by_cases near : (m : ℚ) * 2 ^ e - c * 10 ^ p ≤ 10 ^ p / 2
  · refine Or.inl (holds_of_between den ?_ ?_)
    · rw [intervalOf_low some, sub_mul]
      linarith
    · rw [intervalOf_high, add_mul]
      linarith
  · refine Or.inr (holds_of_between den ?_ ?_)
    · rw [intervalOf_low some, sub_mul, Nat.cast_add_one, add_mul, one_mul]
      linarith
    · rw [intervalOf_high, add_mul, Nat.cast_add_one, add_mul, one_mul]
      linarith

theorem stripZeros_value (fuel c : ℕ) (p : ℤ) :
    ((Decimal.stripZeros fuel c p).1 : ℚ) * 10 ^ (Decimal.stripZeros fuel c p).2 = c * 10 ^ p := by
  obtain ⟨k, exponent, coefficient⟩ := Decimal.stripZeros_spec fuel c p
  have value : (c : ℚ) = (Decimal.stripZeros fuel c p).1 * tenTo k := by exact_mod_cast coefficient
  rw [exponent, value, Decimal.cast_tenTo, Decimal.ten_add]
  ring

theorem shortest_rounds (some : m ≠ 0) (few : m < 2 ^ 53) :
    RoundsTo m e ((shortest m e).1 * 10 ^ (shortest m e).2) := by
  have reaches : (16 : ℕ) < 17 := by decide
  rw [shortest, if_neg some]
  dsimp only
  rw [stripZeros_value]
  exact roundsTo_of_holds some (search_holds ⟨16, reaches, intervalOf_hits some few⟩)

end Hits

/-- A decimal that is equal to the shortest one of a number is read as that number. -/
theorem ofDecimal_shortest {s : Bool} {m c : ℕ} {e p : ℤ}
    (canonical : (finite s m e).isCanonical = true) (some : m ≠ 0)
    (value : (c : ℚ) * 10 ^ p = (shortest m e).1 * 10 ^ (shortest m e).2) :
    ofDecimal s c p = finite s m e :=
  (shortest_rounds some (isCanonical_finite.mp canonical).1).ofDecimal canonical some value

/-- A tenth is no binary number; what it is rounded to has a tenth as its shortest decimal. -/
example : shortest 7205759403792794 (-56) = (1, -1) := by decide +kernel

end Reconcile.Binary64
