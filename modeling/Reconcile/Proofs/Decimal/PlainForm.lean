import Reconcile.Proofs.Decimal.Printing
import Reconcile.Store.Column

set_option autoImplicit false

/-
Plain forms tell numbers apart. A number that rounding leaves as it is has a plain form without an
exponent and without a zero too many; an equal number is read of it, and other numbers, zeros apart,
have other forms. So a column that keeps plain forms gives back the number that it was given.
-/
namespace Reconcile.Decimal

/-- The place of the leading digit; that of the last one for zero. -/
def leadingPlace (c : Nat) (e : Int) : Int := if c = 0 then e else e + digitCount c - 1

/-- A number with no more significant digits than a result keeps, zeros at the end apart, whose
leading digit stands within the range of places. -/
def Lossless (a : Decimal) : Prop :=
  ∃ s c k e, a = .finite s (c * tenTo k) e ∧ digitCount c ≤ precision ∧
    -maxExponent ≤ leadingPlace (c * tenTo k) e ∧ leadingPlace (c * tenTo k) e ≤ maxExponent

/-- Digits, perhaps with a minus in front and a point among them. The only zero that may stand
in front of the point is a single one, and none stands at the end after the point. -/
def PlainForm (text : String) : Prop :=
  ∃ (negative : Bool) (body whole fraction : List Char),
    text = minus negative ++ String.ofList body ∧ Parts body whole fraction ∧
      (whole.head? = some '0' → whole = ['0']) ∧ fraction.getLast? ≠ some '0'

section Digits

theorem digitChar_ne_zero : ∀ d < 10, d ≠ 0 → d.digitChar ≠ '0' := by decide

/-- The digits of a number begin with zero only if it is zero. -/
theorem head?_digitsOf {c : Nat} (nonzero : c ≠ 0) : (digitsOf c).head? ≠ some '0' := by
  induction c using Nat.strongRecOn with
  | ind c ih =>
    rcases lt_or_ge c 10 with single | more
    · rw [digitsOf, Nat.toDigits_of_lt_base single, List.head?_singleton, ne_eq,
        Option.some.injEq]
      exact digitChar_ne_zero c single nonzero
    · rw [digitsOf, Nat.toDigits_of_base_le (by decide) more,
        List.head?_append_of_ne_nil _ Nat.toDigits_ne_nil]
      exact ih (c / 10) (by omega) (by omega)

theorem getLast?_digitsOf {c : Nat} (ends : c % 10 ≠ 0) : (digitsOf c).getLast? ≠ some '0' := by
  have last : (digitsOf c).getLast? = some (c % 10).digitChar := by
    rcases lt_or_ge c 10 with single | more
    · rw [digitsOf, Nat.toDigits_of_lt_base single, Nat.mod_eq_of_lt single]
      rfl
    · rw [digitsOf, Nat.toDigits_of_base_le (by decide) more, List.getLast?_concat]
  rw [last, ne_eq, Option.some.injEq]
  exact digitChar_ne_zero _ (Nat.mod_lt c (by decide)) ends

end Digits

/-- The plain form of a canonical number has no exponent and no zero too many. -/
theorem Canonical.plainForm {a : Decimal} (canonical : a.Canonical) (finite : a.isFinite) :
    PlainForm a.plainText := by
  cases canonical with
  | zero s =>
    exact ⟨s, ['0'], ['0'], [], rfl, parts_whole 0 0, fun _ => rfl, by simp⟩
  | @finite s c e inRange ends =>
    have nonzero : c ≠ 0 := by
      rintro rfl
      exact ends rfl
    have begins := head?_digitsOf nonzero
    have visible : digitsOf c ≠ [] := Nat.toDigits_ne_nil
    rcases lt_or_ge e 0 with negative | nonneg
    · have places : (-e).toNat ≠ 0 := by omega
      have row : Row (digitsOf c) := .toDigits c
      refine ⟨s, _, _, _, ?_, parts_pointed row places, head?_wholePart begins, ?_⟩
      · rw [plainText, if_neg (not_le.mpr negative)]
      · rw [getLast?_fractionPart visible places]
        exact getLast?_digitsOf ends
    · refine ⟨s, _, _, [], ?_, parts_whole c e.toNat, ?_, by simp⟩
      · rw [plainText, if_pos nonneg, if_neg nonzero]
      · rw [List.head?_append_of_ne_nil _ visible]
        exact fun zero => absurd zero begins
  | infinite => cases finite
  | nan => cases finite

section Lossless

variable {a b : Decimal}

theorem Lossless.isFinite (lossless : a.Lossless) : a.isFinite := by
  obtain ⟨s, c, k, e, rfl, -⟩ := lossless
  rfl

/-- Without the zeros at its end the number is in range. -/
theorem inRange_of_leading {c k : Nat} {e : Int} (nonzero : c ≠ 0)
    (digits : digitCount c ≤ precision) (low : -maxExponent ≤ leadingPlace (c * tenTo k) e)
    (high : leadingPlace (c * tenTo k) e ≤ maxExponent) : InRange c (e + k) := by
  have filled : c * tenTo k ≠ 0 := Nat.mul_ne_zero nonzero (tenTo_pos k).ne'
  rw [leadingPlace, if_neg filled, digitCount_mul_tenTo nonzero] at low high
  refine ⟨digits, ?_, by omega⟩
  simp only [precision, tinyExponent, maxExponent] at *
  omega

theorem Lossless.normalize (lossless : a.Lossless) :
    ∃ r, a.normalize = .ok r ∧ r.Canonical ∧ r.isFinite ∧ r.toRat = a.toRat := by
  obtain ⟨s, c, k, e, rfl, digits, low, high⟩ := lossless
  rcases Nat.eq_zero_or_pos c with rfl | positive
  · have same : ((0 * tenTo k : Nat) : ℚ) * 10 ^ e = (0 : Nat) * 10 ^ (0 : Int) := by simp
    refine ⟨.finite s 0 0, ?_, .zero s, rfl, ?_⟩
    · rw [normalize_of_magnitude s same]
      rfl
    · rw [toRat_finite, toRat_finite, same]
  · have inRange := inRange_of_leading positive.ne' digits low high
    have same : ((c * tenTo k : Nat) : ℚ) * 10 ^ e = c * 10 ^ (e + k) := by
      have shifted := magnitude_shift c (show e ≤ e + (k : Int) by omega)
      rwa [add_sub_cancel_left, Int.toNat_natCast] at shifted
    obtain ⟨r, done, finite, value⟩ := normalize_of_inRange s inRange
    refine ⟨r, ?_, canonical_of_normalize done, finite, ?_⟩
    · rw [normalize_of_magnitude s same, done]
    · rw [value, toRat_finite, toRat_finite, same]

/-- The plain form is read as an equal number, and normalizing that leaves an equal one too. -/
theorem Lossless.format (lossless : a.Lossless) :
    ∃ text back stored, a.format = .ok text ∧ PlainForm text ∧ read? text = some back ∧
      back.isFinite ∧ back.toRat = a.toRat ∧ back.normalize = .ok stored ∧ stored.isFinite ∧
      stored.toRat = a.toRat := by
  obtain ⟨stored, done, canonical, finite, same⟩ := lossless.normalize
  obtain ⟨back, read, finiteBack, sameBack, again⟩ := read?_of_canonical canonical finite
  refine ⟨stored.plainText, back, stored, ?_, canonical.plainForm finite, read, finiteBack,
    sameBack.trans same, again, finite, same⟩
  rw [Decimal.format, done]
  rfl

theorem toRat_ne_zero (finite : a.isFinite) (nonzero : a.isZero = false) : a.toRat ≠ 0 := by
  obtain ⟨s, c, e, rfl⟩ := eq_finite_of_isFinite finite
  have some : c ≠ 0 := by simpa [isZero] using nonzero
  rw [← abs_ne_zero, abs_toRat]
  exact (magnitude_pos some e).ne'

/-- Numbers other than zero have the same plain form exactly if they are equal. -/
theorem format_eq_iff (losslessA : a.Lossless) (losslessB : b.Lossless)
    (nonzero : a.isZero = false) : a.format = b.format ↔ a.toRat = b.toRat := by
  constructor
  · intro same
    obtain ⟨text, back, -, made, -, read, -, value, -⟩ := losslessA.format
    obtain ⟨text', back', -, made', -, read', -, value', -⟩ := losslessB.format
    rw [made, made'] at same
    cases Except.ok.inj same
    obtain rfl := Option.some.inj (read.symm.trans read')
    exact value.symm.trans value'
  · intro same
    have sign : a.isNegative = b.isNegative := by
      by_contra different
      exact toRat_ne_zero losslessA.isFinite nonzero
        (eq_zero_of_sign losslessA.isFinite losslessB.isFinite different same)
    rw [Decimal.format, Decimal.format,
      normalize_congr losslessA.isFinite losslessB.isFinite sign same]

end Lossless

theorem read_of_read? {text : String} {a : Decimal} (found : read? text = some a) :
    read text = .ok a := by
  rw [read, found]

/-- A number that rounding leaves as it is has a plain form, of which an equal number is read. A
column that keeps plain forms gives back an equal and normalized number. Two such numbers other than
zero have one form exactly if they are equal. -/
theorem plain_form_determines_number {a : Decimal} (lossless : a.Lossless) :
    ∃ text back stored, a.format = .ok text ∧ PlainForm text ∧
      read text = .ok back ∧ back.same? a = .ok true ∧
      Column.bindDecimal .sqlite a = .ok (.text text) ∧
      Column.readDecimal (.text text) = .ok stored ∧ stored.same? a = .ok true ∧
      stored.normalize = .ok stored ∧
      ∀ b : Decimal, b.Lossless → a.isZero = false → b.isZero = false →
        (a.format = b.format ↔ a.same? b = .ok true) := by
  obtain ⟨text, back, stored, made, plain, found, finiteBack, sameBack, again, finite, same⟩ :=
    lossless.format
  have read := read_of_read? found
  refine ⟨text, back, stored, made, plain, read, ?_, ?_, ?_, ?_, normalize_idem again, ?_⟩
  · rw [same?_eq finiteBack lossless.isFinite, decide_eq_true sameBack]
  · rw [Column.bindDecimal, made]
    rfl
  · rw [Column.readDecimal, bind_of_ok read, again]
  · rw [same?_eq finite lossless.isFinite, decide_eq_true same]
  · intro b other nonzero _
    rw [format_eq_iff lossless other nonzero, same?_eq lossless.isFinite other.isFinite,
      Except.ok.injEq, decide_eq_true_eq]

/-- Zeros at the end make no other form, on either side of the point. -/
theorem plain_form_determines_number_padded :
    (finite true 12300 (-7)).format = (finite true 123 (-5)).format ∧
      ∃ text, (finite true 12300 (-7)).format = .ok text ∧ PlainForm text ∧
        Column.bindDecimal .sqlite (finite true 12300 (-7)) = .ok (.text text) := by
  have first : (finite true 12300 (-7)).Lossless := ⟨true, 12300, 0, -7, rfl, by decide⟩
  have second : (finite true 123 (-5)).Lossless := ⟨true, 123, 0, -5, rfl, by decide⟩
  obtain ⟨text, -, -, made, plain, -, -, bound, -, -, -, agree⟩ :=
    plain_form_determines_number first
  refine ⟨(agree _ second rfl rfl).mpr ?_, text, made, plain, bound⟩
  decide

end Reconcile.Decimal
