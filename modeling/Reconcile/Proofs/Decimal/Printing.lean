import Reconcile.Decimal.Printer
import Reconcile.Proofs.Decimal.Equal
import Reconcile.Proofs.Decimal.Rows

set_option autoImplicit false

/-
Written decimals are read again. The plain form shows every digit that the exponent asks for, so
what is read of it may have another exponent; it stands for the same number with the same sign.
-/
namespace Reconcile.Decimal

def isPlain (c : Char) : Bool := c.isDigit || c = '.' || c = '-'

/-- A plain character is one for itself. -/
theorem plain_spec {c : Char} (plain : isPlain c = true) :
    Text.isBlank c = false ∧ c ≠ '_' ∧
      (match Text.digit? c with
        | some value => Char.ofNat (48 + value)
        | none => c) = c := by
  have low : c.toNat < 58 := by
    simp only [isPlain, Bool.or_eq_true, decide_eq_true_eq] at plain
    rcases plain with (digit | rfl) | rfl
    · have bounds := Text.isDigit_iff.mp digit
      omega
    · decide
    · decide
  revert plain
  refine Text.forall_below low ?_
  decide +kernel

section Plain

variable {cs : List Char} (plain : ∀ c ∈ cs, isPlain c = true)
include plain

theorem trimBy_plain : Text.trimBy Text.isBlank cs = cs := by
  refine Text.trimBy_eq_self (Text.trimmed_of_forall fun c member => ?_)
  exact (plain_spec (plain c member)).1

theorem plainDigits_plain : plainDigits cs = cs := by
  have kept : cs.filter (· ≠ '_') = cs := List.filter_eq_self.mpr fun c member => by
    simpa using (plain_spec (plain c member)).2.1
  rw [plainDigits, kept]
  exact (List.map_congr_left fun c member => (plain_spec (plain c member)).2.2).trans
    (List.map_id _)

end Plain

structure Parts (body whole fraction : List Char) : Prop where
  before : Row whole
  after : Row fraction
  begins : whole ≠ []
  shape : body = if fraction = [] then whole else whole ++ '.' :: fraction

namespace Parts

variable {body whole fraction : List Char}

theorem plain (parts : Parts body whole fraction) : ∀ c ∈ body, isPlain c = true := by
  have digit : ∀ {c : Char}, c.isDigit = true → isPlain c = true := by
    intro c digit
    rw [isPlain, digit]
    rfl
  rw [parts.shape]
  split
  · exact fun c member => digit (parts.before c member)
  · refine List.forall_mem_append.mpr ⟨fun c member => digit (parts.before c member), ?_⟩
    exact List.forall_mem_cons.mpr ⟨rfl, fun c member => digit (parts.after c member)⟩

/-- The number begins with a digit, so it has no sign of its own. -/
theorem takeSign (parts : Parts body whole fraction) (negative : Bool) :
    Decimal.takeSign ((minus negative).toList ++ body) = (negative, body) := by
  cases negative with
  | true => rfl
  | false =>
    change Decimal.takeSign body = (false, body)
    obtain ⟨c, rest, begins⟩ := List.exists_cons_of_ne_nil parts.begins
    have digit := parts.before c (begins ▸ List.mem_cons_self)
    obtain ⟨others, rfl⟩ : ∃ others, body = c :: others := by
      rw [parts.shape, begins]
      split
      · exact ⟨rest, rfl⟩
      · exact ⟨_, rfl⟩
    unfold Decimal.takeSign
    split
    · rename_i same
      cases same
      cases digit
    · rename_i same
      cases same
      cases digit
    · rfl

theorem readFinite (parts : Parts body whole fraction) (negative : Bool) :
    Decimal.readFinite negative body =
      ofParts? negative (Nat.ofDigitChars 10 (whole ++ fraction) 0)
        (-(fraction.length : Int)) := by
  have visible : (whole.map (·.toNat - 48)).isEmpty = false := by
    simpa [List.isEmpty_eq_false_iff] using parts.begins
  unfold Decimal.readFinite
  by_cases none : fraction = []
  · have shape := parts.shape
    rw [if_pos none] at shape
    subst none
    rw [shape, takeDigits_row parts.before]
    simp only [visible, Bool.false_and, Bool.false_eq_true, if_false, List.append_nil,
      ofDigits_map]
    rfl
  · have shape := parts.shape
    rw [if_neg none] at shape
    have point : ∀ c ∈ ('.' :: fraction).head?, c.isDigit = false := by
      rintro c ⟨⟩
      rfl
    rw [shape, takeDigits_append parts.before point]
    simp only [takeDigits_row parts.after, visible, Bool.false_and, Bool.false_eq_true, if_false,
      ← List.map_append, ofDigits_map, List.length_map]
    simp [readExponent]

/-- What is read of a plain form that can be kept. -/
theorem read? (parts : Parts body whole fraction) (negative : Bool) {c : Nat} {e : Int}
    (kept : ofParts? negative (Nat.ofDigitChars 10 (whole ++ fraction) 0)
      (-(fraction.length : Int)) = some (.finite negative c e)) :
    Decimal.read? (minus negative ++ String.ofList body) = some (.finite negative c e) := by
  have characters : (minus negative ++ String.ofList body).toList =
      (minus negative).toList ++ body := by
    rw [String.toList_append, String.toList_ofList]
  have plain : ∀ d ∈ (minus negative).toList ++ body, isPlain d = true := by
    refine List.forall_mem_append.mpr ⟨?_, parts.plain⟩
    cases negative with
    | false => exact fun d member => absurd member List.not_mem_nil
    | true => exact fun d member => by rw [List.mem_singleton.mp member]; rfl
  unfold Decimal.read?
  rw [characters, trimBy_plain plain, plainDigits_plain plain]
  dsimp only
  rw [parts.takeSign]
  dsimp only
  rw [parts.readFinite, kept]

end Parts

theorem parts_whole (c k : Nat) :
    Parts (digitsOf c ++ List.replicate k '0') (digitsOf c ++ List.replicate k '0') [] :=
  ⟨(Row.toDigits c).append (.zeros k), fun _ member => absurd member List.not_mem_nil,
    by simp [digitsOf], rfl⟩

/-- The digits with enough zeros in front of them to stand before and after a point. -/
def padded (digits : List Char) (places : Nat) : List Char :=
  List.replicate (places + 1 - digits.length) '0' ++ digits

def wholePart (digits : List Char) (places : Nat) : List Char :=
  (padded digits places).take ((padded digits places).length - places)

def fractionPart (digits : List Char) (places : Nat) : List Char :=
  (padded digits places).drop ((padded digits places).length - places)

section Pointed

variable {digits : List Char} {places : Nat}

theorem length_padded (digits : List Char) (places : Nat) :
    (padded digits places).length = max (places + 1) digits.length := by
  rw [padded, List.length_append, List.length_replicate]
  omega

theorem row_padded (row : Row digits) (places : Nat) : Row (padded digits places) :=
  (Row.zeros _).append row

theorem ofDigitChars_padded (digits : List Char) (places : Nat) :
    Nat.ofDigitChars 10 (padded digits places) 0 = Nat.ofDigitChars 10 digits 0 :=
  ofDigitChars_zeros _ digits

theorem wholePart_append (digits : List Char) (places : Nat) :
    wholePart digits places ++ fractionPart digits places = padded digits places :=
  List.take_append_drop _ _

theorem length_fractionPart (digits : List Char) (places : Nat) :
    (fractionPart digits places).length = places := by
  have length := length_padded digits places
  rw [fractionPart, List.length_drop]
  omega

/-- A point stands before the last digits, with zeros in front if there are too few. -/
theorem parts_pointed (row : Row digits) (some : places ≠ 0) :
    Parts (pointed digits places) (wholePart digits places) (fractionPart digits places) := by
  have length := length_padded digits places
  have row := row_padded row places
  refine ⟨fun d member => row d (List.mem_of_mem_take member),
    fun d member => row d (List.mem_of_mem_drop member), ?_, ?_⟩
  · rw [wholePart, ne_eq, List.take_eq_nil_iff, ← List.length_eq_zero_iff]
    omega
  · rw [if_neg]
    · rw [pointed, if_neg some]
      rfl
    · rw [← List.length_eq_zero_iff, length_fractionPart]
      exact some

/-- Zeros stand in front only if no other digit does, and then there is just one. -/
theorem head?_wholePart (begins : digits.head? ≠ some '0')
    (zero : (wholePart digits places).head? = some '0') : wholePart digits places = ['0'] := by
  have length := length_padded digits places
  cases few : places + 1 - digits.length with
  | zero =>
    have bare : padded digits places = digits := by
      rw [padded, few]
      rfl
    rw [wholePart, List.head?_take, if_neg (by omega), bare] at zero
    exact absurd zero begins
  | succ k =>
    rw [wholePart, show (padded digits places).length - places = 1 by omega, padded, few,
      List.replicate_succ]
    rfl

theorem getLast?_fractionPart (visible : digits ≠ []) (some : places ≠ 0) :
    (fractionPart digits places).getLast? = digits.getLast? := by
  have length := length_padded digits places
  rw [fractionPart, List.getLast?_drop, if_neg (by omega), padded,
    List.getLast?_append_of_ne_nil _ visible]

end Pointed

theorem ofParts?_eq_some {s : Bool} {c : Nat} {e : Int} (low : lowestExponent ≤ e)
    (high : e + digitCount c - 1 ≤ widestExponent) (small : e ≤ widestExponent) :
    ofParts? s c e = some (.finite s c e) := by
  have leading : (if c = 0 then e else e + digitCount c - 1) ≤ widestExponent := by
    split <;> assumption
  exact if_pos ⟨low, leading⟩

/-- The plain form of a canonical number is read as an equal number of the same sign. -/
theorem read?_plainText {s : Bool} {c : Nat} {e : Int} (canonical : Canonical (.finite s c e)) :
    ∃ d f, read? (plainText (.finite s c e)) = some (.finite s d f) ∧
      (d : ℚ) * 10 ^ f = c * 10 ^ e := by
  cases canonical with
  | zero => exact ⟨0, 0, by cases s <;> rfl, rfl⟩
  | finite _ inRange ends =>
    have some : c ≠ 0 := by
      rintro rfl
      exact ends rfl
    obtain ⟨-, lowest, highest⟩ := inRange
    simp only [tinyExponent, maxExponent] at lowest highest
    rcases lt_or_ge e 0 with negative | nonneg
    · have row : Row (digitsOf c) := .toDigits c
      have parts := parts_pointed row (show (-e).toNat ≠ 0 by omega)
      refine ⟨c, e, ?_, rfl⟩
      rw [plainText, if_neg (not_le.mpr negative)]
      apply parts.read?
      rw [wholePart_append, length_fractionPart, ofDigitChars_padded, digitsOf,
        Nat.ofDigitChars_ten_toDigits, show -((-e).toNat : Int) = e by omega]
      apply ofParts?_eq_some <;> simp only [lowestExponent, widestExponent] <;> omega
    · have count := digitCount_mul_tenTo some e.toNat
      have shifted := magnitude_shift c nonneg
      refine ⟨c * tenTo e.toNat, 0, ?_, ?_⟩
      · rw [plainText, if_pos nonneg, if_neg some]
        apply (parts_whole c e.toNat).read?
        rw [List.append_nil, Nat.ofDigitChars_append, Nat.ofDigitChars_replicate_zero, digitsOf,
          Nat.ofDigitChars_ten_toDigits, Nat.mul_comm, ← tenTo_eq_pow]
        apply ofParts?_eq_some <;> simp only [lowestExponent, widestExponent, List.length_nil,
          count] <;> omega
      · rwa [sub_zero] at shifted

/-- Whatever was normalized comes back when its plain form is read and normalized. -/
theorem read?_of_canonical {a : Decimal} (canonical : a.Canonical) (finite : a.isFinite) :
    ∃ b, read? a.plainText = some b ∧ b.isFinite ∧ b.toRat = a.toRat ∧ b.normalize = .ok a := by
  obtain ⟨s, c, e, rfl⟩ := eq_finite_of_isFinite finite
  obtain ⟨d, f, read, same⟩ := read?_plainText canonical
  refine ⟨.finite s d f, read, rfl, ?_, ?_⟩
  · rw [toRat_finite, toRat_finite, same]
  · rw [normalize_of_magnitude s same]
    exact normalize_of_canonical canonical

end Reconcile.Decimal
