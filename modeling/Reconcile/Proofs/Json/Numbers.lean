import Reconcile.Json.Reader
import Reconcile.Json.Writer
import Reconcile.Proofs.Binary64.Shortest
import Reconcile.Proofs.Decimal.PlainForm

set_option autoImplicit false

/-
Numbers are read as they were written. What may follow a number ends it, be it the end of the text
or a mark of an array or an object. A whole number shows all its digits, and any other number has a
point or an exponent, so the two kinds are never taken for each other.
-/
namespace Reconcile.Json

open Decimal (takeDigits takeDigits_append digitsOf ofDigits ofDigits_map Parts)

/-- What may stand after a value. -/
def Ends (rest : List Char) : Prop := ∀ c ∈ rest.head?, c = ',' ∨ c = ']' ∨ c = '}'

theorem Ends.noDigit {rest : List Char} (ends : Ends rest) :
    ∀ c ∈ rest.head?, c.isDigit = false := by
  intro c first
  obtain rfl | rfl | rfl := ends c first <;> rfl

def values (digits : List Char) : List Nat := digits.map (·.toNat - 48)

section Parts

variable {negative : Bool} {whole fraction rest : List Char}

theorem readFraction_of_other (other : rest.head? ≠ some '.') : readFraction rest = none := by
  unfold readFraction
  split
  · exact absurd rfl other
  · rfl

theorem readFraction_append (row : Row fraction) (some : fraction ≠ [])
    (stops : ∀ c ∈ rest.head?, c.isDigit = false) :
    readFraction ('.' :: (fraction ++ rest)) = .some (values fraction, rest) := by
  obtain ⟨c, cs, rfl⟩ := List.exists_cons_of_ne_nil some
  rw [readFraction, takeDigits_append row stops]
  rfl

theorem readPower_of_ends (ends : Ends rest) : readPower rest = none := by
  cases rest with
  | nil => rfl
  | cons c rest => obtain rfl | rfl | rfl := ends c rfl <;> rfl

/-- The digits of the whole part have no zero too many in front. -/
theorem readNumber_whole (row : Row whole) (begins : whole ≠ [])
    (single : whole.head? = some '0' → whole = ['0'])
    (stops : ∀ c ∈ rest.head?, c.isDigit = false) :
    readNumber negative (whole ++ rest) = readPlaces negative (values whole) rest := by
  rw [readNumber, takeDigits_append row stops]
  split
  · rename_i none
    exact absurd (List.map_eq_nil_iff.mp (Prod.mk.inj none).1) begins
  · rename_i zero
    obtain ⟨c, cs, rfl, none, others⟩ := List.map_eq_cons_iff.mp (Prod.mk.inj zero).1
    have digit := Text.isDigit_iff.mp (row c List.mem_cons_self)
    have first : c = '0' := Char.toNat_inj.mp (show c.toNat = 48 by omega)
    subst first
    rw [(List.cons.inj (single rfl)).2] at others
    cases others
  · rename_i same
    cases same
    rfl

end Parts

def powerChars : Option Int → List Char
  | some x => (Binary64.exponentText x).toList
  | none => []

def powerDigits (x : Int) : List Char :=
  (if x.natAbs < 10 then ['0'] else []) ++ digitsOf x.natAbs

theorem powerChars_some (x : Int) :
    powerChars (some x) = 'e' :: (if x < 0 then '-' else '+') :: powerDigits x := by
  have digits : (toString x.natAbs).toList = digitsOf x.natAbs := by
    simp [digitsOf, toString, Nat.repr]
  rw [powerChars, Binary64.exponentText, String.toList_append, String.toList_append, digits]
  unfold powerDigits
  split <;> split <;> rfl

theorem row_powerDigits (x : Int) : Row (powerDigits x) := by
  refine Row.append ?_ (.toDigits _)
  split
  · exact .zeros 1
  · exact fun c member => absurd member List.not_mem_nil

theorem ofDigits_powerDigits (x : Int) : ofDigits (values (powerDigits x)) = x.natAbs := by
  have digits : Nat.ofDigitChars 10 (digitsOf x.natAbs) 0 = x.natAbs :=
    Nat.ofDigitChars_ten_toDigits
  rw [values, ofDigits_map, powerDigits]
  split
  · exact (Decimal.ofDigitChars_zeros 1 (digitsOf x.natAbs)).trans digits
  · exact digits

section Ending

variable {rest : List Char} (ends : Ends rest)
include ends

theorem readPower_powerChars (x : Option Int) :
    readPower (powerChars x ++ rest) = x.map (·, rest) := by
  cases x with
  | none => exact readPower_of_ends ends
  | some x =>
    have taken := takeDigits_append (row_powerDigits x) ends.noDigit
    have value := ofDigits_powerDigits x
    have visible : values (powerDigits x) ≠ [] := by
      simp [values, powerDigits, digitsOf]
    obtain ⟨d, ds, digits⟩ := List.exists_cons_of_ne_nil visible
    rw [← values, digits] at taken
    rw [digits] at value
    rw [powerChars_some, List.cons_append, List.cons_append, readPower, if_pos (Or.inl rfl)]
    by_cases minus : x < 0
    · have sent : -(x.natAbs : Int) = x := by omega
      simp only [if_pos minus, Decimal.takeSign, taken, value, sent, if_true, Option.map_some]
    · have sent : (x.natAbs : Int) = x := by omega
      simp only [if_neg minus, Decimal.takeSign, taken, value, sent, Bool.false_eq_true, if_false,
        Option.map_some]

/-- An exponent, or whatever ends the number in its place, ends the digits before it. -/
theorem powerChars_stops (x : Option Int) :
    ∀ c ∈ (powerChars x ++ rest).head?, c.isDigit = false ∧ c ≠ '.' := by
  intro c first
  cases x with
  | none => obtain rfl | rfl | rfl := ends c first <;> decide
  | some x =>
    rw [powerChars_some] at first
    cases first
    decide

variable {negative : Bool} {whole : List Nat} {fraction : List Char}

/-- Digits without a point or an exponent are a whole number. -/
theorem readPlaces_int (few : whole.length ≤ Numeral.digitLimit) :
    readPlaces negative whole rest =
      .ok (.int (if negative then -(ofDigits whole : Int) else ofDigits whole), rest) := by
  have point : rest.head? ≠ some '.' := fun point => (powerChars_stops ends none '.' point).2 rfl
  simp [readPlaces, readFraction_of_other point, readPower_of_ends ends, not_lt.mpr few]

/-- Digits with a point or an exponent are rounded to a number of the binary format. -/
theorem readPlaces_double (row : Row fraction) (x : Option Int)
    (some : fraction ≠ [] ∨ x.isSome = true) :
    readPlaces negative whole
      ((if fraction = [] then [] else '.' :: fraction) ++ (powerChars x ++ rest)) =
      .ok (.double (.ofDecimal negative (ofDigits (whole ++ values fraction))
        (x.getD 0 - fraction.length)), rest) := by
  have stops := powerChars_stops ends x
  have power := readPower_powerChars ends x
  by_cases bare : fraction = []
  · subst bare
    have point : (powerChars x ++ rest).head? ≠ Option.some '.' := fun point =>
      (stops '.' point).2 rfl
    obtain ⟨y, rfl⟩ := Option.isSome_iff_exists.mp (some.resolve_left fun other => other rfl)
    simp [readPlaces, readFraction_of_other point, power, values]
  · have taken := readFraction_append row bare fun c first => (stops c first).1
    rw [if_neg bare]
    cases x with
    | none =>
      rw [show powerChars none ++ rest = rest from rfl] at taken power ⊢
      simp [readPlaces, taken, power, values]
    | some x => simp [readPlaces, taken, power, values]

/-- A written number that is not whole is read as what its digits and its exponent make. -/
theorem readNumber_parts {body whole fraction : List Char} (parts : Parts body whole fraction)
    (single : whole.head? = some '0' → whole = ['0']) (x : Option Int)
    (some : fraction ≠ [] ∨ x.isSome = true) :
    readNumber negative (body ++ (powerChars x ++ rest)) =
      .ok (.double (.ofDecimal negative (Nat.ofDigitChars 10 (whole ++ fraction) 0)
        (x.getD 0 - fraction.length)), rest) := by
  have shape : body = whole ++ if fraction = [] then [] else '.' :: fraction := by
    rw [parts.shape]
    split <;> simp
  have stops : ∀ c ∈ ((if fraction = [] then [] else '.' :: fraction) ++
      (powerChars x ++ rest)).head?, c.isDigit = false := by
    intro c first
    split at first
    · exact (powerChars_stops ends x c first).1
    · cases first
      rfl
  have digits := ofDigits_map (whole ++ fraction)
  rw [List.map_append] at digits
  rw [shape, List.append_assoc, readNumber_whole parts.before parts.begins single stops,
    readPlaces_double ends parts.after x some, values, values, digits]

theorem readNumber_digits {n : Nat} (few : (digitsOf n).length ≤ Numeral.digitLimit) :
    readNumber negative (digitsOf n ++ rest) =
      .ok (.int (if negative then -(n : Int) else n), rest) := by
  have single : (digitsOf n).head? = some '0' → digitsOf n = ['0'] := by
    intro zero
    by_cases none : n = 0
    · rw [none]
      rfl
    · exact absurd zero (Decimal.head?_digitsOf none)
  have value : ofDigits (values (digitsOf n)) = n := by
    rw [values, ofDigits_map]
    exact Nat.ofDigitChars_ten_toDigits
  have short : (values (digitsOf n)).length ≤ Numeral.digitLimit := by
    rwa [values, List.length_map]
  have row : Row (digitsOf n) := .toDigits n
  rw [readNumber_whole row Nat.toDigits_ne_nil single ends.noDigit,
    readPlaces_int ends short, value]

end Ending

theorem readAtom_number (negative : Bool) {c : Char} (digit : c.isDigit = true)
    (cs : List Char) :
    readAtom ((Decimal.minus negative).toList ++ c :: cs) = readNumber negative (c :: cs) := by
  cases negative with
  | true =>
    change readAtom ('-' :: c :: cs) = readNumber true (c :: cs)
    unfold readAtom
    split
    case h_6 same =>
      cases same
      cases digit
    case h_7 same =>
      cases same
      rfl
    case h_8 other => exact absurd rfl (other (c :: cs))
    all_goals
      rename_i same
      simp at same
  | false =>
    change readAtom (c :: cs) = readNumber false (c :: cs)
    unfold readAtom
    split
    case h_8 => rfl
    all_goals
      rename_i same
      cases same
      cases digit

theorem readAtom_parts (negative : Bool) {body whole fraction : List Char}
    (parts : Parts body whole fraction) (rest : List Char) :
    readAtom ((Decimal.minus negative).toList ++ (body ++ rest)) =
      readNumber negative (body ++ rest) := by
  obtain ⟨c, cs, begins⟩ := List.exists_cons_of_ne_nil parts.begins
  have digit := parts.before c (begins ▸ List.mem_cons_self)
  obtain ⟨others, rfl⟩ : ∃ others, body = c :: others := by
    rw [parts.shape, begins]
    split
    · exact ⟨cs, rfl⟩
    · exact ⟨_, rfl⟩
  exact readAtom_number negative digit (others ++ rest)

theorem readAtom_int (n : Int) (short : Decimal.digitCount n.natAbs ≤ Numeral.digitLimit)
    {rest : List Char} (ends : Ends rest) :
    readAtom ((intText n).toList ++ rest) = .ok (.int n, rest) := by
  have few : (digitsOf n.natAbs).length ≤ Numeral.digitLimit := by
    rw [digitsOf, Nat.length_toDigits_le_iff (by decide) (by decide), ← tenTo_eq_pow,
      ← Decimal.digitCount_le_iff]
    exact short
  have value : (if decide (n < 0) = true then -(n.natAbs : Int) else n.natAbs) = n := by
    simp only [decide_eq_true_eq]
    split <;> omega
  have parts := Decimal.parts_whole n.natAbs 0
  rw [List.replicate_zero, List.append_nil] at parts
  rw [intText, String.toList_append, String.toList_ofList, List.append_assoc,
    readAtom_parts _ parts, readNumber_digits ends few, value]

/-- The characters are parts of a number with a point or an exponent, and stand for a value. -/
def Shows (cs : List Char) (value : ℚ) : Prop :=
  ∃ body whole fraction x, Parts body whole fraction ∧
    (whole.head? = some '0' → whole = ['0']) ∧ (fraction ≠ [] ∨ x.isSome = true) ∧
    cs = body ++ powerChars x ∧
    (Nat.ofDigitChars 10 (whole ++ fraction) 0 : ℚ) * 10 ^ (x.getD 0 - fraction.length : ℤ) = value

/-- What shows a value is read as a decimal of that value, rounded. -/
theorem readAtom_shows (s : Bool) {cs rest : List Char} {value : ℚ} (shows : Shows cs value)
    (ends : Ends rest) : ∃ (c : ℕ) (p : ℤ), (c : ℚ) * 10 ^ p = value ∧
      readAtom ((Decimal.minus s).toList ++ cs ++ rest) =
        .ok (.double (.ofDecimal s c p), rest) := by
  obtain ⟨body, whole, fraction, x, parts, single, some, rfl, value⟩ := shows
  refine ⟨_, _, value, ?_⟩
  rw [List.append_assoc, List.append_assoc, readAtom_parts s parts,
    readNumber_parts ends parts single x some]

section Forms

variable {c : ℕ}

theorem shows_zero : Shows ['0', '.', '0'] 0 := by
  refine ⟨_, ['0'], ['0'], none, ⟨.zeros 1, .zeros 1, by decide, rfl⟩, fun _ => rfl,
    Or.inl (by decide), rfl, ?_⟩
  rw [show Nat.ofDigitChars 10 (['0'] ++ ['0']) 0 = 0 from rfl, Nat.cast_zero, zero_mul]

theorem shows_whole (nonzero : c ≠ 0) (k : ℕ) :
    Shows (digitsOf c ++ List.replicate k '0' ++ ['.', '0']) (c * 10 ^ (k : ℤ)) := by
  have row : Row (digitsOf c) := .toDigits c
  have visible : digitsOf c ≠ [] := Nat.toDigits_ne_nil
  have parts : Parts (digitsOf c ++ List.replicate k '0' ++ ['.', '0'])
      (digitsOf c ++ List.replicate k '0') ['0'] :=
    ⟨row.append (.zeros _), .zeros 1, by simp [visible], rfl⟩
  have zeros : digitsOf c ++ List.replicate k '0' ++ ['0'] =
      digitsOf c ++ List.replicate (k + 1) '0' := by
    rw [List.replicate_succ', List.append_assoc]
  have coefficient : Nat.ofDigitChars 10 (digitsOf c ++ List.replicate (k + 1) '0') 0 =
      c * tenTo (k + 1) := by
    rw [Nat.ofDigitChars_append, Nat.ofDigitChars_replicate_zero, digitsOf,
      Nat.ofDigitChars_ten_toDigits, mul_comm, tenTo_eq_pow]
  refine ⟨_, _, _, none, parts, fun zero => ?_, Or.inl (by decide),
    (List.append_nil _).symm, ?_⟩
  · rw [List.head?_append_of_ne_nil _ visible] at zero
    exact absurd zero (Decimal.head?_digitsOf nonzero)
  · rw [zeros, coefficient, Nat.cast_mul, Decimal.cast_tenTo, mul_assoc, ← Decimal.ten_add]
    congr 2
    simp

theorem ofDigitChars_pointed (c places : ℕ) :
    Nat.ofDigitChars 10 (Decimal.wholePart (digitsOf c) places ++
      Decimal.fractionPart (digitsOf c) places) 0 = c := by
  rw [Decimal.wholePart_append, Decimal.ofDigitChars_padded, digitsOf,
    Nat.ofDigitChars_ten_toDigits]

theorem shows_pointed (nonzero : c ≠ 0) {places : ℕ} (some : places ≠ 0) :
    Shows (Decimal.pointed (digitsOf c) places) (c * 10 ^ (-places : ℤ)) := by
  have row : Row (digitsOf c) := .toDigits c
  have visible : Decimal.fractionPart (digitsOf c) places ≠ [] := by
    rw [← List.length_pos_iff, Decimal.length_fractionPart]
    omega
  refine ⟨_, _, _, none, Decimal.parts_pointed row some,
    Decimal.head?_wholePart (Decimal.head?_digitsOf nonzero), Or.inl visible,
    (List.append_nil _).symm, ?_⟩
  rw [ofDigitChars_pointed, Decimal.length_fractionPart, Option.getD_none, zero_sub]

theorem shows_power (nonzero : c ≠ 0) (places : ℕ) (x : ℤ) :
    Shows (Decimal.pointed (digitsOf c) places ++ (Binary64.exponentText x).toList)
      (c * 10 ^ (x - places)) := by
  have row : Row (digitsOf c) := .toDigits c
  have begins := Decimal.head?_digitsOf nonzero
  by_cases bare : places = 0
  · have parts := Decimal.parts_whole c 0
    rw [List.replicate_zero, List.append_nil] at parts
    subst bare
    refine ⟨_, _, [], some x, parts, fun zero => absurd zero begins, Or.inr rfl, rfl, ?_⟩
    rw [List.append_nil, digitsOf, Nat.ofDigitChars_ten_toDigits]
    rfl
  · refine ⟨_, _, _, some x, Decimal.parts_pointed row bare, Decimal.head?_wholePart begins,
      Or.inr rfl, rfl, ?_⟩
    rw [ofDigitChars_pointed, Decimal.length_fractionPart, Option.getD_some]

end Forms

/-- The text of a number in the form of the format shows its shortest decimal. -/
theorem text_shows {s : Bool} {m : ℕ} {e : ℤ}
    (canonical : (Binary64.finite s m e).isCanonical = true) :
    ∃ cs, (Binary64.finite s m e).text.toList = (Decimal.minus s).toList ++ cs ∧
      Shows cs ((Binary64.shortest m e).1 * 10 ^ (Binary64.shortest m e).2) := by
  rw [Binary64.text]
  by_cases zero : m = 0
  · refine ⟨['0', '.', '0'], ?_, ?_⟩
    · dsimp only
      rw [if_pos zero, String.toList_append]
      rfl
    · rw [zero, show Binary64.shortest 0 e = (0, 0) from rfl, Nat.cast_zero, zero_mul]
      exact shows_zero
  · have few := (Binary64.isCanonical_finite.mp canonical).1
    have positive := (Binary64.shortest_rounds (e := e) zero few).pos zero
    generalize Binary64.shortest m e = shortest at positive ⊢
    obtain ⟨c, p⟩ := shortest
    have nonzero : c ≠ 0 := by
      rintro rfl
      rw [Nat.cast_zero, zero_mul] at positive
      exact lt_irrefl _ positive
    have visible : 0 < (digitsOf c).length := List.length_pos_of_ne_nil Nat.toDigits_ne_nil
    dsimp only
    rw [String.toList_append, if_neg zero]
    refine ⟨_, rfl, ?_⟩
    split
    · rw [String.toList_ofList]
      split
      · rename_i whole
        rw [← Int.toNat_of_nonneg whole]
        exact shows_whole nonzero p.toNat
      · have shows := shows_pointed nonzero (show (-p).toNat ≠ 0 by omega)
        rwa [Int.toNat_of_nonneg (by omega), neg_neg] at shows
    · rw [String.toList_append, String.toList_ofList]
      have shows := shows_power nonzero ((digitsOf c).length - 1) (p + (digitsOf c).length - 1)
      rwa [show p + (digitsOf c).length - 1 - ((digitsOf c).length - 1 : ℕ) = p by omega] at shows

theorem readAtom_double {x : Binary64} (canonical : x.isCanonical = true) {rest : List Char}
    (ends : Ends rest) : readAtom ((doubleText x).toList ++ rest) = .ok (.double x, rest) := by
  cases x with
  | nan => rfl
  | infinite s => cases s <;> rfl
  | finite s m e =>
    obtain ⟨cs, text, shows⟩ := text_shows canonical
    obtain ⟨c, p, value, read⟩ := readAtom_shows s shows ends
    rw [show doubleText (.finite s m e) = (Binary64.finite s m e).text from rfl, text, read]
    by_cases zero : m = 0
    · subst zero
      obtain ⟨-, place, -⟩ := Binary64.isCanonical_finite.mp canonical
      obtain rfl : e = Binary64.lowestExponent := by omega
      obtain rfl : c = 0 := by
        rw [show Binary64.shortest 0 _ = (0, 0) from rfl, Nat.cast_zero, zero_mul] at value
        exact_mod_cast (mul_eq_zero.mp value).resolve_right (Decimal.ten_pos p).ne'
      rfl
    · rw [Binary64.ofDecimal_shortest canonical zero value]

end Reconcile.Json
