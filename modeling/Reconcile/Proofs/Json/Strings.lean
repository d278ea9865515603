import Mathlib.Data.List.Basic
import Reconcile.Json.Reader
import Reconcile.Json.Writer

set_option autoImplicit false

/-
Strings are read as they were written. A code point is written as itself, as a short escape, or as
the escapes of its one or two code units. Pairs are joined again when they are read, and as no high
half stands right before a low one, no others are.
-/
namespace Reconcile.Json

def unitsOf (point : Nat) : List Nat :=
  if point < 0x10000 then [point]
  else [0xD800 + (point - 0x10000) / 1024, 0xDC00 + (point - 0x10000) % 1024]

section Escapes

variable {rest after : List Char} {units : List Nat}

theorem hexDigit?_hexDigit : ∀ n < 16, hexDigit? (Text.hexDigit n) = some n := by decide

theorem hexDigits_four (n : Nat) : Text.hexDigits 4 n =
    [Text.hexDigit (n / 16 / 16 / 16 % 16), Text.hexDigit (n / 16 / 16 % 16),
      Text.hexDigit (n / 16 % 16), Text.hexDigit (n % 16)] := rfl

theorem readUnits_unitEscape {unit : Nat} (small : unit < 0x10000)
    (reads : readUnits rest = some (units, after)) :
    readUnits (unitEscape unit ++ rest) = some (unit :: units, after) := by
  have read : ∀ n, hexDigit? (Text.hexDigit (n % 16)) = some (n % 16) := fun n =>
    hexDigit?_hexDigit _ (Nat.mod_lt n (by decide))
  have value : ((unit / 16 / 16 / 16 % 16 * 16 + unit / 16 / 16 % 16) * 16 + unit / 16 % 16) * 16 +
      unit % 16 = unit := by
    omega
  rw [unitEscape, hexDigits_four]
  simp [readUnits, hexUnit?, read, reads, value]

/-- A character that is no quote, no backslash and no control character stands for itself. -/
theorem readUnits_cons {c : Char} (noQuote : c ≠ '"') (noEscape : c ≠ '\\') (visible : 32 ≤ c.toNat)
    (reads : readUnits rest = some (units, after)) :
    readUnits (c :: rest) = some (c.toNat :: units, after) := by
  have low : ¬ c.toNat < 32 := Nat.not_lt.mpr visible
  simp [readUnits, noEscape, reads, low]

theorem printable_spec : ∀ point < 127, (Char.ofNat point).toNat = point ∧
    (point ≠ 0x22 → Char.ofNat point ≠ '"') ∧ (point ≠ 0x5C → Char.ofNat point ≠ '\\') := by
  decide

theorem readUnits_escapePoint {point : Nat} (small : point < 0x110000)
    (reads : readUnits rest = some (units, after)) :
    readUnits (escapePoint point ++ rest) = some (unitsOf point ++ units, after) := by
  unfold escapePoint
  split
  case h_8 noQuote noEscape _ _ _ _ _ =>
    split
    · rename_i printable
      have one := printable_spec point printable.2
      have same : (Char.ofNat point).toNat = point := one.1
      have read := readUnits_cons (one.2.1 noQuote) (one.2.2 noEscape) (by omega) reads
      rw [same] at read
      rw [unitsOf, if_pos (by omega)]
      exact read
    · split
      · rename_i basic
        rw [unitsOf, if_pos basic]
        exact readUnits_unitEscape basic reads
      · rename_i astral
        rw [unitsOf, if_neg astral, List.append_assoc]
        exact readUnits_unitEscape (by omega) (readUnits_unitEscape (by omega) reads)
  all_goals simp [readUnits, escaped?, reads, unitsOf]

theorem readUnits_quoted {points : List Nat} (small : ∀ point ∈ points, point < 0x110000)
    (rest : List Char) :
    readUnits (points.flatMap escapePoint ++ '"' :: rest) =
      some (points.flatMap unitsOf, rest) := by
  induction points with
  | nil => rfl
  | cons point points ih =>
    rw [List.flatMap_cons, List.flatMap_cons, List.append_assoc]
    exact readUnits_escapePoint (small point List.mem_cons_self)
      (ih fun other member => small other (List.mem_cons_of_mem point member))

end Escapes

section Units

variable {point : Nat} {points : List Nat}

theorem unpaired_cons {next : Nat} : unpaired (point :: next :: points) = true ↔
    (isHighHalf point && isLowHalf next) = false ∧ unpaired (next :: points) = true := by
  rw [unpaired, Bool.and_eq_true, Bool.not_eq_true']

theorem unpaired_tail (apart : unpaired (point :: points) = true) : unpaired points = true := by
  cases points with
  | nil => rfl
  | cons next points => exact (unpaired_cons.mp apart).2

theorem unpaired_head (apart : unpaired (point :: points) = true) :
    ∀ next ∈ points.head?, (isHighHalf point && isLowHalf next) = false := by
  intro next first
  cases points with
  | nil => cases first
  | cons _ points =>
    cases first
    exact (unpaired_cons.mp apart).1

theorem joinUnits_cons {unit : Nat} {units : List Nat}
    (apart : ∀ next ∈ units.head?, (isHighHalf unit && isLowHalf next) = false) :
    joinUnits (unit :: units) = unit :: joinUnits units := by
  cases units with
  | nil => rfl
  | cons next units => rw [joinUnits, apart next rfl, if_neg Bool.false_ne_true]

/-- Two units of one code point are joined, whatever comes after them. -/
theorem joinUnits_pair (astral : ¬ point < 0x10000) (small : point < 0x110000)
    (units : List Nat) : joinUnits (unitsOf point ++ units) = point :: joinUnits units := by
  have high : isHighHalf (0xD800 + (point - 0x10000) / 1024) = true := by
    rw [isHighHalf, decide_eq_true (by omega), decide_eq_true (by omega)]
    rfl
  have low : isLowHalf (0xDC00 + (point - 0x10000) % 1024) = true := by
    rw [isLowHalf, decide_eq_true (by omega), decide_eq_true (by omega)]
    rfl
  have joined : 0x10000 + (0xD800 + (point - 0x10000) / 1024 - 0xD800) * 1024 +
      (0xDC00 + (point - 0x10000) % 1024 - 0xDC00) = point := by
    omega
  rw [unitsOf, if_neg astral, List.cons_append, List.cons_append, List.nil_append, joinUnits,
    high, low, Bool.and_self, if_pos rfl, joined]

/-- The units of a row begin with a low half only if its first code point is one: those of a pair
begin with the high half. -/
theorem head?_of_isLowHalf (small : ∀ point ∈ points, point < 0x110000) {unit : Nat}
    (first : unit ∈ (points.flatMap unitsOf).head?) (low : isLowHalf unit = true) :
    unit ∈ points.head? := by
  cases points with
  | nil => cases first
  | cons point points =>
    rw [List.flatMap_cons, unitsOf] at first
    split at first
    · exact first
    · cases first
      have bound := small point List.mem_cons_self
      rw [isLowHalf, decide_eq_false (by omega), Bool.false_and] at low
      cases low

/-- The code units of a row of code points in which no halves make a pair are joined as they
were. -/
theorem joinUnits_unitsOf (small : ∀ point ∈ points, point < 0x110000)
    (apart : unpaired points = true) : joinUnits (points.flatMap unitsOf) = points := by
  induction points with
  | nil => rfl
  | cons point points ih =>
    have within : ∀ other ∈ points, other < 0x110000 := fun other member =>
      small other (List.mem_cons_of_mem point member)
    have rest := ih within (unpaired_tail apart)
    rw [List.flatMap_cons]
    by_cases basic : point < 0x10000
    · rw [unitsOf, if_pos basic, List.singleton_append, joinUnits_cons, rest]
      intro unit first
      cases low : isLowHalf unit with
      | false => rw [Bool.and_false]
      | true =>
        rw [← low]
        exact unpaired_head apart unit (head?_of_isLowHalf within first low)
    · rw [joinUnits_pair basic (small point List.mem_cons_self), rest]

end Units

/-- Characters are no halves. -/
theorem isHalf_toNat (c : Char) : isHalf c.toNat = false := by
  have valid := c.valid
  simp only [UInt32.isValidChar, Nat.isValidChar] at valid
  have value : c.toNat = c.val.toNat := rfl
  simp only [isHalf, isHighHalf, isLowHalf, Bool.or_eq_false_iff, Bool.and_eq_false_iff,
    decide_eq_false_iff_not]
  omega

theorem toNat_lt (c : Char) : c.toNat < 0x110000 := by
  have valid := c.valid
  simp only [UInt32.isValidChar, Nat.isValidChar] at valid
  have value : c.toNat = c.val.toNat := rfl
  omega

theorem unpaired_of_whole {points : List Nat} (whole : ∀ point ∈ points, isHalf point = false) :
    unpaired points = true := by
  induction points with
  | nil => rfl
  | cons point points ih =>
    have rest := ih fun other member => whole other (List.mem_cons_of_mem point member)
    cases points with
    | nil => rfl
    | cons next points =>
      have half := whole next (List.mem_cons_of_mem point List.mem_cons_self)
      rw [isHalf, Bool.or_eq_false_iff] at half
      exact unpaired_cons.mpr ⟨by rw [half.2, Bool.and_false], rest⟩

namespace Str

theorem points_whole (written : String) :
    ∀ point ∈ (text written).points, isHalf point = false := by
  intro point member
  obtain ⟨c, -, rfl⟩ := List.mem_map.mp member
  exact isHalf_toNat c

theorem points_fit (value : Str) :
    (∀ point ∈ value.points, point < 0x110000) ∧ unpaired value.points = true := by
  cases value with
  | text written =>
    refine ⟨?_, unpaired_of_whole (points_whole written)⟩
    intro point member
    obtain ⟨c, -, rfl⟩ := List.mem_map.mp member
    exact toNat_lt c
  | garbled points noText =>
    rw [isGarbled, Bool.and_eq_true, Bool.and_eq_true, List.all_eq_true] at noText
    exact ⟨fun point member => of_decide_eq_true (noText.1.1 point member), noText.2⟩

theorem ofPoints_points (value : Str) : ofPoints value.points = value := by
  cases value with
  | text written =>
    have whole : ¬ isGarbled (text written).points = true := by
      intro garbled
      rw [isGarbled, Bool.and_eq_true, Bool.and_eq_true, List.any_eq_true] at garbled
      obtain ⟨point, member, half⟩ := garbled.1.2
      rw [points_whole written point member] at half
      cases half
    have same : (written.toList.map Char.toNat).map Char.ofNat = written.toList := by
      rw [List.map_map]
      exact (List.map_congr_left fun c _ => Char.ofNat_toNat c).trans (List.map_id _)
    rw [ofPoints, dif_neg whole, points, same, String.ofList_toList]
  | garbled points noText => exact dif_pos noText

end Str

theorem readString_quoted (value : Str) (rest : List Char) :
    readString (value.points.flatMap escapePoint ++ '"' :: rest) = .ok (value, rest) := by
  obtain ⟨small, apart⟩ := value.points_fit
  rw [readString, readUnits_quoted small rest]
  dsimp only
  rw [joinUnits_unitsOf small apart, value.ofPoints_points]

end Reconcile.Json
