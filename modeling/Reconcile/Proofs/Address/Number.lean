import Mathlib.Data.Nat.Digits.Defs
import Reconcile.Proofs.Address
import Reconcile.Text.Hex

set_option autoImplicit false

/-
The numbers that addresses stand for. What is left of a written address without blanks, capitals and
the mark has to be the digits of a number that is not too long. The canonical form stands for the
same number, and as it has a digit for every place no two numbers share one.
-/
namespace Reconcile.Address

/-- What is left of a written address without blanks around it, capitals and the mark. -/
def body (written : String) : List Char :=
  dropMark (Text.lower (Text.trimBy Text.isBlank written.toList))

/-- The digits of a number, no more than an address has. -/
structure Numeral (digits : List Char) : Prop where
  some : digits ≠ []
  short : digits.length ≤ width
  hexadecimal : ∀ c ∈ digits, isHexDigit c = true

def digitValue (c : Char) : Nat := if c ≤ '9' then c.toNat - 48 else c.toNat - 97 + 10

/-- The number that digits stand for, the highest place first. -/
def number (digits : List Char) : Nat := Nat.ofDigits 16 (digits.map digitValue).reverse

section Digits

theorem isHexDigit_iff {c : Char} :
    isHexDigit c = true ↔ 48 ≤ c.toNat ∧ c.toNat ≤ 57 ∨ 97 ≤ c.toNat ∧ c.toNat ≤ 102 := by
  simp only [isHexDigit, Bool.or_eq_true, Bool.and_eq_true, decide_eq_true_eq]
  rfl

theorem digitValue_eq (c : Char) :
    digitValue c = if c.toNat ≤ 57 then c.toNat - 48 else c.toNat - 97 + 10 := rfl

theorem digitValue_lt {c : Char} (digit : isHexDigit c = true) : digitValue c < 16 := by
  have bounds := isHexDigit_iff.mp digit
  rw [digitValue_eq]
  split <;> omega

/-- A digit can be told from its value. -/
theorem hexDigit_digitValue {c : Char} (digit : isHexDigit c = true) :
    Text.hexDigit (digitValue c) = c := by
  have bounds := isHexDigit_iff.mp digit
  have code : (if digitValue c < 10 then 48 + digitValue c else 87 + digitValue c) = c.toNat := by
    rw [digitValue_eq]
    split_ifs <;> omega
  rw [Text.hexDigit, code, Char.ofNat_toNat]

theorem number_padded (digits : List Char) : number (padded digits) = number digits := by
  have zero : digitValue '0' = 0 := rfl
  rw [number, number, padded, List.map_append, List.map_replicate, List.reverse_append,
    List.reverse_replicate, zero, Nat.ofDigits_append_replicate_zero]

theorem eq_of_number {digits others : List Char} (length : digits.length = others.length)
    (hexadecimal : ∀ c ∈ digits, isHexDigit c = true)
    (hexadecimal' : ∀ c ∈ others, isHexDigit c = true) (same : number digits = number others) :
    digits = others := by
  have small : ∀ {cs : List Char}, (∀ c ∈ cs, isHexDigit c = true) →
      ∀ value ∈ (cs.map digitValue).reverse, value < 16 := by
    intro cs all value member
    obtain ⟨c, inside, rfl⟩ := List.mem_map.mp (List.mem_reverse.mp member)
    exact digitValue_lt (all c inside)
  have back : ∀ {cs : List Char}, (∀ c ∈ cs, isHexDigit c = true) →
      (cs.map digitValue).map Text.hexDigit = cs := by
    intro cs all
    rw [List.map_map]
    exact (List.map_congr_left fun c member => hexDigit_digitValue (all c member)).trans
      (List.map_id cs)
  have values := Nat.ofDigits_inj_of_len_eq (by decide) (by simp [length]) (small hexadecimal)
    (small hexadecimal') same
  rw [← back hexadecimal, ← back hexadecimal', List.reverse_injective values]

end Digits

/-- A written address has a canonical form exactly if digits are left of it. -/
theorem normalize_cases (written : String) :
    (Numeral (body written) ∧
      normalize written = .ok ("0x" ++ String.ofList (padded (body written)))) ∨
    (¬ Numeral (body written) ∧ ∃ fault, normalize written = .error fault) := by
  have pattern := isBody_of_stripped written rfl
  unfold normalize
  dsimp only
  rw [← body] at pattern ⊢
  split
  · rename_i empty
    rw [body, List.isEmpty_iff.mp empty]
    exact Or.inr ⟨fun numeral => numeral.some rfl, _, rfl⟩
  · split
    · rename_i fits
      obtain ⟨some, short, all⟩ := pattern.mp fits
      exact Or.inl ⟨⟨some, short, List.all_eq_true.mp all⟩, rfl⟩
    · rename_i unfit
      refine Or.inr ⟨fun numeral => unfit (pattern.mpr ?_), _, rfl⟩
      exact ⟨numeral.some, numeral.short, List.all_eq_true.mpr numeral.hexadecimal⟩

def Shows (address : String) (n : Nat) : Prop :=
  ∃ digits : List Char, digits.length = width ∧ (∀ c ∈ digits, isHexDigit c = true) ∧
    number digits = n ∧ address = "0x" ++ String.ofList digits

theorem Numeral.shows {digits : List Char} (numeral : Numeral digits) :
    Shows ("0x" ++ String.ofList (padded digits)) (number digits) := by
  obtain ⟨filled, length, hexadecimal, same⟩ :=
    padded_canonical numeral.short (List.all_eq_true.mpr numeral.hexadecimal)
  have letters := congrArg String.toList same
  rw [toList_marked, toList_marked] at letters
  obtain rfl : padded digits = filled := by simpa using letters
  exact ⟨_, length, List.all_eq_true.mp hexadecimal, number_padded digits, rfl⟩

theorem Shows.canonical {address : String} {n : Nat} (shows : Shows address n) :
    Canonical address := by
  obtain ⟨digits, length, hexadecimal, -, same⟩ := shows
  exact ⟨digits, length, List.all_eq_true.mpr hexadecimal, same⟩

/-- Each number has one canonical form, and each canonical form has one number. -/
theorem Shows.eq_iff {first second : String} {n m : Nat} (shows : Shows first n)
    (others : Shows second m) : first = second ↔ n = m := by
  obtain ⟨digits, length, hexadecimal, rfl, rfl⟩ := shows
  obtain ⟨digits', length', hexadecimal', rfl, rfl⟩ := others
  constructor
  · intro same
    have letters := congrArg String.toList same
    rw [toList_marked, toList_marked] at letters
    obtain rfl : digits = digits' := by simpa using letters
    rfl
  · intro same
    rw [eq_of_number (length.trans length'.symm) hexadecimal hexadecimal' same]

/-- What is made of a written address is the canonical form of the number that its digits stand
for. -/
theorem normalize_shows {written address : String} (done : normalize written = .ok address) :
    Numeral (body written) ∧ Shows address (number (body written)) := by
  rcases normalize_cases written with ⟨numeral, made⟩ | ⟨-, fault, failed⟩
  · cases made.symm.trans done
    exact ⟨numeral, numeral.shows⟩
  · rw [failed] at done
    cases done

/-- A written address is accepted exactly if it has the digits of a number, and its canonical form
is that of this number. The canonical form of a canonical form is the same, and those of two written
addresses are the same exactly if their numbers are. -/
theorem addresses_agree_on_numbers (written : String) :
    ((∃ address, normalize written = .ok address) ↔ Numeral (body written)) ∧
    ∀ address, normalize written = .ok address →
      Shows address (number (body written)) ∧
      normalize address = .ok address ∧
      ∀ other second, normalize other = .ok second →
        (address = second ↔ number (body written) = number (body other)) := by
  refine ⟨?_, ?_⟩
  · constructor
    · rintro ⟨address, done⟩
      exact (normalize_shows done).1
    · intro numeral
      rcases normalize_cases written with ⟨-, made⟩ | ⟨not, -⟩
      · exact ⟨_, made⟩
      · exact absurd numeral not
  · intro address done
    obtain ⟨-, shows⟩ := normalize_shows done
    refine ⟨shows, normalize_of_canonical shows.canonical, ?_⟩
    intro other second also
    exact shows.eq_iff (normalize_shows also).2

/-- Blanks, capitals, the mark and zeros in front make no other address. -/
theorem addresses_agree_on_numbers_capitals :
    ∃ address, normalize " 0X00BeeF\t" = .ok address ∧ normalize "beef" = .ok address ∧
      Shows address 48879 ∧ normalize address = .ok address := by
  have first : Numeral (body " 0X00BeeF\t") :=
    ⟨by decide +kernel, by decide +kernel, List.all_eq_true.mp (by decide +kernel)⟩
  have second : Numeral (body "beef") :=
    ⟨by decide +kernel, by decide +kernel, List.all_eq_true.mp (by decide +kernel)⟩
  obtain ⟨accepted, made⟩ := addresses_agree_on_numbers " 0X00BeeF\t"
  obtain ⟨address, done⟩ := accepted.mpr first
  obtain ⟨shows, kept, agree⟩ := made address done
  obtain ⟨other, also⟩ := (addresses_agree_on_numbers "beef").1.mpr second
  obtain rfl := (agree "beef" other also).mpr (by decide +kernel)
  have value : number (body " 0X00BeeF\t") = 48879 := by decide +kernel
  exact ⟨address, done, also, value ▸ shows, kept⟩

end Reconcile.Address
