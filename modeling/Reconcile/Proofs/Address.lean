import Reconcile.Address
import Reconcile.Proofs.Text.Trimming

set_option autoImplicit false

/-
Receiver addresses. The canonical form depends only on the digits of an address, without the zeros
in front and in small letters, and it is the canonical form of itself.
-/
namespace Reconcile.Address

def isMarkOrDigit (c : Char) : Bool := isHexDigit c || c = 'x'

/-- The mark 0x and 64 hexadecimal digits in small letters. -/
def Canonical (address : String) : Prop :=
  ∃ digits : List Char, digits.length = width ∧ digits.all isHexDigit = true ∧
    address = "0x" ++ String.ofList digits

section Characters

theorem isMarkOrDigit_small {c : Char} (shown : isMarkOrDigit c = true) :
    48 ≤ c.toNat ∧ c.toNat ≤ 120 ∧
      (c.toNat ≤ 57 ∨ 97 ≤ c.toNat ∧ c.toNat ≤ 102 ∨ c.toNat = 120) := by
  simp only [isMarkOrDigit, isHexDigit, Bool.or_eq_true, Bool.and_eq_true, decide_eq_true_eq]
    at shown
  rcases shown with (⟨low, high⟩ | ⟨low, high⟩) | rfl
  · have least : 48 ≤ c.toNat := low
    have most : c.toNat ≤ 57 := high
    omega
  · have least : 97 ≤ c.toNat := low
    have most : c.toNat ≤ 102 := high
    omega
  · decide

/-- Capitals of ASCII apart, no letter has a digit or the mark for its small letter. -/
theorem caseRuns_apart : (Text.caseRuns.tail.all fun run =>
    (run.high < 48 || 57 < run.low) && (run.high < 97 || 102 < run.low) &&
      (run.high < 120 || 120 < run.low)) = true := by
  decide +kernel

theorem settled_of_isMarkOrDigit {c : Char} (shown : isMarkOrDigit c = true) :
    Text.Settled c ∧ Text.isBlank c = false := by
  have low : c.toNat < 121 := Nat.lt_succ_of_le (isMarkOrDigit_small shown).2.1
  have found : (Text.caseRuns.all fun run => !run.covers c.toNat) = true ∧
      c ≠ '\u0130' ∧ Text.isBlank c = false := by
    revert shown
    refine Text.forall_below low ?_
    decide +kernel
  obtain ⟨uncovered, notDotted, visible⟩ := found
  refine ⟨Text.settled_of_uncovered ?_ notDotted, visible⟩
  simpa [List.all_eq_true] using uncovered

/-- A letter whose small letter is a digit or the mark is one of ASCII. -/
theorem lowerChar_eq_toLower {c : Char} (shown : isMarkOrDigit (Text.lowerChar c) = true) :
    Text.lowerChar c = c.toLower := by
  by_cases capital : c.isUpper
  · exact (Text.lowerChar_of_isUpper capital).1
  unfold Text.lowerChar at shown ⊢
  split
  · rename_i run found
    exfalso
    rw [found] at shown
    dsimp only at shown
    have covered := List.find?_some found
    have member := List.mem_of_find?_eq_some found
    have lands := List.all_eq_true.mp Text.caseRuns_land run member
    have valid := Text.CaseRun.isValidChar_of_lands lands covered
    obtain ⟨above, below, -⟩ := Text.CaseRun.covers_iff.mp covered
    rcases List.mem_cons.mp member with rfl | other
    · exact capital (decide_eq_true ⟨above, below⟩)
    · have apart := List.all_eq_true.mp caseRuns_apart run other
      have small := isMarkOrDigit_small shown
      rw [Text.toNat_ofNat valid] at small
      simp only [Bool.and_eq_true, Bool.or_eq_true, decide_eq_true_eq] at apart
      simp only [Text.CaseRun.low, Text.CaseRun.high] at apart
      omega
  · rw [Text.toLower_of_not_isUpper (Bool.eq_false_iff.mpr capital)]

/-- What becomes digits and the mark in small letters was of ASCII. -/
theorem lowerFrom_eq_map {before cs : List Char}
    (shown : ∀ d ∈ Text.lowerFrom before cs, isMarkOrDigit d = true) :
    Text.lowerFrom before cs = cs.map Char.toLower := by
  induction cs generalizing before with
  | nil => rfl
  | cons c rest ih =>
    rw [Text.lowerFrom_cons] at shown ⊢
    obtain ⟨here, later⟩ := List.forall_mem_append.mp shown
    rw [ih later, List.map_cons]
    have one : Text.mapped before c rest = [c.toLower] := by
      unfold Text.mapped at here ⊢
      split
      · rename_i sigma
        rw [if_pos sigma] at here
        exfalso
        split at here
        · exact absurd (here _ (List.mem_singleton_self _)) (by decide)
        · exact absurd (here _ (List.mem_singleton_self _)) (by decide)
      · rename_i notSigma
        rw [if_neg notSigma] at here
        split
        · rename_i dotted
          rw [if_pos dotted] at here
          exact absurd (here 'i' List.mem_cons_self) (by decide)
        · rename_i notDotted
          rw [if_neg notDotted] at here
          rw [lowerChar_eq_toLower (here _ (List.mem_singleton_self _))]
    rw [one]
    rfl

end Characters

section Body

/-- Where no line end stands last, the pattern takes digits alone. -/
theorem isBody_iff {cs : List Char} (last : ∀ c ∈ cs.getLast?, c ≠ '\n') :
    isBody cs = true ↔ cs ≠ [] ∧ cs.length ≤ width ∧ cs.all isHexDigit = true := by
  obtain ⟨digits, whole, all⟩ : ∃ digits, cs = digits ++ cs.dropWhile isHexDigit ∧
      digits = cs.takeWhile isHexDigit := ⟨_, (List.takeWhile_append_dropWhile).symm, rfl⟩
  simp only [isBody, ← all, Bool.and_eq_true, Bool.or_eq_true, Bool.not_eq_true',
    List.isEmpty_eq_false_iff, decide_eq_true_eq, beq_iff_eq]
  constructor
  · rintro ⟨⟨some, short⟩, none | lineEnd⟩
    · rw [none, List.append_nil] at whole
      rw [whole]
      refine ⟨some, short, ?_⟩
      rw [all, List.all_takeWhile]
    · rw [lineEnd] at whole
      exact absurd rfl (last '\n' (by rw [whole, List.getLast?_concat]; rfl))
  · rintro ⟨some, short, hexadecimal⟩
    have every := List.all_eq_true.mp hexadecimal
    rw [List.takeWhile_eq_self_iff.mpr every] at all
    rw [all, List.dropWhile_eq_nil_iff.mpr every]
    exact ⟨⟨some, short⟩, Or.inl rfl⟩

theorem getLast?_dropMark {cs : List Char} {c : Char} (last : c ∈ (dropMark cs).getLast?) :
    c ∈ cs.getLast? := by
  unfold dropMark at last
  split at last
  · rw [Option.mem_def, List.getLast?_cons, List.getLast?_cons, Option.mem_def.mp last]
    rfl
  · exact last

/-- Blanks are dropped before the pattern is tried, so that no line end is left to it. -/
theorem isBody_of_stripped (written : String) {body : List Char}
    (rest : body = dropMark (Text.lower (Text.trimBy Text.isBlank written.toList))) :
    isBody body = true ↔ body ≠ [] ∧ body.length ≤ width ∧ body.all isHexDigit = true := by
  refine isBody_iff fun c last => ?_
  rintro rfl
  have visible : ∀ c ∈ (Text.trimBy Text.isBlank written.toList).getLast?,
      Text.isSpace c = false := by
    intro c last
    have bare := (Text.trimBy_trimmed Text.isBlank written.toList).last c last
    exact (Bool.or_eq_false_iff.mp bare).1
  rw [rest] at last
  exact absurd (Text.lowerFrom_last visible _ (getLast?_dropMark last)) (by decide)

end Body

section Normalize

/-- The digits of an address as it is written, without the zeros in front and in small letters. -/
def digitsOf (written : String) : List Char :=
  (dropMark ((Text.trimBy Text.isBlank written.toList).map Char.toLower)).dropWhile (· = '0')

theorem padded_dropWhile {digits : List Char} (short : digits.length ≤ width) :
    padded digits = padded (digits.dropWhile (· = '0')) := by
  obtain ⟨zeros, whole, all⟩ := Text.exists_dropWhile (· = '0') digits
  have row : zeros = List.replicate zeros.length '0' :=
    List.eq_replicate_of_mem fun c member => of_decide_eq_true (all c member)
  generalize digits.dropWhile (· = '0') = rest at *
  have count : width - rest.length = (width - digits.length) + zeros.length := by
    rw [whole, List.length_append] at short ⊢
    omega
  rw [padded, padded, count, List.replicate_add, ← row, List.append_assoc, ← whole]

theorem mem_dropMark {small : List Char} (digits : (dropMark small).all isHexDigit = true) :
    ∀ c ∈ small, isMarkOrDigit c = true := by
  intro c member
  have digit : ∀ d ∈ dropMark small, isMarkOrDigit d = true := fun d inside => by
    rw [isMarkOrDigit, List.all_eq_true.mp digits d inside, Bool.true_or]
  unfold dropMark at digit
  split at digit
  · rcases List.mem_cons.mp member with rfl | member
    · rfl
    · rcases List.mem_cons.mp member with rfl | member
      · rfl
      · exact digit c member
  · exact digit c member

theorem padded_canonical {digits : List Char} (short : digits.length ≤ width)
    (all : digits.all isHexDigit = true) : Canonical ("0x" ++ String.ofList (padded digits)) := by
  refine ⟨padded digits, ?_, ?_, rfl⟩
  · rw [padded, List.length_append, List.length_replicate]
    omega
  · rw [padded, List.all_append, all, Bool.and_true, List.all_eq_true]
    intro c member
    rw [List.eq_of_mem_replicate member]
    rfl

theorem normalize_eq_ok {written address : String} (done : normalize written = .ok address) :
    address = "0x" ++ String.ofList (padded (digitsOf written)) ∧ Canonical address := by
  unfold normalize at done
  dsimp only at done
  split at done
  · cases done
  · split at done
    · rename_i fits
      cases done
      obtain ⟨-, short, digits⟩ := (isBody_of_stripped written rfl).mp fits
      have small : Text.lower (Text.trimBy Text.isBlank written.toList) =
          (Text.trimBy Text.isBlank written.toList).map Char.toLower :=
        lowerFrom_eq_map (mem_dropMark digits)
      refine ⟨?_, padded_canonical short digits⟩
      rw [padded_dropWhile short, digitsOf, ← small]
    · cases done

theorem toList_marked (digits : List Char) :
    ("0x" ++ String.ofList digits).toList = '0' :: 'x' :: digits := by
  simp

/-- A canonical address has no blanks around it and nothing but digits and the mark. -/
theorem Canonical.shown {address : String} (canonical : Canonical address) :
    address.toList.length = width + 2 ∧ ∀ c ∈ address.toList, isMarkOrDigit c = true := by
  obtain ⟨digits, length, all, rfl⟩ := canonical
  rw [toList_marked]
  refine ⟨by rw [List.length_cons, List.length_cons, length], ?_⟩
  exact @mem_dropMark ('0' :: 'x' :: digits) all

theorem normalize_of_canonical {address : String} (canonical : Canonical address) :
    normalize address = .ok address := by
  obtain ⟨-, shown⟩ := canonical.shown
  have bare : Text.trimBy Text.isBlank address.toList = address.toList := by
    refine Text.trimBy_eq_self (Text.trimmed_of_forall fun c member => ?_)
    exact (settled_of_isMarkOrDigit (shown c member)).2
  have small : Text.lower address.toList = address.toList :=
    (Text.lowerFrom_of_toLower [] (fun c member => (settled_of_isMarkOrDigit (shown c member)).1)
      rfl).1
  obtain ⟨digits, length, all, rfl⟩ := canonical
  have body := isBody_of_stripped ("0x" ++ String.ofList digits) rfl
  unfold normalize
  rw [bare, small, toList_marked] at body ⊢
  have some : digits ≠ [] := by
    rintro rfl
    cases length
  have filled : padded digits = digits := by
    rw [padded, length, Nat.sub_self]
    rfl
  have fits : isBody digits = true := body.mpr ⟨some, length.le, all⟩
  simp [dropMark, fits, filled]

end Normalize

end Reconcile.Address
