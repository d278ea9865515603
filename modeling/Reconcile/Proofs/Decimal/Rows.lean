import Mathlib.Data.List.Induction
import Reconcile.Decimal.Reader
import Reconcile.Proofs.Decimal.Digits
import Reconcile.Proofs.Text.Trimming

set_option autoImplicit false

/-
Rows of digits. A row is read as far as it goes, and what is read of the digits of a number is that
number again.
-/
namespace Reconcile

def Row (cs : List Char) : Prop := ∀ c ∈ cs, c.isDigit = true

namespace Row

variable {cs others : List Char}

theorem append (first : Row cs) (second : Row others) : Row (cs ++ others) :=
  List.forall_mem_append.mpr ⟨first, second⟩

theorem zeros (n : Nat) : Row (List.replicate n '0') := by
  intro c member
  rw [List.eq_of_mem_replicate member]
  rfl

theorem toDigits (n : Nat) : Row (Nat.toDigits 10 n) := fun _ member =>
  Nat.isDigit_of_mem_toDigits (by decide) (by decide) member

end Row

namespace Text

theorem isDigit_iff {c : Char} : c.isDigit = true ↔ 48 ≤ c.toNat ∧ c.toNat ≤ 57 := by
  rw [Char.isDigit, Bool.and_eq_true, decide_eq_true_eq, decide_eq_true_eq]
  rfl

theorem asciiDigit?_of_isDigit {c : Char} (digit : c.isDigit = true) :
    asciiDigit? c = some (c.toNat - 48) := if_pos (isDigit_iff.mp digit)

theorem asciiDigit?_eq_none {c : Char} (other : c.isDigit = false) : asciiDigit? c = none := by
  refine if_neg fun between => ?_
  rw [isDigit_iff.mpr between] at other
  cases other

end Text

namespace Decimal

variable {cs rest : List Char}

theorem takeDigits_append (row : Row cs) (stops : ∀ c ∈ rest.head?, c.isDigit = false) :
    takeDigits (cs ++ rest) = (cs.map (·.toNat - 48), rest) := by
  induction cs with
  | nil =>
    cases rest with
    | nil => rfl
    | cons c rest =>
      rw [List.nil_append, takeDigits, Text.asciiDigit?_eq_none (stops c rfl)]
      rfl
  | cons c cs ih =>
    rw [List.cons_append, takeDigits, Text.asciiDigit?_of_isDigit (row c List.mem_cons_self),
      ih fun d member => row d (List.mem_cons_of_mem c member)]
    rfl

theorem takeDigits_row (row : Row cs) : takeDigits cs = (cs.map (·.toNat - 48), []) := by
  have whole := @takeDigits_append cs [] row (by simp)
  rwa [List.append_nil] at whole

theorem ofDigits_map (cs : List Char) :
    ofDigits (cs.map (·.toNat - 48)) = Nat.ofDigitChars 10 cs 0 := by
  rw [ofDigits, Nat.ofDigitChars_eq_foldl, List.foldl_map]
  congr 1
  funext n c
  rw [Nat.mul_comm]
  rfl

theorem ofDigits_append (digits : List Nat) (d : Nat) :
    ofDigits (digits ++ [d]) = ofDigits digits * 10 + d := by
  simp only [ofDigits, List.foldl_append, List.foldl_cons, List.foldl_nil]

theorem ofDigits_lt {digits : List Nat} (small : ∀ d ∈ digits, d < 10) :
    ofDigits digits < tenTo digits.length := by
  induction digits using List.reverseRecOn with
  | nil => decide
  | append_singleton rest d ih =>
    have digit := small d (List.mem_append_right rest List.mem_cons_self)
    have below := ih fun other member => small other (List.mem_append_left [d] member)
    rw [ofDigits_append, List.length_append, List.length_singleton, tenTo_add,
      show tenTo 1 = 10 from rfl]
    omega

theorem takeDigits_small (cs : List Char) : ∀ d ∈ (takeDigits cs).1, d < 10 := by
  induction cs with
  | nil => exact fun d member => absurd member List.not_mem_nil
  | cons c rest ih =>
    unfold takeDigits
    split
    · rename_i value digit
      refine List.forall_mem_cons.mpr ⟨?_, ih⟩
      obtain ⟨between, rfl⟩ := Option.ite_some_none_eq_some.mp digit
      omega
    · exact fun d member => absurd member List.not_mem_nil

theorem ofDigitChars_zeros (k : Nat) (cs : List Char) :
    Nat.ofDigitChars 10 (List.replicate k '0' ++ cs) 0 = Nat.ofDigitChars 10 cs 0 := by
  rw [Nat.ofDigitChars_append, Nat.ofDigitChars_replicate_zero, Nat.mul_zero]

end Decimal

end Reconcile
