import Reconcile.Proofs.Text.Trimming

set_option autoImplicit false

/-
Texts that differ in the white space of ASCII around them or in the case of letters of ASCII. They
are the same text once they are trimmed and in small letters; the case of its neighbours does not
matter to a sigma.
-/
namespace Reconcile.Text

/-- The white space of ASCII: the blank, and the characters from the tab to the return. -/
def isAsciiSpace (c : Char) : Bool := c = ' ' || (9 ≤ c.toNat && c.toNat ≤ 13)

/-- What is between the white space of ASCII around a text. -/
def core (s : String) : List Char := trimBy isAsciiSpace s.toList

theorem isSpace_of_isAsciiSpace (c : Char) (space : isAsciiSpace c = true) : isSpace c = true := by
  simp only [isAsciiSpace, Bool.or_eq_true, Bool.and_eq_true, decide_eq_true_eq] at space
  rcases space with rfl | ⟨low, high⟩
  · rfl
  · simp [isSpace, withinSpans, spaceSpans, low, high]

theorem trimBy_core (s : String) : trimBy isSpace (core s) = trimBy isSpace s.toList :=
  trimBy_trimBy isSpace_of_isAsciiSpace s.toList

theorem trim_of_core {v w : String} (same : core v = core w) : trim v = trim w := by
  rw [trim, trim, ← trimBy_core, same, trimBy_core]

section Case

/-- What matters of a letter of ASCII to a lowercase text does not depend on its case. -/
theorem toLower_spec (c : Char) :
    lowerChar c.toLower = lowerChar c ∧ isIgnorable c.toLower = isIgnorable c ∧
      isCased c.toLower = isCased c ∧ isSpace c.toLower = isSpace c ∧
      (c.toLower = capitalSigma ↔ c = capitalSigma) ∧ (c.toLower = '\u0130' ↔ c = '\u0130') := by
  cases capital : c.isUpper with
  | true =>
    have below : c.toNat < 91 := Nat.lt_succ_of_le (of_decide_eq_true capital).2
    revert capital
    refine forall_below below ?_
    decide +kernel
  | false => simp only [toLower_of_not_isUpper capital, iff_self, and_self]

theorem nextToCased_map (cs : List Char) :
    nextToCased (cs.map Char.toLower) = nextToCased cs := by
  have ignored : isIgnorable ∘ Char.toLower = isIgnorable :=
    funext fun c => (toLower_spec c).2.1
  have cased : isCased ∘ Char.toLower = isCased := funext fun c => (toLower_spec c).2.2.1
  rw [nextToCased, nextToCased, List.dropWhile_map, ignored, List.head?_map, Option.map_map, cased]

theorem mapped_map (before : List Char) (c : Char) (rest : List Char) :
    mapped (before.map Char.toLower) c.toLower (rest.map Char.toLower) = mapped before c rest := by
  obtain ⟨letter, -, -, -, sigma, dotted⟩ := toLower_spec c
  simp only [mapped, nextToCased_map, sigma, dotted, letter]

theorem lowerFrom_map (before cs : List Char) :
    lowerFrom (before.map Char.toLower) (cs.map Char.toLower) = lowerFrom before cs := by
  induction cs generalizing before with
  | nil => rfl
  | cons c rest ih =>
    rw [List.map_cons, lowerFrom_cons, lowerFrom_cons, mapped_map, ← List.map_cons, ih]

theorem lower_map (cs : List Char) : lower (cs.map Char.toLower) = lower cs := lowerFrom_map [] cs

/-- Texts that differ only in the case of letters of ASCII and in the white space around them have
one length and one lowercase. -/
theorem lowercase_trim_of_core {v w : String}
    (same : (core v).map Char.toLower = (core w).map Char.toLower) :
    (trim v).length = (trim w).length ∧ lowercase (trim v) = lowercase (trim w) := by
  have through : ∀ s : String,
      (trimBy isSpace s.toList).map Char.toLower = trimBy isSpace ((core s).map Char.toLower) := by
    intro s
    rw [trimBy_map fun c => (toLower_spec c).2.2.2.1, trimBy_core]
  have letters : (trimBy isSpace v.toList).map Char.toLower =
      (trimBy isSpace w.toList).map Char.toLower := by
    rw [through, through, same]
  refine ⟨?_, ?_⟩
  · have lengths := congrArg List.length letters
    rwa [List.length_map, List.length_map, ← String.length_ofList, ← String.length_ofList]
      at lengths
  · rw [lowercase, lowercase, trim, trim, String.toList_ofList, String.toList_ofList, ← lower_map,
      letters, lower_map]

end Case

end Reconcile.Text
