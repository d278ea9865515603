import Mathlib.Data.List.TakeWhile
import Reconcile.Proofs.Text.Lowercase

set_option autoImplicit false

/-
Blanks around a text. What is left when they are taken off is the one part of the text that ends in
no blanks and has nothing but blanks around it; so blanks may be taken off in any number of rounds.
Two classes of blanks leave the same part unless a separator stands at one of its ends.
-/
namespace Reconcile.Text

section Trimming

variable {drop early : Char → Bool} {cs left middle right : List Char}

theorem dropWhile_append_all (all : ∀ c ∈ left, drop c = true) (rest : List Char) :
    (left ++ rest).dropWhile drop = rest.dropWhile drop := by
  induction left with
  | nil => rfl
  | cons c left ih =>
    rw [List.cons_append, List.dropWhile_cons_of_pos (all c List.mem_cons_self)]
    exact ih fun d member => all d (List.mem_cons_of_mem c member)

theorem exists_dropWhile (drop : Char → Bool) (cs : List Char) :
    ∃ left, cs = left ++ cs.dropWhile drop ∧ ∀ c ∈ left, drop c = true :=
  ⟨cs.takeWhile drop, List.takeWhile_append_dropWhile.symm,
    fun _ member => List.mem_takeWhile_imp member⟩

theorem trimmed_of_forall (visible : ∀ c ∈ cs, drop c = false) : Trimmed drop cs :=
  ⟨fun c first => visible c (List.mem_of_head? first),
    fun c last => visible c (List.mem_of_getLast? last)⟩

/-- Only blanks are taken off. -/
theorem exists_trimBy (drop : Char → Bool) (cs : List Char) :
    ∃ left right, cs = left ++ trimBy drop cs ++ right ∧ (∀ c ∈ left, drop c = true) ∧
      ∀ c ∈ right, drop c = true := by
  obtain ⟨left, front, allLeft⟩ := exists_dropWhile drop cs
  obtain ⟨right, back, allRight⟩ := exists_dropWhile drop (cs.dropWhile drop).reverse
  refine ⟨left, right.reverse, ?_, allLeft, fun c member => allRight c (List.mem_reverse.mp member)⟩
  have kept := congrArg List.reverse back
  rw [List.reverse_reverse, List.reverse_append] at kept
  rw [trimBy, List.append_assoc, ← kept]
  exact front

/-- A part that ends in no blanks and has nothing but blanks around it is what is left. -/
theorem trimBy_eq (allLeft : ∀ c ∈ left, drop c = true) (allRight : ∀ c ∈ right, drop c = true)
    (trimmed : Trimmed drop middle) : trimBy drop (left ++ middle ++ right) = middle := by
  rw [trimBy, List.append_assoc, dropWhile_append_all allLeft]
  cases middle with
  | nil =>
    have none : ([] ++ right).dropWhile drop = [] := by
      have all := dropWhile_append_all allRight []
      rwa [List.append_nil] at all
    rw [none]
    rfl
  | cons c middle =>
    have front : (c :: middle ++ right).dropWhile drop = c :: middle ++ right :=
      dropWhile_eq_self fun d first => trimmed.first d first
    have ends : ∀ d ∈ ((c :: middle).reverse).head?, drop d = false := by
      intro d last
      rw [List.head?_reverse] at last
      exact trimmed.last d last
    rw [front, List.reverse_append,
      dropWhile_append_all fun d member => allRight d (List.mem_reverse.mp member),
      dropWhile_eq_self ends, List.reverse_reverse]

theorem trimBy_trimBy (weaker : ∀ c, early c = true → drop c = true) (cs : List Char) :
    trimBy drop (trimBy early cs) = trimBy drop cs := by
  obtain ⟨left, right, whole, allLeft, allRight⟩ := exists_trimBy early cs
  obtain ⟨left', right', part, allLeft', allRight'⟩ := exists_trimBy drop (trimBy early cs)
  have around : cs = (left ++ left') ++ trimBy drop (trimBy early cs) ++ (right' ++ right) := by
    conv_lhs => rw [whole, part]
    simp only [List.append_assoc]
  have before : ∀ c ∈ left ++ left', drop c = true :=
    List.forall_mem_append.mpr ⟨fun c member => weaker c (allLeft c member), allLeft'⟩
  have after : ∀ c ∈ right' ++ right, drop c = true :=
    List.forall_mem_append.mpr ⟨allRight', fun c member => weaker c (allRight c member)⟩
  conv_rhs => rw [around]
  exact (trimBy_eq before after (trimBy_trimmed drop _)).symm

/-- A change of characters that keeps the blanks apart from the rest may come before or after. -/
theorem trimBy_map {change : Char → Char} (same : ∀ c, drop (change c) = drop c) (cs : List Char) :
    trimBy drop (cs.map change) = (trimBy drop cs).map change := by
  have through : ∀ cs : List Char,
      (cs.map change).dropWhile drop = (cs.dropWhile drop).map change := by
    intro cs
    rw [List.dropWhile_map]
    congr 2
    funext c
    exact same c
  rw [trimBy, trimBy, through, ← List.map_reverse, through, List.map_reverse]

end Trimming

/-- What holds of the characters below a bound can be looked up. -/
@[elab_as_elim]
theorem forall_below {motive : Char → Prop} {bound : Nat} {c : Char} (low : c.toNat < bound)
    (all : ∀ code ∈ List.range bound, motive (Char.ofNat code)) : motive c := by
  have found := all c.toNat (List.mem_range.mpr low)
  rwa [Char.ofNat_toNat] at found

theorem isBlank_of_isSpace (c : Char) (space : isSpace c = true) : isBlank c = true := by
  rw [isBlank, space, Bool.true_or]

/-- Without the white space around it the text neither begins nor ends with a separator. -/
def Bare (s : String) : Prop := Trimmed isBlank (trimBy isSpace s.toList)

theorem trim_of_forall {s : String} (visible : ∀ c ∈ s.toList, isSpace c = false) :
    trim s = s := by
  rw [trim, trimBy_eq_self (trimmed_of_forall visible), String.ofList_toList]

theorem strip_trim (s : String) : strip (trim s) = strip s := by
  rw [strip, strip, trim, String.toList_ofList, trimBy_trimBy isBlank_of_isSpace]

theorem strip_eq_trim_iff (s : String) : strip s = trim s ↔ Bare s := by
  have lists : strip s = trim s ↔ trimBy isBlank s.toList = trimBy isSpace s.toList := by
    rw [strip, trim, String.ofList_inj]
  rw [lists]
  constructor
  · intro same
    rw [Bare, ← same]
    exact trimBy_trimmed isBlank s.toList
  · intro bare
    rw [← trimBy_trimBy isBlank_of_isSpace, trimBy_eq_self bare]

/-- Each character becomes one, but for the dotted capital I, which becomes two. -/
theorem length_lowerFrom (before cs : List Char) :
    (lowerFrom before cs).length = cs.length + cs.count '\u0130' := by
  induction cs generalizing before with
  | nil => rfl
  | cons c rest ih =>
    have one : (mapped before c rest).length = 1 + if c == '\u0130' then 1 else 0 := by
      unfold mapped
      split
      · rename_i sigma
        subst sigma
        split <;> rfl
      · split
        · rename_i dotted
          subst dotted
          rfl
        · rename_i notDotted
          rw [if_neg (by simpa using notDotted)]
          rfl
    rw [lowerFrom_cons, List.length_append, one, ih, List.length_cons, List.count_cons]
    omega

theorem length_lower (cs : List Char) : (lower cs).length = cs.length + cs.count '\u0130' :=
  length_lowerFrom [] cs

/-- A text with a separator at one of its ends is longer, also in small letters, than without it. -/
theorem bare_of_lowercase_strip {s : String} (same : lowercase (strip s) = lowercase (trim s)) :
    Bare s := by
  rw [lowercase, lowercase, String.ofList_inj, strip, trim, String.toList_ofList,
    String.toList_ofList, ← trimBy_trimBy isBlank_of_isSpace] at same
  obtain ⟨left, right, whole, -⟩ := exists_trimBy isBlank (trimBy isSpace s.toList)
  have lengths := congrArg List.length same
  rw [length_lower, length_lower] at lengths
  have parts := congrArg List.length whole
  have dotted := congrArg (List.count '\u0130') whole
  rw [List.length_append, List.length_append] at parts
  rw [List.count_append, List.count_append] at dotted
  have nothing : left = [] ∧ right = [] := by
    rw [← List.length_eq_zero_iff, ← List.length_eq_zero_iff]
    omega
  rw [nothing.1, nothing.2, List.nil_append, List.append_nil] at whole
  rw [Bare, whole]
  exact trimBy_trimmed isBlank _

end Reconcile.Text
