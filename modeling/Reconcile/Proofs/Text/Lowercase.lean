import Mathlib.Data.String.Basic
import Reconcile.Text.Blank
import Reconcile.Text.Lowercase

set_option autoImplicit false

/-
Texts in small letters. Lowercase leaves them as they are, and whoever writes some of their ASCII
letters as capitals gets them back.
-/
namespace Reconcile.Text

section Trimming

variable {drop : Char → Bool}

/-- Neither the first nor the last character is of the class. -/
structure Trimmed (drop : Char → Bool) (cs : List Char) : Prop where
  first : ∀ c ∈ cs.head?, drop c = false
  last : ∀ c ∈ cs.getLast?, drop c = false

theorem head?_dropWhile {cs : List Char} {c : Char} (first : c ∈ (cs.dropWhile drop).head?) :
    drop c = false := by
  have kept := List.head?_dropWhile_not drop cs
  rw [Option.mem_def.mp first] at kept
  exact kept

theorem dropWhile_eq_self {cs : List Char} (first : ∀ c ∈ cs.head?, drop c = false) :
    cs.dropWhile drop = cs := by
  cases cs with
  | nil => rfl
  | cons c rest => rw [List.dropWhile_cons_of_neg (by simp [first c rfl])]

theorem trimBy_trimmed (drop : Char → Bool) (cs : List Char) : Trimmed drop (trimBy drop cs) := by
  refine ⟨?_, ?_⟩
  · intro c first
    rw [trimBy, List.head?_reverse] at first
    -- What is left at the end is a part of what was left at the beginning.
    obtain ⟨dropped, whole⟩ := List.dropWhile_suffix drop (l := (cs.dropWhile drop).reverse)
    have same : (cs.dropWhile drop).head? = some c := by
      rw [← List.getLast?_reverse, ← whole, List.getLast?_append, Option.mem_def.mp first]
      rfl
    exact head?_dropWhile same
  · intro c last
    rw [trimBy, List.getLast?_reverse] at last
    exact head?_dropWhile last

theorem trimBy_eq_self {cs : List Char} (trimmed : Trimmed drop cs) : trimBy drop cs = cs := by
  rw [trimBy, dropWhile_eq_self trimmed.first, dropWhile_eq_self, List.reverse_reverse]
  intro c last
  rw [List.head?_reverse] at last
  exact trimmed.last c last

end Trimming

/-- Lowercase leaves the character alone wherever it stands. -/
structure Settled (c : Char) : Prop where
  same : lowerChar c = c
  notSigma : c ≠ capitalSigma
  notDotted : c ≠ '\u0130'

namespace CaseRun

/-- Where the first code point of a run leads. -/
def low (run : CaseRun) : Nat := Int.toNat (run.first + run.shift)

/-- Where the last code point of a run leads. -/
def high (run : CaseRun) : Nat := Int.toNat (run.last + run.shift)

def lands (run : CaseRun) : Bool :=
  0 ≤ run.first + run.shift &&
    (run.high < 0xD800 || (0xDFFF < run.low && run.high < 0x110000))

/-- Whether no code point of a run leads into the other, be it that it leads between those. -/
def passes (run other : CaseRun) : Bool :=
  run.high < other.first || other.last < run.low ||
    (other.step == 2 && (run.step == 2 || run.first == run.last) &&
      (run.low + other.first) % 2 == 1)

variable {run other : CaseRun} {code : Nat}

theorem covers_iff :
    run.covers code = true ↔
      run.first ≤ code ∧ code ≤ run.last ∧ (code - run.first) % run.step = 0 := by
  simp [covers, and_assoc]

theorem isValidChar_of_lands (lands : run.lands = true) (covered : run.covers code = true) :
    Nat.isValidChar (Int.toNat (code + run.shift)) := by
  obtain ⟨above, below, -⟩ := covers_iff.mp covered
  simp only [CaseRun.lands, Bool.and_eq_true, Bool.or_eq_true, decide_eq_true_eq] at lands
  simp only [low, high] at lands
  simp only [Nat.isValidChar]
  omega

theorem not_covers_of_passes (lands : run.lands = true) (passes : run.passes other = true)
    (covered : run.covers code = true) :
    other.covers (Int.toNat (code + run.shift)) = false := by
  rw [Bool.eq_false_iff, ne_eq, covers_iff]
  rintro ⟨otherAbove, otherBelow, otherStep⟩
  obtain ⟨above, below, step⟩ := covers_iff.mp covered
  simp only [CaseRun.lands, Bool.and_eq_true, decide_eq_true_eq] at lands
  simp only [CaseRun.passes, Bool.or_eq_true, Bool.and_eq_true, decide_eq_true_eq,
    beq_iff_eq] at passes
  have notBelow : run.low ≤ Int.toNat (code + run.shift) := by
    simp only [low]
    omega
  have notAbove : Int.toNat (code + run.shift) ≤ run.high := by
    simp only [high]
    omega
  rcases passes with (before | after) | ⟨⟨twoOther, even | single⟩, odd⟩
  · omega
  · omega
  · rw [twoOther] at otherStep
    rw [even] at step
    simp only [low] at odd
    omega
  · rw [twoOther] at otherStep
    simp only [low] at odd
    omega

end CaseRun

/-- The dotted capital I and white space, as runs that lead nowhere. -/
def barredRuns : List CaseRun :=
  ⟨0x130, 0x130, 1, 0⟩ :: spaceSpans.map fun span => ⟨span.1, span.2, 1, 0⟩

theorem caseRuns_land : caseRuns.all CaseRun.lands = true := by decide +kernel

/-- What the table of capitals leads to does not stand in it again. -/
theorem caseRuns_pass :
    (caseRuns.all fun run => (barredRuns ++ caseRuns).all run.passes) = true := by
  decide +kernel

theorem isSpace_eq_any (c : Char) :
    isSpace c = (spaceSpans.map fun span => (⟨span.1, span.2, 1, 0⟩ : CaseRun)).any
      (·.covers c.toNat) := by
  simp [isSpace, withinSpans, CaseRun.covers, List.any_map, Function.comp_def, Nat.mod_one]

theorem toNat_ofNat {code : Nat} (valid : code.isValidChar) : (Char.ofNat code).toNat = code := by
  rw [Char.ofNat, dif_pos valid]
  rfl

theorem lowerChar_spec (c : Char) :
    lowerChar c = c ∧ (∀ run ∈ caseRuns, run.covers c.toNat = false) ∨
      ∀ run ∈ barredRuns ++ caseRuns, run.covers (lowerChar c).toNat = false := by
  unfold lowerChar
  split
  · rename_i run found
    have member := List.mem_of_find?_eq_some found
    have covered := List.find?_some found
    have lands := List.all_eq_true.mp caseRuns_land run member
    have valid := CaseRun.isValidChar_of_lands lands covered
    right
    intro other listed
    have passes := List.all_eq_true.mp (List.all_eq_true.mp caseRuns_pass run member) other listed
    have apart := CaseRun.not_covers_of_passes lands passes covered
    rwa [toNat_ofNat valid]
  · rename_i missing
    exact Or.inl ⟨rfl, by simpa using missing⟩

theorem not_isSpace_of_barred {c : Char}
    (small : ∀ run ∈ barredRuns ++ caseRuns, run.covers c.toNat = false) : isSpace c = false := by
  rw [isSpace_eq_any, List.any_eq_false]
  intro run member
  rw [small run (List.mem_append_left _ (List.mem_cons_of_mem _ member))]
  decide

theorem settled_of_uncovered {c : Char} (uncovered : ∀ run ∈ caseRuns, run.covers c.toNat = false)
    (notDotted : c ≠ '\u0130') : Settled c := by
  refine ⟨?_, ?_, notDotted⟩
  · have missing : caseRuns.find? (·.covers c.toNat) = none := by simpa using uncovered
    rw [lowerChar, missing]
  · rintro rfl
    have sigma : (caseRuns.any (·.covers capitalSigma.toNat)) = true := by decide +kernel
    obtain ⟨run, member, covered⟩ := List.any_eq_true.mp sigma
    rw [uncovered run member] at covered
    cases covered

theorem settled_of_barred {c : Char}
    (small : ∀ run ∈ barredRuns ++ caseRuns, run.covers c.toNat = false) : Settled c := by
  refine settled_of_uncovered (fun run member => small run (List.mem_append_right _ member)) ?_
  rintro rfl
  have dotted := small ⟨0x130, 0x130, 1, 0⟩ (by simp [barredRuns])
  revert dotted
  decide

theorem lowerChar_settled {c : Char} (notDotted : c ≠ '\u0130') : Settled (lowerChar c) := by
  rcases lowerChar_spec c with ⟨same, uncovered⟩ | small
  · rw [same]
    exact settled_of_uncovered uncovered notDotted
  · exact settled_of_barred small

theorem isSpace_lowerChar {c : Char} (visible : isSpace c = false) :
    isSpace (lowerChar c) = false := by
  rcases lowerChar_spec c with ⟨same, -⟩ | small
  · rwa [same]
  · exact not_isSpace_of_barred small

def mapped (before : List Char) (c : Char) (rest : List Char) : List Char :=
  if c = capitalSigma then
    if nextToCased before && !nextToCased rest then ['\u03c2'] else ['\u03c3']
  else if c = '\u0130' then ['i', '\u0307']
  else [lowerChar c]

theorem lowerFrom_cons (before : List Char) (c : Char) (rest : List Char) :
    lowerFrom before (c :: rest) = mapped before c rest ++ lowerFrom (c :: before) rest := rfl

theorem mapped_ne_nil (before : List Char) (c : Char) (rest : List Char) :
    mapped before c rest ≠ [] := by
  unfold mapped
  split
  · split <;> simp
  · split <;> simp

theorem mapped_settled {before : List Char} {c : Char} {rest : List Char} {d : Char}
    (member : d ∈ mapped before c rest) : Settled d := by
  have small : ∀ e ∈ ['\u03c2', '\u03c3', 'i', '\u0307'], Settled e := by
    intro e listed
    have uncovered : (['\u03c2', '\u03c3', 'i', '\u0307'].all fun e =>
        e ≠ '\u0130' ∧ caseRuns.all fun run => run.covers e.toNat = false) = true := by
      decide +kernel
    obtain ⟨notDotted, uncovered⟩ := of_decide_eq_true (List.all_eq_true.mp uncovered e listed)
    exact settled_of_uncovered (by simpa using uncovered) notDotted
  unfold mapped at member
  split at member
  · split at member <;> exact small d (by simp_all)
  · split at member
    · exact small d (by simp_all)
    · rename_i notDotted
      rw [List.mem_singleton.mp member]
      exact lowerChar_settled notDotted

theorem mapped_visible {before : List Char} {c : Char} {rest : List Char} {d : Char}
    (visible : isSpace c = false) (member : d ∈ mapped before c rest) : isSpace d = false := by
  have visibles : (['\u03c2', '\u03c3', 'i', '\u0307'].all fun e => !isSpace e) = true := by
    decide
  have small : ∀ e ∈ ['\u03c2', '\u03c3', 'i', '\u0307'], isSpace e = false := by
    simpa only [List.all_eq_true, Bool.not_eq_true'] using visibles
  unfold mapped at member
  split at member
  · split at member <;> exact small d (by simp_all)
  · split at member
    · exact small d (by simp_all)
    · rw [List.mem_singleton.mp member]
      exact isSpace_lowerChar visible

theorem lowerFrom_settled {before cs : List Char} {d : Char} (member : d ∈ lowerFrom before cs) :
    Settled d := by
  induction cs generalizing before with
  | nil => cases member
  | cons c rest ih =>
    rw [lowerFrom_cons, List.mem_append] at member
    rcases member with here | later
    · exact mapped_settled here
    · exact ih later

theorem lowerFrom_last {before cs : List Char} (visible : ∀ c ∈ cs.getLast?, isSpace c = false) :
    ∀ d ∈ (lowerFrom before cs).getLast?, isSpace d = false := by
  induction cs generalizing before with
  | nil =>
    intro d last
    cases last
  | cons c rest ih =>
    intro d last
    rw [lowerFrom_cons, List.getLast?_append] at last
    cases rest with
    | nil =>
      exact mapped_visible (visible c rfl) (List.mem_of_getLast? last)
    | cons next rest =>
      rw [List.getLast?_cons_cons] at visible
      refine @ih (c :: before) visible d ?_
      rw [lowerFrom_cons, List.getLast?_append] at last ⊢
      obtain ⟨e, other⟩ := Option.ne_none_iff_exists'.mp
        (mt List.getLast?_eq_none_iff.mp (mapped_ne_nil (c :: before) next rest))
      cases later : (lowerFrom (next :: c :: before) rest).getLast? with
      | none => simpa [later, other] using last
      | some f => simpa [later] using last

/-- A text without white space around it has none in small letters. -/
theorem lower_trimmed {cs : List Char} (trimmed : Trimmed isSpace cs) :
    Trimmed isSpace (lower cs) := by
  refine ⟨?_, lowerFrom_last trimmed.last⟩
  cases cs with
  | nil =>
    intro d first
    cases first
  | cons c rest =>
    intro d first
    rw [lower, lowerFrom_cons, List.head?_append_of_ne_nil _ (mapped_ne_nil _ _ _)] at first
    exact mapped_visible (trimmed.first c rfl) (List.mem_of_head? first)

section Capitals

/-- A capital in ASCII has the usual lowercase. -/
theorem lowerChar_of_isUpper {c : Char} (capital : c.isUpper = true) :
    lowerChar c = c.toLower ∧ c.toLower ≠ c ∧ c ≠ capitalSigma ∧ c ≠ '\u0130' ∧
      isSpace c = false ∧ isSpace c.toLower = false := by
  have letters : ∀ code ∈ List.range 91, 65 ≤ code →
      lowerChar (Char.ofNat code) = (Char.ofNat code).toLower ∧
        (Char.ofNat code).toLower ≠ Char.ofNat code ∧ Char.ofNat code ≠ capitalSigma ∧
        Char.ofNat code ≠ '\u0130' ∧ isSpace (Char.ofNat code) = false ∧
        isSpace (Char.ofNat code).toLower = false := by
    decide +kernel
  obtain ⟨above, below⟩ := of_decide_eq_true capital
  have low : 65 ≤ c.toNat := above
  have high : c.toNat ≤ 90 := below
  have found := letters c.toNat (List.mem_range.mpr (by omega)) low
  rwa [Char.ofNat_toNat] at found

theorem toLower_of_not_isUpper {c : Char} (small : c.isUpper = false) : c.toLower = c :=
  dif_neg (of_decide_eq_false small)

theorem toList_toLower (s : String) : s.toLower.toList = s.toList.map Char.toLower :=
  String.toList_map

theorem Settled.not_isUpper {c : Char} (settled : Settled c) : c.isUpper = false := by
  rw [Bool.eq_false_iff]
  intro capital
  obtain ⟨small, moved, -⟩ := lowerChar_of_isUpper capital
  exact moved (small.symm.trans settled.same)

/-- A character that is equal to a small letter but for its case becomes that letter. -/
theorem lowerChar_of_toLower {c d : Char} (settled : Settled d) (same : c.toLower = d.toLower) :
    lowerChar c = d ∧ c ≠ capitalSigma ∧ c ≠ '\u0130' ∧ isSpace c = isSpace d := by
  rw [toLower_of_not_isUpper settled.not_isUpper] at same
  cases capital : c.isUpper with
  | true =>
    obtain ⟨small, -, notSigma, notDotted, visible, stillVisible⟩ :=
      lowerChar_of_isUpper capital
    rw [← same]
    exact ⟨small, notSigma, notDotted, visible.trans stillVisible.symm⟩
  | false =>
    rw [toLower_of_not_isUpper capital] at same
    rw [same]
    exact ⟨settled.same, settled.notSigma, settled.notDotted, rfl⟩

variable {written small : List Char}

theorem lowerFrom_of_toLower (before : List Char) (settled : ∀ d ∈ small, Settled d)
    (same : written.map Char.toLower = small.map Char.toLower) :
    lowerFrom before written = small ∧ written.map isSpace = small.map isSpace := by
  induction written generalizing before small with
  | nil =>
    cases small with
    | nil => exact ⟨rfl, rfl⟩
    | cons d rest => cases same
  | cons c rest ih =>
    cases small with
    | nil => cases same
    | cons d others =>
      obtain ⟨here, later⟩ := List.cons.inj same
      obtain ⟨letter, notSigma, notDotted, space⟩ :=
        lowerChar_of_toLower (settled d List.mem_cons_self) here
      obtain ⟨letters, spaces⟩ := ih (c :: before)
        (fun e member => settled e (List.mem_cons_of_mem d member)) later
      rw [lowerFrom_cons, mapped, if_neg notSigma, if_neg notDotted, letter, letters]
      exact ⟨rfl, congrArg₂ List.cons space spaces⟩

theorem trimmed_of_spaces (spaces : written.map isSpace = small.map isSpace)
    (trimmed : Trimmed isSpace small) : Trimmed isSpace written := by
  have ends : ∀ {a b : Option Char}, a.map isSpace = b.map isSpace →
      (∀ c ∈ b, isSpace c = false) → ∀ c ∈ a, isSpace c = false := by
    rintro a b same visible c rfl
    obtain ⟨d, found, space⟩ := Option.map_eq_some_iff.mp same.symm
    rw [← space]
    exact visible d found
  refine ⟨ends ?_ trimmed.first, ends ?_ trimmed.last⟩
  · rw [← List.head?_map, ← List.head?_map, spaces]
  · rw [← List.getLast?_map, ← List.getLast?_map, spaces]

end Capitals

/-- A text in small letters comes back from any text that equals it but for the case of its ASCII
letters. -/
theorem lowercase_trim_of_toLower {given written : String}
    (same : written.toLower = (lowercase (trim given)).toLower) :
    lowercase (trim written) = lowercase (trim given) := by
  have letters : written.toList.map Char.toLower =
      (lower (trimBy isSpace given.toList)).map Char.toLower := by
    have lists := congrArg String.toList same
    simpa [toList_toLower, lowercase, trim] using lists
  obtain ⟨lowered, spaces⟩ :=
    lowerFrom_of_toLower [] (fun d member => lowerFrom_settled member) letters
  have trimmed := trimmed_of_spaces spaces (lower_trimmed (trimBy_trimmed isSpace given.toList))
  have whole : trim written = written := by
    rw [trim, trimBy_eq_self trimmed, String.ofList_toList]
  rw [whole, lowercase, lower, lowered]
  simp [lowercase, trim, lower]

end Reconcile.Text
