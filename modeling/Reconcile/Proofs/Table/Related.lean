import Mathlib.Data.List.Forall2
import Reconcile.Proofs.Table

set_option autoImplicit false

/-
Two tables, row by row. If rows that stand side by side have the same keys, then what is found or
changed in one table stands beside what is found or changed in the other, and if they compare alike,
sorting leaves them side by side.
-/
namespace Reconcile.Table

variable {α β : Type} {related : α → β → Prop} {rows : List α} {others : List β}

section Keys

variable {key : α → String} {beside : β → String}
  (keyed : ∀ {a : α} {b : β}, related a b → key a = beside b)
include keyed

theorem find?_related (tables : List.Forall₂ related rows others) (wanted : String) :
    Option.Rel related (find? key wanted rows) (find? beside wanted others) := by
  induction tables with
  | nil => exact .none
  | cons head _ ih =>
    rw [find?_cons, find?_cons, keyed head]
    split
    · exact .some head
    · exact ih

theorem insert_related {row : α} {other : β} (head : related row other)
    (tables : List.Forall₂ related rows others) :
    List.Forall₂ related (insert key row rows) (insert beside other others) := by
  induction tables with
  | nil => exact .cons head .nil
  | cons first rest ih =>
    rw [insert, insert, keyed head, keyed first]
    split
    · exact .cons head (.cons first rest)
    · exact .cons first ih

theorem update_related (wanted : String) {change : α → α} {same : β → β}
    (changes : ∀ {a : α} {b : β}, related a b → related (change a) (same b))
    (tables : List.Forall₂ related rows others) :
    List.Forall₂ related (update key wanted change rows) (update beside wanted same others) := by
  refine List.forall₂_map_left_iff.mpr (List.forall₂_map_right_iff.mpr (tables.imp ?_))
  intro a b head
  rw [keyed head]
  split
  · exact changes head
  · exact head

theorem map_key_related (tables : List.Forall₂ related rows others) :
    rows.map key = others.map beside := by
  induction tables with
  | nil => rfl
  | cons head _ ih => rw [List.map_cons, List.map_cons, keyed head, ih]

end Keys

/-- The pairs of rows are sorted once; each table is one side of them. -/
theorem mergeSort_related {first : α → α → Bool} {second : β → β → Bool}
    (tables : List.Forall₂ related rows others)
    (alike : ∀ {a c : α} {b d : β}, related a b → related c d → first a c = second b d) :
    List.Forall₂ related (rows.mergeSort first) (others.mergeSort second) := by
  obtain ⟨length, each⟩ := List.forall₂_iff_zip.mp tables
  have left := List.map_fst_zip length.le
  have right := List.map_snd_zip length.ge
  have sortedLeft := @List.map_mergeSort _ _ (fun p q : α × β => first p.1 q.1) first Prod.fst
    (rows.zip others) fun _ _ _ _ => rfl
  have sortedRight := @List.map_mergeSort _ _ (fun p q : α × β => first p.1 q.1) second Prod.snd
    (rows.zip others) fun _ one _ other => alike (each one) (each other)
  rw [left] at sortedLeft
  rw [right] at sortedRight
  rw [← sortedLeft, ← sortedRight, List.forall₂_map_left_iff, List.forall₂_map_right_iff,
    List.forall₂_same]
  intro pair member
  exact each (List.mem_mergeSort.mp member)

theorem byTime_related {time : α → Timestamp} {key : α → String} {also : β → Timestamp}
    {beside : β → String} (tables : List.Forall₂ related rows others)
    (timed : ∀ {a : α} {b : β}, related a b → (time a).instant = (also b).instant)
    (keyed : ∀ {a : α} {b : β}, related a b → key a = beside b) :
    List.Forall₂ related (byTime time key rows) (byTime also beside others) := by
  refine mergeSort_related tables ?_
  intro a c b d one other
  rw [timed one, timed other, keyed one, keyed other]

theorem map_related {between : β → β → Prop} {change : β → β}
    (tables : List.Forall₂ related rows others)
    (made : ∀ {a : α} {b : β}, related a b → between (change b) b) :
    List.Forall₂ between (others.map change) others := by
  induction tables with
  | nil => exact .nil
  | cons head _ ih => exact .cons (made head) ih

theorem filter_related {stays : α → Bool} {also : β → Bool}
    (tables : List.Forall₂ related rows others)
    (alike : ∀ {a : α} {b : β}, related a b → stays a = also b) :
    List.Forall₂ related (rows.filter stays) (others.filter also) := by
  refine List.rel_filter ?_ tables
  intro a b head
  exact iff_of_eq (congrArg (· = true) (alike head))

theorem upTo_related (limit : Option Int) (tables : List.Forall₂ related rows others) :
    List.Forall₂ related (upTo limit rows) (upTo limit others) := by
  unfold upTo
  split
  · split
    · exact tables
    · exact List.forall₂_take _ tables
  · exact tables

end Reconcile.Table
