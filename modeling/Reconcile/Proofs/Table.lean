import Mathlib.Data.List.Perm.Basic
import Mathlib.Data.String.Basic
import Reconcile.Store.Basic

set_option autoImplicit false

/-
Tables as lists in the order of their keys: what a row that is put in or changed does to finding
a row, to the rows as a whole and to their order.
-/
namespace Reconcile.Table

variable {α : Type} (key : α → String)

/-- The rows stand in the order of their keys, and no two have the same key. -/
def Sorted (rows : List α) : Prop := rows.Pairwise fun a b => key a < key b

theorem find?_cons (wanted : String) (row : α) (rows : List α) :
    find? key wanted (row :: rows) =
      if key row = wanted then some row else find? key wanted rows := by
  by_cases same : key row = wanted <;> simp [find?, same]

theorem mem_of_find? {wanted : String} {row : α} {rows : List α}
    (found : find? key wanted rows = some row) : row ∈ rows ∧ key row = wanted :=
  ⟨List.mem_of_find?_eq_some found, by simpa using List.find?_some found⟩

theorem find?_eq_none_iff {wanted : String} {rows : List α} :
    find? key wanted rows = none ↔ ∀ row ∈ rows, key row ≠ wanted := by
  simp [find?]

theorem insert_perm (row : α) (rows : List α) : (insert key row rows).Perm (row :: rows) := by
  induction rows with
  | nil => exact .refl _
  | cons first rest ih =>
    simp only [insert]
    split
    · exact .refl _
    · exact (List.Perm.cons first ih).trans (List.Perm.swap row first rest)

theorem mem_insert {row other : α} {rows : List α} :
    other ∈ insert key row rows ↔ other = row ∨ other ∈ rows := by
  rw [(insert_perm key row rows).mem_iff, List.mem_cons]

theorem insert_sorted {row : α} {rows : List α} (sorted : Sorted key rows)
    (fresh : ∀ other ∈ rows, key other ≠ key row) : Sorted key (insert key row rows) := by
  induction rows with
  | nil => exact List.pairwise_singleton _ _
  | cons first rest ih =>
    obtain ⟨above, tail⟩ := List.pairwise_cons.mp sorted
    simp only [insert]
    split
    · rename_i below
      refine List.pairwise_cons.mpr ⟨?_, sorted⟩
      intro other member
      rcases List.mem_cons.mp member with rfl | member
      · exact below
      · exact lt_trans below (above other member)
    · rename_i notBelow
      refine List.pairwise_cons.mpr ⟨?_, ih tail fun other member => fresh other (by simp [member])⟩
      intro other member
      rcases (mem_insert key).mp member with rfl | member
      · exact lt_of_le_of_ne (not_lt.mp notBelow) (fresh first (by simp))
      · exact above other member

/-- A row that is put in is found under its own key, if no row had it before, and hides no
other. -/
theorem find?_insert {row : α} {rows : List α} (wanted : String)
    (fresh : ∀ other ∈ rows, key other ≠ key row) :
    find? key wanted (insert key row rows) =
      if key row = wanted then some row else find? key wanted rows := by
  induction rows with
  | nil => simp only [insert, find?_cons]
  | cons first rest ih =>
    have tail := ih fun other member => fresh other (by simp [member])
    have apart : key first ≠ key row := fresh first (by simp)
    simp only [insert]
    split
    · rw [find?_cons]
    · rw [find?_cons, tail, find?_cons]
      by_cases same : key row = wanted
      · rw [if_neg (same ▸ apart), if_pos same, if_pos same]
      · rw [if_neg same, if_neg same]

theorem find?_update (wanted other : String) (change : α → α) (rows : List α)
    (same : ∀ row, key (change row) = key row) :
    find? key other (update key wanted change rows) =
      (find? key other rows).map fun row => if other = wanted then change row else row := by
  induction rows with
  | nil => rfl
  | cons first rest ih =>
    have kept : key (if key first = wanted then change first else first) = key first := by
      split
      · exact same first
      · rfl
    simp only [update, List.map_cons] at ih ⊢
    rw [find?_cons, find?_cons, kept, ih]
    by_cases here : key first = other
    · simp [here]
    · simp [here]

theorem update_sorted (wanted : String) (change : α → α) {rows : List α}
    (same : ∀ row, key (change row) = key row) (sorted : Sorted key rows) :
    Sorted key (update key wanted change rows) := by
  refine List.pairwise_map.mpr (sorted.imp ?_)
  intro a b below
  have kept : ∀ row, key (if key row = wanted then change row else row) = key row := by
    intro row
    split
    · exact same row
    · rfl
  rwa [kept a, kept b]

theorem Sorted.nodup {rows : List α} (sorted : Sorted key rows) : (rows.map key).Nodup :=
  List.pairwise_map.mpr (sorted.imp fun below => ne_of_lt below)

theorem find?_of_nodup {row : α} {rows : List α} (keyed : (rows.map key).Nodup)
    (member : row ∈ rows) : find? key (key row) rows = some row := by
  induction rows with
  | nil => cases member
  | cons first rest ih =>
    obtain ⟨apart, tail⟩ := List.nodup_cons.mp keyed
    rw [find?_cons]
    rcases List.mem_cons.mp member with rfl | member
    · rw [if_pos rfl]
    · have other : key first ≠ key row := fun same => apart (same ▸ List.mem_map_of_mem member)
      rw [if_neg other, ih tail member]

theorem Sorted.find?_of_mem {row : α} {rows : List α} (sorted : Sorted key rows)
    (member : row ∈ rows) : find? key (key row) rows = some row :=
  find?_of_nodup key (sorted.nodup key) member

theorem insert_nodup {row : α} {rows : List α} (keyed : (rows.map key).Nodup)
    (fresh : find? key (key row) rows = none) : ((insert key row rows).map key).Nodup := by
  rw [((insert_perm key row rows).map key).nodup_iff, List.map_cons, List.nodup_cons]
  refine ⟨?_, keyed⟩
  intro member
  obtain ⟨other, inside, same⟩ := List.mem_map.mp member
  exact (find?_eq_none_iff key).mp fresh other inside same

/-- Two rows with different keys may be put in one after the other in either order. -/
theorem insert_comm {a b : α} (apart : key a ≠ key b) (rows : List α) :
    insert key a (insert key b rows) = insert key b (insert key a rows) := by
  induction rows with
  | nil =>
    rcases lt_or_gt_of_ne apart with less | greater
    · simp only [insert, less, not_lt_of_gt less, if_true, if_false]
    · simp only [insert, greater, not_lt_of_gt greater, if_true, if_false]
  | cons first rest ih =>
    by_cases beforeA : key a < key first
    · by_cases beforeB : key b < key first
      · rcases lt_or_gt_of_ne apart with less | greater
        · simp only [insert, beforeA, beforeB, less, not_lt_of_gt less, if_true, if_false]
        · simp only [insert, beforeA, beforeB, greater, not_lt_of_gt greater, if_true, if_false]
      · have less : ¬ key b < key a := fun less => beforeB (less.trans beforeA)
        simp only [insert, beforeA, beforeB, less, if_true, if_false]
    · by_cases beforeB : key b < key first
      · have less : ¬ key a < key b := fun less => beforeA (less.trans beforeB)
        simp only [insert, beforeA, beforeB, less, if_true, if_false]
      · simp only [insert, beforeA, beforeB, if_false, ih]

theorem find?_congr {rows others : List α} {wanted : String} (keyed : (others.map key).Nodup)
    (same : ∀ row, key row = wanted → (row ∈ rows ↔ row ∈ others)) :
    find? key wanted rows = find? key wanted others := by
  cases found : find? key wanted rows with
  | some row =>
    obtain ⟨member, rfl⟩ := mem_of_find? key found
    exact (find?_of_nodup key keyed ((same row rfl).mp member)).symm
  | none =>
    symm
    apply (find?_eq_none_iff key).mpr
    intro row member named
    exact (find?_eq_none_iff key).mp found row ((same row named).mpr member) named

theorem update_map_key (wanted : String) (change : α → α) (rows : List α)
    (same : ∀ row, key (change row) = key row) :
    (update key wanted change rows).map key = rows.map key := by
  rw [update, List.map_map]
  refine List.map_congr_left fun row _ => ?_
  simp only [Function.comp_apply]
  split
  · exact same row
  · rfl

theorem mem_of_mem_upTo {limit : Option Int} {rows : List α} {row : α}
    (member : row ∈ upTo limit rows) : row ∈ rows := by
  unfold upTo at member
  split at member
  · split at member
    · exact member
    · exact List.mem_of_mem_take member
  · exact member

end Reconcile.Table
