import Mathlib.Data.List.Sort
import Reconcile.Proofs.Table

set_option autoImplicit false

/-
Rows that wait, in the order of their times and, at one time, of their keys. There is only one
such order, so whatever lists the waiting rows in it is what the table's own sorting gives. Once
the first of them are served, the rest is the queue.
-/
namespace Reconcile.Table

variable {α : Type} (time : α → Timestamp) (key : α → String)

/-- One row comes before another: its time is earlier, or the same and its key is less. -/
def Before (a b : α) : Prop :=
  (time a).instant < (time b).instant ∨
    (time a).instant = (time b).instant ∧ key a < key b

instance (a b : α) : Decidable (Before time key a b) := inferInstanceAs (Decidable (_ ∨ _))

theorem Before.irrefl (a : α) : ¬ Before time key a a := by
  rintro (earlier | ⟨-, less⟩)
  · exact lt_irrefl _ earlier
  · exact lt_irrefl _ less

theorem Before.asymm {a b : α} (first : Before time key a b) : ¬ Before time key b a := by
  intro second
  rcases first with earlier | ⟨same, less⟩ <;> rcases second with later | ⟨again, greater⟩
  · exact lt_asymm earlier later
  · exact absurd again.symm (ne_of_lt earlier)
  · exact absurd same.symm (ne_of_lt later)
  · exact lt_asymm less greater

theorem Before.trans {a b c : α} (first : Before time key a b) (second : Before time key b c) :
    Before time key a c := by
  rcases first with earlier | ⟨same, less⟩ <;> rcases second with later | ⟨again, lesser⟩
  · exact Or.inl (lt_trans earlier later)
  · exact Or.inl (again ▸ earlier)
  · exact Or.inl (same ▸ later)
  · exact Or.inr ⟨same.trans again, lt_trans less lesser⟩

/-- Two rows of which neither comes before the other have one time and one key. -/
theorem eq_of_not_before {a b : α} (first : ¬ Before time key a b)
    (second : ¬ Before time key b a) :
    (time a).instant = (time b).instant ∧ key a = key b := by
  rcases lt_trichotomy (time a).instant (time b).instant with earlier | same | later
  · exact absurd (Or.inl earlier) first
  · refine ⟨same, ?_⟩
    rcases lt_trichotomy (key a) (key b) with less | equal | greater
    · exact absurd (Or.inr ⟨same, less⟩) first
    · exact equal
    · exact absurd (Or.inr ⟨same.symm, greater⟩) second
  · exact absurd (Or.inl later) second

theorem Before.of_not {a b c : α} (first : Before time key a b) (other : ¬ Before time key c b) :
    Before time key a c := by
  by_cases after : Before time key b c
  · exact first.trans time key after
  · obtain ⟨same, equal⟩ := eq_of_not_before time key other after
    rwa [Before, same, equal]

/-- The rows of a table that wait, each once, in the order in which they are served. -/
structure Queue (waits : α → Prop) (rows queue : List α) : Prop where
  mem_iff : ∀ row, row ∈ queue ↔ row ∈ rows ∧ waits row
  ordered : queue.Pairwise (Before time key)

section Sorting

variable {time key}

theorem nodup_of_before {queue : List α} (ordered : queue.Pairwise (Before time key)) :
    queue.Nodup := by
  refine ordered.imp ?_
  rintro a b before rfl
  exact Before.irrefl time key a before

theorem eq_of_before {first second : List α} (ordered : first.Pairwise (Before time key))
    (again : second.Pairwise (Before time key)) (same : ∀ row, row ∈ first ↔ row ∈ second) :
    first = second := by
  have perm : first.Perm second :=
    (List.perm_ext_iff_of_nodup (nodup_of_before ordered) (nodup_of_before again)).mpr same
  refine perm.eq_of_pairwise ?_ ordered again
  intro a b _ _ before after
  exact absurd after (before.asymm time key)

theorem Queue.unique {waits : α → Prop} {rows first second : List α}
    (queue : Queue time key waits rows first) (other : Queue time key waits rows second) :
    first = second :=
  eq_of_before queue.ordered other.ordered fun row => by rw [queue.mem_iff, other.mem_iff]

/-- What the sorting of a table compares. -/
theorem precedes_iff (first second : Int) (less : Bool) :
    (match compare first second with
      | .lt => true
      | .eq => less
      | .gt => false) = true ↔ first < second ∨ first = second ∧ less = true := by
  rcases lt_trichotomy first second with lower | same | higher
  · simp [compare_lt_iff_lt.mpr lower, lower]
  · simp [same]
  · simp [compare_gt_iff_gt.mpr higher, lt_asymm higher, (ne_of_lt higher).symm]

/-- Sorting leaves the rows in the order of times and keys, as no two have the same key. -/
theorem byTime_ordered {rows : List α} (keyed : (rows.map key).Nodup) :
    (byTime time key rows).Pairwise (Before time key) := by
  have apart : (byTime time key rows).Pairwise fun a b => key a ≠ key b :=
    List.pairwise_map.mp (((List.mergeSort_perm rows _).map key).nodup_iff.mpr keyed)
  have sorted := @List.pairwise_mergeSort α
    (fun a b =>
      match compare (time a).instant (time b).instant with
      | .lt => true
      | .eq => key a ≤ key b
      | .gt => false) ?_ ?_ rows
  · refine (sorted.and apart).imp ?_
    rintro a b ⟨notAfter, different⟩
    rw [precedes_iff, decide_eq_true_eq] at notAfter
    rcases notAfter with earlier | ⟨same, less⟩
    · exact Or.inl earlier
    · exact Or.inr ⟨same, lt_of_le_of_ne less different⟩
  · intro a b c first second
    rw [precedes_iff, decide_eq_true_eq] at first second ⊢
    rcases first with earlier | ⟨same, less⟩ <;> rcases second with later | ⟨again, lesser⟩
    · exact Or.inl (lt_trans earlier later)
    · exact Or.inl (again ▸ earlier)
    · exact Or.inl (same ▸ later)
    · exact Or.inr ⟨same.trans again, le_trans less lesser⟩
  · intro a b
    rw [Bool.or_eq_true, precedes_iff, precedes_iff, decide_eq_true_eq, decide_eq_true_eq]
    rcases lt_trichotomy (time a).instant (time b).instant with earlier | same | later
    · exact Or.inl (Or.inl earlier)
    · rcases le_total (key a) (key b) with less | greater
      · exact Or.inl (Or.inr ⟨same, less⟩)
      · exact Or.inr (Or.inr ⟨same.symm, greater⟩)
    · exact Or.inr (Or.inl later)

/-- The table's own sorting gives the queue. -/
theorem byTime_queue {waits : α → Bool} {rows : List α} (keyed : (rows.map key).Nodup) :
    Queue time key (waits · = true) rows (byTime time key (rows.filter waits)) := by
  refine ⟨?_, byTime_ordered ((List.filter_sublist.map key).nodup keyed)⟩
  intro row
  rw [byTime, List.mem_mergeSort, List.mem_filter]

/-- Tables in which the same rows wait list them in the same order. -/
theorem byTime_filter_congr {waits : α → Bool} {rows others : List α}
    (keyed : (rows.map key).Nodup) (also : (others.map key).Nodup)
    (same : ∀ row, waits row = true → (row ∈ rows ↔ row ∈ others)) :
    byTime time key (rows.filter waits) = byTime time key (others.filter waits) := by
  have first : Queue time key (waits · = true) rows _ := byTime_queue keyed
  have second : Queue time key (waits · = true) others _ := byTime_queue also
  apply eq_of_before first.ordered second.ordered
  intro row
  rw [first.mem_iff, second.mem_iff]
  constructor
  · rintro ⟨member, awaited⟩
    exact ⟨(same row awaited).mp member, awaited⟩
  · rintro ⟨member, awaited⟩
    exact ⟨(same row awaited).mpr member, awaited⟩

theorem Queue.congr {waits still : α → Prop} {rows queue : List α}
    (waiting : Queue time key waits rows queue) (same : ∀ row, waits row ↔ still row) :
    Queue time key still rows queue :=
  ⟨fun row => by rw [waiting.mem_iff, same], waiting.ordered⟩

end Sorting

section Serving

variable {time key}

/-- A limit that is not negative takes the first rows; a negative one takes all. -/
theorem upTo_ofNat (n : Nat) (rows : List α) : upTo (some (n : Int)) rows = rows.take n := by
  have notNegative : ¬ (n : Int) < 0 := by omega
  simp only [upTo, if_neg notNegative, Int.toNat_natCast]

theorem upTo_sublist (limit : Option Int) (rows : List α) : (upTo limit rows).Sublist rows := by
  unfold upTo
  split
  · split
    · exact .refl rows
    · exact List.take_sublist _ rows
  · exact .refl rows

theorem Queue.nodup {waits : α → Prop} {rows queue : List α}
    (waiting : Queue time key waits rows queue) : queue.Nodup :=
  nodup_of_before waiting.ordered

theorem Queue.nodup_map {waits : α → Prop} {rows queue : List α}
    (waiting : Queue time key waits rows queue) (keyed : (rows.map key).Nodup) :
    (queue.map key).Nodup := by
  refine List.Nodup.map_on ?_ waiting.nodup
  intro a first b second same
  exact List.inj_on_of_nodup_map keyed ((waiting.mem_iff a).mp first).1
    ((waiting.mem_iff b).mp second).1 same

/-- A row is among the rest exactly if it waits and is not among the first. -/
theorem Queue.mem_drop {waits : α → Prop} {rows queue : List α}
    (waiting : Queue time key waits rows queue) (n : Nat) (row : α) :
    row ∈ queue.drop n ↔ (row ∈ rows ∧ waits row) ∧ row ∉ queue.take n := by
  have whole := waiting.nodup
  rw [← List.take_append_drop n queue, List.nodup_append] at whole
  have split : row ∈ queue ↔ row ∈ queue.take n ∨ row ∈ queue.drop n := by
    rw [← List.mem_append, List.take_append_drop]
  rw [← waiting.mem_iff, split]
  constructor
  · intro later
    exact ⟨Or.inr later, fun first => whole.2.2 row first row later rfl⟩
  · rintro ⟨first | later, apart⟩
    · exact absurd first apart
    · exact later

/-- When the first rows no longer wait and all others do as before, the rest is the queue. -/
theorem Queue.drop {waits still : α → Prop} {rows others queue : List α}
    (waiting : Queue time key waits rows queue) (n : Nat)
    (served : ∀ row, row ∈ others ∧ still row ↔ (row ∈ rows ∧ waits row) ∧ row ∉ queue.take n) :
    Queue time key still others (queue.drop n) :=
  ⟨fun row => (waiting.mem_drop n row).trans (served row).symm,
    waiting.ordered.sublist (List.drop_sublist n queue)⟩

end Serving

end Reconcile.Table
