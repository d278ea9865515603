import Mathlib.Algebra.BigOperators.Group.List.Lemmas
import Mathlib.Algebra.GroupWithZero.Nat
import Mathlib.Data.List.Dedup
import Reconcile.Counters

set_option autoImplicit false

/-
What is read off the counters. Each label is shown once, and the values that are shown add up to the
number of events.
-/
namespace Reconcile

theorem nodup_eraseDups (labels : List Label) : labels.eraseDups.Nodup := by
  cases labels with
  | nil => exact List.nodup_nil
  | cons label rest =>
    rw [List.eraseDups_cons, List.nodup_cons]
    refine ⟨?_, nodup_eraseDups (rest.filter fun other => !other == label)⟩
    simp
termination_by labels.length
decreasing_by exact Nat.lt_succ_of_le (List.length_filter_le _ _)

namespace Counters

/-- The values of a counter add up to the number of its events. -/
theorem sum_tallies (labels : List Label) :
    ((tallies labels).map (·.count)).sum = labels.length := by
  have once : labels.eraseDups.Perm labels.dedup := by
    apply (List.perm_ext_iff_of_nodup (nodup_eraseDups labels) labels.nodup_dedup).mpr
    intro label
    rw [List.mem_eraseDups, List.mem_dedup]
  have sorted : (tallies labels).Perm (labels.dedup.map fun label => ⟨label, labels.count label⟩) :=
    (List.mergeSort_perm _ _).trans (once.map _)
  rw [(sorted.map _).sum_eq, List.map_map]
  exact List.sum_map_count_dedup_eq_length labels

end Counters

end Reconcile
