import Reconcile.Proofs.Store.Agreement
import Reconcile.Proofs.Store.Reached
import Reconcile.Proofs.Traffic.Alone

set_option autoImplicit false

/-
Tables that hold the same rows in any order. Every look-up goes by a key or sorts what it finds, so
the order of the rows shows nowhere. Tables that operations have led to stand in the order of their
keys; if they hold the same rows they are the same.
-/
namespace Reconcile

theorem Table.Sorted.eq_of_perm {α : Type} {key : α → String} {rows others : List α}
    (sorted : Table.Sorted key rows) (also : Table.Sorted key others) (perm : rows.Perm others) :
    rows = others :=
  perm.eq_of_pairwise (fun _ _ _ _ less greater => absurd greater (lt_asymm less)) sorted also

theorem Table.insert_congr_perm {α : Type} (key : α → String) (row : α) {rows others : List α}
    (perm : rows.Perm others) :
    (Table.insert key row rows).Perm (Table.insert key row others) :=
  (Table.insert_perm key row rows).trans
    ((perm.cons row).trans (Table.insert_perm key row others).symm)

namespace Store

/-- Observed deposits stand in the order of their hashes. -/
theorem Reached.observed_sorted {store : Store} (reached : store.Reached) :
    Table.Sorted (fun row : Observed => row.deposit.txHash) store.observed := by
  induction reached with
  | refl => exact .nil
  | tail _ change ih =>
    cases change with
    | observed done =>
      obtain ⟨new, row, hash, rfl⟩ := insertObserved_eq_ok done
      refine Table.insert_sorted _ ih ?_
      rw [hash]
      exact (Table.find?_eq_none_iff _).mp new
    | declared pending done =>
      obtain ⟨-, row, -, -, rfl⟩ := insertIntent_eq_ok done
      exact ih
    | moved id other => rwa [move_observed]
    | recorded claims done =>
      obtain ⟨-, -, -, row, -, rfl⟩ := commit_eq_ok done
      rwa [claims.observed]

theorem Keyed.expireAll {store : Store} (keyed : store.Keyed) (ids : List String) :
    (store.expireAll ids).2.Keyed :=
  keyed.changes (expireAll_moves (fun _ id => .moved id (by decide)) store ids)

/-- The tables hold the same rows, be it in another order. -/
structure SameRows (store other : Store) : Prop where
  intents : store.intents.Perm other.intents
  observed : store.observed.Perm other.observed
  attributions : store.attributions.Perm other.attributions

namespace SameRows

variable {store other : Store}

theorem keyed (same : SameRows store other) (keyed : store.Keyed) : other.Keyed :=
  ⟨(same.intents.map _).nodup_iff.mp keyed.intents,
    (same.observed.map _).nodup_iff.mp keyed.observed,
    (same.attributions.map _).nodup_iff.mp keyed.attributions⟩

theorem eq (same : SameRows store other) (reached : store.Reached) (also : other.Reached) :
    store = other := by
  have intents := reached.sound.intents.eq_of_perm also.sound.intents same.intents
  have observed := reached.observed_sorted.eq_of_perm also.observed_sorted same.observed
  have attributions :=
    reached.sound.attributions.eq_of_perm also.sound.attributions same.attributions
  cases store
  cases other
  simp_all

theorem agreeOn (same : SameRows store other) (concerned : Intent → Prop) (txHash : String) :
    AgreeOn concerned txHash store other :=
  ⟨fun _ _ => same.intents.mem_iff, fun _ _ => same.observed.mem_iff,
    fun _ _ => same.attributions.mem_iff, fun _ _ _ _ _ => same.attributions.mem_iff⟩

theorem enter (same : SameRows store other) (entry : Entry) :
    SameRows (store.enter entry) (other.enter entry) := by
  cases entry with
  | observed row => exact ⟨same.intents, Table.insert_congr_perm _ row same.observed,
      same.attributions⟩
  | matched id => exact ⟨same.intents.map _, same.observed, same.attributions⟩
  | recorded row => exact ⟨same.intents, same.observed,
      Table.insert_congr_perm _ row same.attributions⟩

theorem enterAll (same : SameRows store other) (entries : List Entry) :
    SameRows (store.enterAll entries) (other.enterAll entries) := by
  induction entries generalizing store other with
  | nil => exact same
  | cons entry rest ih => exact ih (same.enter entry)

section Reading

variable (same : SameRows store other) (keyed : store.Keyed)
include same keyed

theorem intent? (id : String) : store.intent? id = other.intent? id :=
  Table.find?_congr Intent.id (same.keyed keyed).intents fun _ _ => same.intents.mem_iff

theorem attribution? (txHash : String) : store.attribution? txHash = other.attribution? txHash :=
  Table.find?_congr Attribution.txHash (same.keyed keyed).attributions
    fun _ _ => same.attributions.mem_iff

theorem due (now : Timestamp) (limit : Int) : store.due now limit = other.due now limit := by
  unfold Store.due
  cases Column.moment now with
  | error fault => rfl
  | ok now =>
    have rows : Table.byTime Intent.expires Intent.id (store.intents.filter (isDue now)) =
        Table.byTime Intent.expires Intent.id (other.intents.filter (isDue now)) :=
      Table.byTime_filter_congr keyed.intents (same.keyed keyed).intents
        fun _ _ => same.intents.mem_iff
    simp only [bind_of_ok rfl, rows]

theorem stale (rule : SweepRule) (now : Timestamp) :
    store.stale rule now = other.stale rule now := by
  have alike : store.isStale = other.isStale := by
    funext cutoff row
    rw [isStale, isStale, same.attribution? keyed]
  have rows (cutoff : Timestamp) :
      Table.byTime Observed.observed (·.deposit.txHash)
          (store.observed.filter (other.isStale cutoff)) =
        Table.byTime Observed.observed (·.deposit.txHash)
          (other.observed.filter (other.isStale cutoff)) :=
    Table.byTime_filter_congr keyed.observed (same.keyed keyed).observed
      fun _ _ => same.observed.mem_iff
  unfold Store.stale
  simp only [alike, rows]

end Reading

section Writing

variable (same : SameRows store other) (keyed : store.Keyed)
include same keyed

theorem move (id : String) (status : Status) :
    (store.move id status).1 = (other.move id status).1 ∧
      SameRows (store.move id status).2 (other.move id status).2 := by
  have pending : store.isPending id = other.isPending id := by
    rw [isPending, isPending, same.intent? keyed]
  unfold Store.move
  rw [pending]
  split
  · exact ⟨rfl, same.intents.map _, same.observed, same.attributions⟩
  · exact ⟨rfl, same⟩

theorem expireAll (ids : List String) :
    (store.expireAll ids).1 = (other.expireAll ids).1 ∧
      SameRows (store.expireAll ids).2 (other.expireAll ids).2 := by
  induction ids generalizing store other with
  | nil => exact ⟨rfl, same⟩
  | cons id rest ih =>
    obtain ⟨moved, left⟩ := same.move keyed id .expired
    obtain ⟨others, last⟩ := ih left (keyed.move id .expired)
    refine ⟨?_, last⟩
    simp only [Store.expireAll, moved, others]

theorem expireDue (now : Timestamp) (limit : Int) :
    (∃ fault, store.expireDue now limit = .error fault ∧
      other.expireDue now limit = .error fault) ∨
    ∃ expired after left, store.expireDue now limit = .ok (expired, after) ∧
      other.expireDue now limit = .ok (expired, left) ∧ after.Keyed ∧ SameRows after left := by
  unfold Store.expireDue
  rw [same.due keyed]
  cases other.due now limit with
  | error fault => exact Or.inl ⟨fault, rfl, rfl⟩
  | ok ids =>
    obtain ⟨expired, left⟩ := same.expireAll keyed ids
    refine Or.inr ⟨_, _, _, rfl, ?_, keyed.expireAll ids, left⟩
    rw [expired]
    rfl

/-- A deposit is credited to nobody on both, or fails to be for the same reason. -/
theorem markUnattributed (deposit : Deposit) (now : Timestamp) :
    (∃ fault, store.markUnattributed deposit now = .error fault ∧
      other.markUnattributed deposit now = .error fault) ∨
    ∃ told after left, store.markUnattributed deposit now = .ok (told, after) ∧
      other.markUnattributed deposit now = .ok (told, left) ∧ SameRows after left := by
  have permits : store.permits deposit.txHash (.unattributed deposit) =
      other.permits deposit.txHash (.unattributed deposit) := by
    unfold permits
    rw [same.attribution? keyed]
    rfl
  rcases commit_congr permits now rfl with failed | ⟨row, -, -, here, there⟩
  · exact Or.inl failed
  · exact Or.inr ⟨_, _, _, here, there, same.enter (.recorded row)⟩

theorem markAll (now : Timestamp) (deposits : List Deposit) :
    (markAll now [] store deposits).flagged = (markAll now [] other deposits).flagged ∧
      SameRows (Reconcile.markAll now [] store deposits).store
        (Reconcile.markAll now [] other deposits).store := by
  induction deposits generalizing store other with
  | nil => exact ⟨rfl, same⟩
  | cons deposit rest ih =>
    rcases same.markUnattributed keyed deposit now with
      ⟨fault, here, there⟩ | ⟨told, after, left, here, there, still⟩
    · by_cases late : ∃ txHash, fault = .duplicateAttribution txHash
      · obtain ⟨txHash, rfl⟩ := late
        obtain ⟨store_eq, flagged⟩ := Traffic.markAll_duplicate rest here
        obtain ⟨other_eq, alike⟩ := Traffic.markAll_duplicate rest there
        rw [store_eq, flagged, other_eq, alike]
        exact ih same keyed
      · have others : ∀ txHash, fault ≠ .duplicateAttribution txHash :=
          fun txHash same => late ⟨txHash, same⟩
        obtain ⟨store_eq, flagged⟩ := Traffic.markAll_error rest here others
        obtain ⟨other_eq, alike⟩ := Traffic.markAll_error rest there others
        rw [store_eq, flagged, other_eq, alike]
        exact ⟨rfl, same⟩
    · obtain ⟨store_eq, flagged⟩ := Traffic.markAll_ok rest here
      obtain ⟨other_eq, alike⟩ := Traffic.markAll_ok rest there
      have kept : after.Keyed := keyed.change (.recorded (claims_unattributed store deposit) here)
      obtain ⟨more, last⟩ := ih still kept
      rw [store_eq, flagged, other_eq, alike, more]
      exact ⟨rfl, last⟩

end Writing

end SameRows

end Store

end Reconcile
