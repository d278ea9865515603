import Reconcile.Proofs.Engine.Declaring
import Reconcile.Proofs.Store.Clocks
import Reconcile.Proofs.Store.Sweeping
import Reconcile.Proofs.Table.Related
import Reconcile.Proofs.Traffic.Observed

set_option autoImplicit false

/-
Tables beside what was handed in for them. Whatever zone a clock was handed in with, its row shows
UTC, and the look-ups go by the instant that both stand for.
-/
namespace Reconcile

def Intent.Live (bucket : Bucket) (asOf : Timestamp) (intent : Intent) : Prop :=
  intent.bucket = bucket ∧ intent.status = .pending ∧ asOf.instant < intent.expires.instant

namespace Store

open Relation (ReflTransGen)

theorem live_iff {bucket : Bucket} {asOf : Timestamp} (intent : Intent) :
    awaits bucket asOf intent = true ↔ intent.Live bucket asOf := by
  rw [awaits, Bool.and_eq_true, Bool.and_eq_true, decide_eq_true_eq, decide_eq_true_eq,
    Intent.isPending_iff, Intent.Live, and_assoc]

/-- The tables come about by writes, and on the left stands each row as it was handed in. -/
inductive Filed : Store → Store → Prop
  | empty : Filed .empty .empty
  | observed {handed store after : Store} {deposit : Deposit} {now : Timestamp}
      (filed : Filed handed store) (done : store.insertObserved deposit now = .ok (some after)) :
      Filed { handed with
        observed := Table.insert (·.deposit.txHash) ⟨deposit, now⟩ handed.observed } after
  | declared {handed store after : Store} {intent : Intent} (filed : Filed handed store)
      (done : store.insertIntent intent = .ok after) :
      Filed { handed with intents := Table.insert Intent.id intent handed.intents } after
  | moved {handed store : Store} (filed : Filed handed store) (id : String) (status : Status) :
      Filed (handed.move id status).2 (store.move id status).2
  | recorded {handed store after : Store} {txHash : String} {decision : Decision}
      {now : Timestamp} {attribution : Attribution} (filed : Filed handed store)
      (done : store.commit txHash decision now = .ok (attribution, after)) :
      Filed { handed with
        attributions := Table.insert Attribution.txHash attribution handed.attributions } after
  | deleted {handed store : Store} (filed : Filed handed store) (id : String) :
      Filed (handed.deleteIntent id) (store.deleteIntent id)

theorem Filed.writes {handed store : Store} (filed : Filed handed store) :
    ReflTransGen Write .empty store := by
  induction filed with
  | empty => exact .refl
  | observed _ done ih => exact ih.tail (.observed done)
  | declared _ done ih => exact ih.tail (.declared done)
  | moved _ id status ih => exact ih.tail (.moved id status)
  | recorded _ done ih => exact ih.tail (.recorded done)
  | deleted _ id ih => exact ih.tail (.deleted id)

/-- Whatever is written was handed in. -/
theorem exists_filed {store : Store} (writes : ReflTransGen Write .empty store) :
    ∃ handed, Filed handed store := by
  induction writes with
  | refl => exact ⟨_, .empty⟩
  | tail _ write ih =>
    obtain ⟨handed, filed⟩ := ih
    cases write with
    | observed done => exact ⟨_, .observed filed done⟩
    | declared done => exact ⟨_, .declared filed done⟩
    | moved id status => exact ⟨_, .moved filed id status⟩
    | recorded done => exact ⟨_, .recorded filed done⟩
    | deleted id => exact ⟨_, .deleted filed id⟩

section Steps

variable {clock : Timestamp → Except Fault Timestamp} {handed store after : Store}

theorem insertIntent_passes {intent : Intent} (done : store.insertIntent intent = .ok after) :
    ∃ row, Intent.Passes Column.moment intent row ∧
      after = { store with intents := Table.insert Intent.id row store.intents } := by
  obtain ⟨row, made, -, same⟩ := insertIntent_eq_row done
  exact ⟨row, intentRow_passes made, same⟩

theorem commit_passes {txHash : String} {decision : Decision} {now : Timestamp}
    {attribution : Attribution}
    (done : store.commit txHash decision now = .ok (attribution, after)) :
    ∃ row, Attribution.Passes Column.moment attribution row ∧ after = { store with
      attributions := Table.insert Attribution.txHash row store.attributions } := by
  obtain ⟨-, -, -, row, made, same⟩ := commit_eq_ok done
  exact ⟨row, attributionRow_passes made, same⟩

theorem Passes.isPending (passes : handed.Passes clock store) (id : String) :
    handed.isPending id = store.isPending id := by
  have found := Table.find?_related (fun kept => kept.id) passes.intents id
  unfold Store.isPending intent?
  generalize Table.find? Intent.id id handed.intents = one at found ⊢
  generalize Table.find? Intent.id id store.intents = other at found ⊢
  cases found with
  | none => rfl
  | some kept => exact kept.isPending

theorem Passes.unattributed (passes : handed.Passes clock store) (txHash : String) :
    (handed.attribution? txHash).isNone = (store.attribution? txHash).isNone := by
  have found := Table.find?_related (fun kept => kept.txHash) passes.attributions txHash
  unfold attribution?
  generalize Table.find? Attribution.txHash txHash handed.attributions = one at found ⊢
  generalize Table.find? Attribution.txHash txHash store.attributions = other at found ⊢
  cases found <;> rfl

theorem Passes.move (passes : handed.Passes clock store) (id : String) (status : Status) :
    Passes clock (handed.move id status).2 (store.move id status).2 := by
  unfold Store.move
  rw [passes.isPending]
  split
  · exact ⟨Table.update_related (fun kept => kept.id) id (fun kept => kept.moved status)
      passes.intents, passes.observed, passes.attributions⟩
  · exact passes

theorem Passes.deleteIntent (passes : handed.Passes clock store) (id : String) :
    Passes clock (handed.deleteIntent id) (store.deleteIntent id) := by
  refine ⟨Table.filter_related passes.intents ?_, passes.observed, ?_⟩
  · intro intent row kept
    rw [kept.id]
  · exact List.forall₂_map_left_iff.mpr
      (List.forall₂_map_right_iff.mpr (passes.attributions.imp fun _ _ kept => kept.unlinked id))

end Steps

namespace Filed

variable {handed store : Store} (filed : Filed handed store)
include filed

/-- Each row is what the columns make of what was handed in for it. -/
theorem passes : handed.Passes Column.moment store := by
  induction filed with
  | empty => exact ⟨.nil, .nil, .nil⟩
  | observed _ done ih =>
    obtain ⟨-, row, kept, rfl⟩ := insertObserved_passes done
    exact ⟨ih.intents, Table.insert_related (fun kept => kept.txHash) kept ih.observed,
      ih.attributions⟩
  | declared _ done ih =>
    obtain ⟨row, kept, rfl⟩ := insertIntent_passes done
    exact ⟨Table.insert_related (fun kept => kept.id) kept ih.intents, ih.observed,
      ih.attributions⟩
  | moved _ id status ih => exact ih.move id status
  | recorded _ done ih =>
    obtain ⟨row, kept, rfl⟩ := commit_passes done
    exact ⟨ih.intents, ih.observed,
      Table.insert_related (fun kept => kept.txHash) kept ih.attributions⟩
  | deleted _ id ih => exact ih.deleteIntent id

theorem keyed : store.Keyed := by
  have observed : (store.observed.map (·.deposit.txHash)).Nodup := by
    induction filed with
    | empty => exact .nil
    | observed _ done ih =>
      obtain ⟨absent, row, same, rfl⟩ := insertObserved_eq_ok done
      refine Table.insert_nodup _ ih ?_
      rw [same]
      exact absent
    | declared _ done ih =>
      obtain ⟨-, row, -, -, rfl⟩ := insertIntent_eq_ok done
      exact ih
    | moved _ id status ih =>
      rw [move_observed]
      exact ih
    | recorded _ done ih =>
      obtain ⟨-, -, -, row, -, rfl⟩ := commit_eq_ok done
      exact ih
    | deleted _ id ih => exact ih
  have sound := empty_sound.writes filed.writes
  exact ⟨sound.intents.nodup, observed, sound.attributions.nodup⟩

/-- What was handed in for two rows of a table has different keys too. -/
theorem handed_keyed : handed.Keyed := by
  have passes := filed.passes
  have keyed := filed.keyed
  refine ⟨?_, ?_, ?_⟩
  · rw [Table.map_key_related (fun kept => kept.id) passes.intents]
    exact keyed.intents
  · rw [Table.map_key_related (fun kept => kept.txHash) passes.observed]
    exact keyed.observed
  · rw [Table.map_key_related (fun kept => kept.txHash) passes.attributions]
    exact keyed.attributions

end Filed

/-- The intents that expect deposits of a bucket, by their declaration and then by their id. -/
abbrev LiveQueue (store : Store) (bucket : Bucket) (asOf : Timestamp) (queue : List Intent) :
    Prop :=
  Table.Queue Intent.created Intent.id (Intent.Live bucket asOf) store.intents queue

/-- The look-ups list what waits by the instants of the clocks that were handed in, for every clock
that is on the calendar in UTC. -/
structure GoesByInstants (handed store : Store) : Prop where
  candidates {bucket : Bucket} {asOf : Timestamp} (zoned : asOf.isNaive = false)
    (inside : Timestamp.onCalendar asOf.instant = true)
    (chain : Column.word bucket.chain = .ok bucket.chain) :
    ∃ live found, handed.LiveQueue bucket asOf live ∧
      live.mapM (Intent.through Column.moment) = .ok found ∧
      store.candidates bucket asOf = .ok found
  due {now : Timestamp} {limit : Int} (zoned : now.isNaive = false)
    (inside : Timestamp.onCalendar now.instant = true) (fits : Column.word limit = .ok limit) :
    ∃ late, handed.LateQueue now late ∧
      store.due now limit = .ok ((Table.upTo (some limit) late).map (·.id))
  stale {rule : SweepRule} {grace : Duration} {now cutoff : Timestamp}
    (length : rule.grace = .ok grace) (back : now.shift? (-grace.micros) = .ok cutoff)
    (zoned : cutoff.isNaive = false) (inside : Timestamp.onCalendar cutoff.instant = true)
    (fits : Column.word rule.batch = .ok rule.batch) :
    ∃ stale found, handed.StaleQueue rule now stale ∧
      (Table.upTo (some rule.batch) stale).mapM (Observed.through Column.moment) = .ok found ∧
      store.stale rule now = .ok (found.map (·.deposit))

namespace Passes

variable {handed store : Store} (passes : handed.Passes Column.moment store)
include passes

theorem goesByInstants (keyed : handed.Keyed) : GoesByInstants handed store where
  candidates := by
    intro bucket asOf zoned inside chain
    have alike : ∀ {intent row : Intent}, intent.Passes Column.moment row →
        awaits bucket asOf intent = awaits bucket (.utc asOf.instant) row := by
      intro intent row kept
      rw [awaits, awaits, kept.bucket, kept.isPending, Column.instant_utc,
        Column.moment_instant kept.expires]
    have rows := Table.byTime_related (Table.filter_related passes.intents alike)
      (fun kept => (Column.moment_instant kept.created).symm) fun kept => kept.id
    refine ⟨_, _, (Table.byTime_queue keyed.intents).congr live_iff,
      mapM_eq_ok.mpr (rows.imp fun _ _ => Intent.through_eq_ok.mpr), ?_⟩
    refine bind_eq_ok.mpr ⟨_, Column.moment_of_onCalendar zoned inside, ?_⟩
    exact bind_eq_ok.mpr ⟨_, chain, rfl⟩
  due := by
    intro now limit zoned inside fits
    have alike : ∀ {intent row : Intent}, intent.Passes Column.moment row →
        isDue now intent = isDue (.utc now.instant) row := by
      intro intent row kept
      rw [isDue, isDue, kept.isPending, Column.instant_utc, Column.moment_instant kept.expires]
    have rows := Table.byTime_related (Table.filter_related passes.intents alike)
      (fun kept => (Column.moment_instant kept.expires).symm) fun kept => kept.id
    refine ⟨_, (Table.byTime_queue keyed.intents).congr isDue_iff, ?_⟩
    rw [Table.map_key_related (fun kept => kept.id) (Table.upTo_related (some limit) rows)]
    refine bind_eq_ok.mpr ⟨_, Column.moment_of_onCalendar zoned inside, ?_⟩
    exact bind_eq_ok.mpr ⟨_, fits, rfl⟩
  stale := by
    intro rule grace now cutoff length back zoned inside fits
    have utc := Column.moment_of_onCalendar zoned inside
    have cut := cutoff_eq length back utc
    rw [Column.instant_utc] at cut
    have alike : ∀ {seen row : Observed}, seen.Passes Column.moment row →
        handed.isStale cutoff seen = store.isStale (.utc cutoff.instant) row := by
      intro seen row kept
      rw [isStale, isStale, passes.unattributed, kept.txHash, Column.instant_utc,
        Column.moment_instant kept.observed]
    have rows := Table.byTime_related (Table.filter_related passes.observed alike)
      (fun kept => (Column.moment_instant kept.observed).symm) fun kept => kept.txHash
    refine ⟨_, _, (Table.byTime_queue keyed.observed).congr (isStale_iff cut),
      mapM_eq_ok.mpr ((Table.upTo_related _ rows).imp fun _ _ => Observed.through_eq_ok.mpr), ?_⟩
    refine bind_eq_ok.mpr ⟨_, liftClock_eq_ok.mpr length, ?_⟩
    refine bind_eq_ok.mpr ⟨_, liftClock_eq_ok.mpr back, ?_⟩
    refine bind_eq_ok.mpr ⟨_, utc, ?_⟩
    exact bind_eq_ok.mpr ⟨_, fits, rfl⟩

end Passes

end Store

end Reconcile
