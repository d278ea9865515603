import Mathlib.Data.List.Pairwise
import Mathlib.Logic.Relation
import Reconcile.Engine.Transaction
import Reconcile.Proofs.Store.Writes

set_option autoImplicit false

/-
Links between attributions and intents. However writes are grouped into transactions, a
transaction has at most one attribution, an intent is linked by at most one, and a linked intent
is matched.
-/
namespace Reconcile.Store

open Relation (ReflTransGen)

inductive Write (store : Store) : Store → Prop
  | observed {deposit : Deposit} {now : Timestamp} {after : Store}
      (done : store.insertObserved deposit now = .ok (some after)) : Write store after
  | declared {intent : Intent} {after : Store}
      (done : store.insertIntent intent = .ok after) : Write store after
  | moved (id : String) (status : Status) : Write store (store.move id status).2
  | recorded {txHash : String} {decision : Decision} {now : Timestamp}
      {attribution : Attribution} {after : Store}
      (done : store.commit txHash decision now = .ok (attribution, after)) : Write store after
  | deleted (id : String) : Write store (store.deleteIntent id)

/-- What every write keeps. A linked intent has left pending, so that nothing moves it again. -/
structure Sound (store : Store) : Prop where
  intents : Table.Sorted Intent.id store.intents
  attributions : Table.Sorted Attribution.txHash store.attributions
  links : (store.attributions.filterMap (·.intent)).Nodup
  matched : ∀ row ∈ store.attributions, ∀ id, row.intent = some id →
    ∃ intent, store.intent? id = some intent ∧ intent.status = .matched

theorem empty_sound : Sound empty :=
  ⟨.nil, .nil, .nil, fun _ member => absurd member List.not_mem_nil⟩

/-- The new row links an intent that is matched and that no other row links. -/
theorem Sound.commit {store after : Store} {txHash : String} {decision : Decision}
    {now : Timestamp} {attribution : Attribution} (sound : Sound store)
    (done : store.commit txHash decision now = .ok (attribution, after)) : Sound after := by
  obtain ⟨permitted, rfl, free, row, made, rfl⟩ := commit_eq_ok done
  obtain ⟨absent, taken⟩ := permits_eq_ok permitted
  obtain ⟨sameHash, sameIntent, -, -, -⟩ := attributionRow_eq_ok made
  refine ⟨sound.intents, ?_, ?_, ?_⟩
  · apply Table.insert_sorted Attribution.txHash sound.attributions
    rw [sameHash]
    exact (Table.find?_eq_none_iff _).mp absent
  · rw [((Table.insert_perm _ _ _).filterMap _).nodup_iff]
    cases linked : row.intent with
    | none => simpa [linked] using sound.links
    | some id =>
      rw [List.filterMap_cons_some linked, List.nodup_cons]
      refine ⟨?_, sound.links⟩
      intro member
      obtain ⟨other, inside, same⟩ := List.mem_filterMap.mp member
      exact linkTaken_eq_false free (sameIntent.symm.trans linked) other inside same
  · intro other member id linked
    rcases (Table.mem_insert Attribution.txHash).mp member with rfl | member
    · exact taken id (sameIntent.symm.trans linked)
    · exact sound.matched other member id linked

theorem matched_intent?_move {store : Store} {id : String} {intent : Intent} (other : String)
    (status : Status) (found : store.intent? id = some intent)
    (matched : intent.status = .matched) :
    (store.move other status).2.intent? id = some intent := by
  simp [intent?_move, found, Intent.isPending, matched]

theorem Sound.move {store : Store} (sound : Sound store) (id : String) (status : Status) :
    Sound (store.move id status).2 := by
  refine ⟨move_sorted id status sound.intents, ?_, ?_, ?_⟩
  · simpa using sound.attributions
  · simpa using sound.links
  · intro row member linked same
    rw [move_attributions] at member
    obtain ⟨intent, found, matched⟩ := sound.matched row member linked same
    exact ⟨intent, matched_intent?_move id status found matched, matched⟩

theorem Sound.insertIntent {store after : Store} {intent : Intent} (sound : Sound store)
    (done : store.insertIntent intent = .ok after) : Sound after := by
  obtain ⟨absent, row, sameId, -, rfl⟩ := insertIntent_eq_ok done
  have fresh : ∀ other ∈ store.intents, other.id ≠ row.id := by
    rw [sameId]
    exact (Table.find?_eq_none_iff _).mp absent
  refine ⟨Table.insert_sorted Intent.id sound.intents fresh, sound.attributions, sound.links, ?_⟩
  intro other member id linked
  obtain ⟨found, present, matched⟩ := sound.matched other member id linked
  have apart : row.id ≠ id := by
    rintro rfl
    rw [sameId, absent] at present
    cases present
  refine ⟨found, ?_, matched⟩
  rw [intent?, Table.find?_insert Intent.id id fresh, if_neg apart]
  exact present

/-- Attributions that linked the deleted intent link none, so no link is left without its
intent. -/
theorem Sound.deleteIntent {store : Store} (sound : Sound store) (id : String) :
    Sound (store.deleteIntent id) := by
  refine ⟨sound.intents.filter _, ?_, ?_, ?_⟩
  · refine List.pairwise_map.mpr (sound.attributions.imp ?_)
    intro a b below
    have kept : ∀ row : Attribution,
        (if row.intent = some id then { row with intent := none } else row).txHash =
          row.txHash := by
      intro row
      split <;> rfl
    rwa [kept a, kept b]
  · rw [Store.deleteIntent, List.filterMap_map]
    refine List.pairwise_filterMap.mpr ((List.pairwise_filterMap.mp sound.links).imp ?_)
    intro a b apart linkA linkedA linkB linkedB
    have kept : ∀ (row : Attribution) (link : String),
        (if row.intent = some id then { row with intent := none } else row).intent = some link →
        row.intent = some link := by
      intro row link
      split <;> simp
    exact apart linkA (kept a linkA linkedA) linkB (kept b linkB linkedB)
  · intro row member other linked
    obtain ⟨old, inside, rfl⟩ := List.mem_map.mp member
    split at linked
    · cases linked
    · rename_i kept
      have apart : other ≠ id := by
        rintro rfl
        exact kept linked
      obtain ⟨intent, found, matched⟩ := sound.matched old inside other linked
      exact ⟨intent, by rw [intent?_deleteIntent, if_neg apart, found], matched⟩

theorem Sound.write {store after : Store} (sound : Sound store) (write : Write store after) :
    Sound after := by
  cases write with
  | observed done =>
    obtain ⟨-, row, -, rfl⟩ := insertObserved_eq_ok done
    exact ⟨sound.intents, sound.attributions, sound.links, sound.matched⟩
  | declared done => exact sound.insertIntent done
  | moved id status => exact sound.move id status
  | recorded done => exact sound.commit done
  | deleted id => exact sound.deleteIntent id

theorem Sound.writes {store after : Store} (sound : Sound store)
    (writes : ReflTransGen Write store after) : Sound after := by
  induction writes with
  | refl => exact sound
  | tail _ write ih => exact ih.write write

theorem expireAll_moves {R : Store → Store → Prop}
    (expires : ∀ store id, R store (store.move id .expired).2) (store : Store)
    (ids : List String) : ReflTransGen R store (store.expireAll ids).2 := by
  induction ids generalizing store with
  | nil => exact .refl
  | cons id rest ih => exact .head (expires store id) (ih (store.move id .expired).2)

theorem expireDue_eq_ok {store after : Store} {now : Timestamp} {limit : Int}
    {expired : List String} (done : store.expireDue now limit = .ok (expired, after)) :
    ∃ due, after = (store.expireAll due).2 := by
  obtain ⟨due, -, moved⟩ := bind_eq_ok.mp done
  exact ⟨due, (congrArg Prod.snd (Except.ok.inj moved)).symm⟩

theorem run_writes {rule : SweepRule} {store : Store} {call : Call} {step : Step}
    (done : call.run rule store = .ok step) : ReflTransGen Write store step.store := by
  cases call with
  | declare intent =>
    obtain ⟨⟨declared, after⟩, added, done⟩ := bind_eq_ok.mp done
    obtain ⟨-, -, added⟩ := bind_eq_ok.mp added
    obtain ⟨after, added, same⟩ := bind_eq_ok.mp added
    cases same
    cases done
    exact .single (.declared added)
  | claim id =>
    cases done
    exact .single (.moved id .matched)
  | expire id =>
    cases done
    exact .single (.moved id .expired)
  | orphan id =>
    cases done
    exact .single (.moved id .orphan)
  | commit txHash decision now =>
    obtain ⟨⟨attribution, after⟩, added, done⟩ := bind_eq_ok.mp done
    cases done
    exact .single (.recorded added)
  | markUnattributed deposit now =>
    obtain ⟨⟨attribution, after⟩, added, done⟩ := bind_eq_ok.mp done
    cases done
    exact .single (.recorded added)
  | expireDue now =>
    obtain ⟨⟨expired, after⟩, moved, done⟩ := bind_eq_ok.mp done
    obtain ⟨due, rfl⟩ := expireDue_eq_ok moved
    cases done
    exact expireAll_moves (fun _ id => .moved id .expired) store due
  | deleteIntent id =>
    cases done
    exact .single (.deleted id)
  | linking id =>
    cases done
    exact .refl
  | get _ | due _ _ | candidates _ _ | exactCandidates _ _ _ _ | stale _ =>
    obtain ⟨answer, -, done⟩ := bind_eq_ok.mp done
    cases done
    exact .refl

/-- Whether a transaction ends well, fails or is given up: it leaves nothing but writes. -/
theorem transact_writes (rule : SweepRule) (store : Store) (calls : List Call) (giveUp : Bool) :
    ReflTransGen Write store (store.transact rule calls giveUp).store := by
  have run : ∀ store : Store, ReflTransGen Write store (store.runCalls rule calls).store := by
    induction calls with
    | nil => exact fun _ => .refl
    | cons call rest ih =>
      intro store
      unfold runCalls
      split
      · exact .refl
      · rename_i step done
        exact (run_writes done).trans (ih step.store)
  unfold transact
  dsimp only
  split
  · exact .refl
  · exact run store

/-- Runs transactions one after the other. Each may be given up at its end. -/
def transactAll (rule : SweepRule) (store : Store) (transactions : List (List Call × Bool)) :
    Store :=
  transactions.foldl
    (fun store transaction => (store.transact rule transaction.1 transaction.2).store) store

theorem transactAll_writes (rule : SweepRule) (store : Store)
    (transactions : List (List Call × Bool)) :
    ReflTransGen Write store (store.transactAll rule transactions) := by
  induction transactions generalizing store with
  | nil => exact .refl
  | cons transaction rest ih => exact (transact_writes rule store _ _).trans (ih _)

/-- A transaction has at most one attribution, an intent is linked by at most one, and what is
linked is an intent that is matched. -/
structure OneToOne (store : Store) : Prop where
  hashes : (store.attributions.map (·.txHash)).Nodup
  links : (store.attributions.filterMap (·.intent)).Nodup
  ids : (store.intents.map (·.id)).Nodup
  matched : ∀ row ∈ store.attributions, ∀ id, row.intent = some id →
    ∃ intent ∈ store.intents, intent.id = id ∧ intent.status = .matched

theorem Sound.oneToOne {store : Store} (sound : Sound store) : OneToOne store := by
  refine ⟨sound.attributions.nodup, sound.links, sound.intents.nodup, ?_⟩
  intro row member id linked
  obtain ⟨intent, found, matched⟩ := sound.matched row member id linked
  obtain ⟨inside, same⟩ := Table.mem_of_find? Intent.id found
  exact ⟨intent, inside, same, matched⟩

end Reconcile.Store
