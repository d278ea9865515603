import Reconcile.Proofs.Delivery.Leads
import Reconcile.Proofs.Matching.Selection
import Reconcile.Proofs.Store.Agreement

set_option autoImplicit false

/-
One delivery on two tables that are alike. The two go abreast: after every step they stand at the
same stage, have reported the same and have made the same entries, each of them about the deposit.
-/
namespace Reconcile

open Store (Alike)

/-- An entry about a deposit: the row of its transaction, or an intent that awaits it. -/
def Entry.Concerns (store : Store) (deposit : Deposit) : Entry → Prop
  | .observed row => row.deposit.txHash = deposit.txHash
  | .matched id => store.Awaited deposit id
  | .recorded row => row.txHash = deposit.txHash ∧
      ∀ id, row.intent = some id → store.Awaited deposit id

theorem Store.Awaited.congr {store other : Store} {deposit : Deposit} {id : String}
    (same : other.intents = store.intents) (awaited : other.Awaited deposit id) :
    store.Awaited deposit id := by
  obtain ⟨intent, member, named, waits⟩ := awaited
  exact ⟨intent, same ▸ member, named, waits⟩

theorem Entry.Concerns.congr {store other : Store} {deposit : Deposit} {entry : Entry}
    (same : other.intents = store.intents) (concerns : entry.Concerns other deposit) :
    entry.Concerns store deposit := by
  cases entry with
  | observed row => exact concerns
  | matched id => exact Store.Awaited.congr same concerns
  | recorded row =>
    exact ⟨concerns.1, fun id linked => (concerns.2 id linked).congr same⟩

theorem Entry.Concerns.isOf {store : Store} {deposit : Deposit} {entry : Entry}
    (concerns : entry.Concerns store deposit) : entry.IsOf deposit.txHash := by
  cases entry with
  | observed row => exact concerns
  | matched id => trivial
  | recorded row => exact concerns.1

namespace Delivery

def Stage.aims : Stage → List String
  | .claimExact _ intents => intents
  | .claim _ _ selection => [selection.winner.intent.id]
  | _ => []

/-- What two deliveries rely on at a stage: their tables are alike, and the intents that are tried
await the deposit. -/
structure Ready (task : Task) (stage : Stage) (store other : Store) : Prop where
  keyed : store.Keyed
  also : other.Keyed
  alike : Alike task.deposit store other
  aims : ∀ id ∈ stage.aims, store.Awaited task.deposit id

/-- Two deliveries stand at the same point and have made the same entries. Unless they have ended,
no intent was taken. -/
structure Abreast (task : Task) (store other : Store) (here there : Progress) : Prop where
  stage : there.stage = here.stage
  events : there.events = here.events
  entries : ∃ entries, here.store = store.enterAll entries ∧
    there.store = other.enterAll entries ∧ ∀ entry ∈ entries, entry.Concerns store task.deposit
  going : (∃ ending, here.stage = .done ending) ∨
    Ready task here.stage here.store there.store ∧ here.store.intents = store.intents

variable {task : Task} {store other : Store}

theorem Ready.aimless {stage next : Stage} (ready : Ready task stage store other)
    (none : next.aims = []) : Ready task next store other := by
  refine ⟨ready.keyed, ready.also, ready.alike, ?_⟩
  rw [none]
  exact List.forall_mem_nil _

theorem Task.Looks.aims {stage : Stage} (looks : task.Looks stage) : stage.aims = [] := by
  cases looks <;> rfl

namespace Abreast

/-- Nothing was written. -/
theorem idle {stage : Stage} (events : List Journal.Event)
    (ready : Ready task stage store other) :
    Abreast task store other ⟨stage, store, events⟩ ⟨stage, other, events⟩ :=
  ⟨rfl, rfl, ⟨[], rfl, rfl, List.forall_mem_nil _⟩, Or.inr ⟨ready, rfl⟩⟩

theorem ended {entries : List Entry} (ending : Ending) (events : List Journal.Event)
    (concern : ∀ entry ∈ entries, entry.Concerns store task.deposit) :
    Abreast task store other ⟨.done ending, store.enterAll entries, events⟩
      ⟨.done ending, other.enterAll entries, events⟩ :=
  ⟨rfl, rfl, ⟨entries, rfl, rfl, concern⟩, Or.inl ⟨ending, rfl⟩⟩

theorem endedIdle (ending : Ending) (events : List Journal.Event) :
    Abreast task store other ⟨.done ending, store, events⟩ ⟨.done ending, other, events⟩ :=
  @ended task store other [] ending events (List.forall_mem_nil _)

theorem trans {here there next further : Progress} (first : Abreast task store other here there)
    (intents : here.store.intents = store.intents)
    (second : Abreast task here.store there.store next further) :
    Abreast task store other { next with events := here.events ++ next.events }
      { further with events := there.events ++ further.events } := by
  obtain ⟨early, hereEq, thereEq, concern⟩ := first.entries
  obtain ⟨late, nextEq, furtherEq, more⟩ := second.entries
  refine ⟨second.stage, ?_, ⟨early ++ late, ?_, ?_, ?_⟩, ?_⟩
  · simp only [first.events, second.events]
  · rw [nextEq, hereEq, Store.enterAll_append]
  · rw [furtherEq, thereEq, Store.enterAll_append]
  · intro entry member
    rcases List.mem_append.mp member with member | member
    · exact concern entry member
    · exact (more entry member).congr intents
  · rcases second.going with ended | ⟨ready, same⟩
    · exact Or.inl ended
    · exact Or.inr ⟨ready, same.trans intents⟩

end Abreast

/-- After the observation of its deposit the tables are still alike. -/
theorem Ready.observed {stage next : Stage} {row : Observed}
    (ready : Ready task stage store other)
    (here : store.insertObserved task.deposit task.now = .ok (some (store.enter (.observed row))))
    (there : other.insertObserved task.deposit task.now =
      .ok (some (other.enter (.observed row)))) (none : next.aims = []) :
    Ready task next (store.enter (.observed row)) (other.enter (.observed row)) := by
  refine ⟨ready.keyed.change (.observed here), ready.also.change (.observed there), ?_, ?_⟩
  · refine ⟨ready.alike.intents, ?_, ready.alike.attributions, ready.alike.links⟩
    intro old same
    simp only [Store.enter, Table.mem_insert, ready.alike.observed old same]
  · rw [none]
    exact List.forall_mem_nil _

section Step

variable {stage : Stage} (ready : Ready task stage store other)
include ready

/-- Both claim what they decide for and record it, or neither does. -/
theorem record_abreast (events : List Journal.Event) (decision : Decision)
    (awaited : ∀ id, decision.intent = some id → store.Awaited task.deposit id) :
    Abreast task store other
      (task.record store (store.enterAll (Entry.ofClaim decision.intent)) events decision)
      (task.record other (other.enterAll (Entry.ofClaim decision.intent)) events decision) := by
  unfold Task.record
  rcases Store.commit_congr (ready.alike.permits ready.keyed ready.also decision awaited) task.now
      (ready.alike.linkTaken decision awaited task.now) with
    ⟨fault, here, there⟩ | ⟨row, hash, linked, here, there⟩
  · rw [here, there]
    cases fault with
    | duplicateAttribution txHash => exact .idle _ (ready.aimless rfl)
    | _ => exact .endedIdle _ _
  · rw [here, there]
    have whole : ∀ tables : Store,
        (tables.enterAll (Entry.ofClaim decision.intent)).enter (.recorded row) =
          tables.enterAll (Entry.ofClaim decision.intent ++ [.recorded row]) := by
      intro tables
      rw [Store.enterAll_append]
      rfl
    simp only [Task.finish, whole]
    apply Abreast.ended
    intro entry member
    rcases List.mem_append.mp member with member | member
    · cases claimed : decision.intent with
      | none =>
        rw [claimed] at member
        cases member
      | some id =>
        rw [claimed] at member
        cases List.mem_singleton.mp member
        exact awaited id claimed
    · cases List.mem_singleton.mp member
      exact ⟨hash, fun id same => awaited id (linked.symm.trans same)⟩

theorem take_abreast {id : String} (awaited : store.Awaited task.deposit id) :
    Task.take false store id =
        (true, store.enterAll (Entry.ofClaim (some id)), [.moved id .matched]) ∧
      Task.take false other id =
        (true, other.enterAll (Entry.ofClaim (some id)), [.moved id .matched]) := by
  have there : other.Awaited task.deposit id := by
    obtain ⟨intent, member, named, waits⟩ := awaited
    exact ⟨intent, (ready.alike.intents intent waits).mp member, named, waits⟩
  simp only [Task.take, awaited.move ready.keyed, there.move ready.also, Bool.false_eq_true,
    if_false, if_true, Entry.ofClaim, Store.enterAll_cons, Store.enterAll_nil, and_self]

theorem insertObserved_abreast :
    Abreast task store other (task.step false .insertObserved store)
      (task.step false .insertObserved other) := by
  simp only [Task.step]
  rcases ready.alike.insertObserved ready.also task.now with
    ⟨fault, here, there⟩ | ⟨here, there⟩ | ⟨row, hash, here, there⟩
  · simp only [here, there]
    exact .endedIdle _ _
  · simp only [here, there]
    exact .idle _ (ready.aimless task.firstQuery_looks.aims)
  · simp only [here, there]
    refine ⟨rfl, rfl, ⟨[.observed row], rfl, rfl, ?_⟩, Or.inr ⟨?_, rfl⟩⟩
    · intro entry member
      cases List.mem_singleton.mp member
      exact hash
    · dsimp only
      exact ready.observed here there task.firstQuery_looks.aims

theorem queryExact_abreast (partner : String) :
    Abreast task store other (task.queryExact partner store) (task.queryExact partner other) := by
  unfold Task.queryExact
  simp only [← ready.alike.exactCandidates ready.keyed ready.also]
  split
  · exact .endedIdle _ _
  · exact .idle _ (ready.aimless rfl)
  · rename_i found listed
    refine .idle _ ⟨ready.keyed, ready.also, ready.alike, ?_⟩
    intro id member
    obtain ⟨intent, taken, rfl⟩ := List.mem_map.mp member
    exact Store.exactCandidates_awaited listed (List.mem_of_mem_take taken)

theorem query_abreast (attempt : Nat) (lost : List String) :
    Abreast task store other (task.query attempt lost store) (task.query attempt lost other) := by
  unfold Task.query
  simp only [← ready.alike.candidates ready.keyed ready.also]
  split
  · exact .endedIdle _ _
  · rename_i found listed
    split
    · exact .endedIdle _ _
    · split
      · exact .endedIdle _ _
      · exact .endedIdle _ _
      · rename_i selection chosen
        refine .idle _ ⟨ready.keyed, ready.also, ready.alike, ?_⟩
        intro id member
        cases List.mem_singleton.mp member
        have inside := (Matching.choose_eq_ok chosen).1
        exact Store.candidates_awaited listed (List.mem_of_mem_filter inside)

theorem claimExact_abreast (partner : String) (intents : List String)
    (aims : ∀ id ∈ intents, store.Awaited task.deposit id) :
    Abreast task store other (task.claimExact false partner intents store)
      (task.claimExact false partner intents other) := by
  cases intents with
  | nil => exact .idle _ (ready.aimless rfl)
  | cons id rest =>
    have awaited := aims id List.mem_cons_self
    obtain ⟨here, there⟩ := take_abreast ready awaited
    simp only [Task.claimExact, here, there]
    apply record_abreast ready _ (Decision.explicit task.deposit partner (some id))
    rintro _ ⟨⟩
    exact awaited

theorem claim_abreast (attempt : Nat) (lost : List String) (selection : Matching.Selection)
    (awaited : store.Awaited task.deposit selection.winner.intent.id) :
    Abreast task store other (task.claim false attempt lost selection store)
      (task.claim false attempt lost selection other) := by
  obtain ⟨here, there⟩ := take_abreast ready awaited
  simp only [Task.claim, here, there]
  apply record_abreast ready _
    (Decision.inferred task.deposit selection.winner.intent selection.confidence)
  rintro _ ⟨⟩
  exact awaited

theorem step_abreast :
    Abreast task store other (task.step false stage store) (task.step false stage other) := by
  cases stage with
  | lookUp =>
    simp only [Task.step, ← ready.alike.attribution? ready.also]
    split
    · exact .endedIdle _ _
    · exact .idle _ (ready.aimless rfl)
  | checkObserved =>
    simp only [Task.step, ← ready.alike.observed? ready.also]
    split
    · exact .idle _ (ready.aimless task.firstQuery_looks.aims)
    · exact .idle _ (ready.aimless rfl)
  | insertObserved => exact insertObserved_abreast ready
  | queryExact partner => exact queryExact_abreast ready partner
  | claimExact partner intents => exact claimExact_abreast ready partner intents ready.aims
  | query attempt lost => exact query_abreast ready attempt lost
  | claim attempt lost selection =>
    exact claim_abreast ready attempt lost selection
      (ready.aims _ (List.mem_singleton_self _))
  | record partner =>
    exact record_abreast ready [] (Decision.explicit task.deposit partner none) (by rintro _ ⟨⟩)
  | reread =>
    simp only [Task.step, ← ready.alike.attribution? ready.also]
    exact .endedIdle _ _
  | done ending => exact .endedIdle _ _

end Step

theorem run_abreast (fuel : Nat) {here there : Progress}
    (abreast : Abreast task store other here there) :
    Abreast task store other (run task fuel .absent here) (run task fuel .absent there) := by
  induction fuel generalizing here there with
  | zero => exact abreast
  | succ fuel ih =>
    by_cases ended : ∃ ending, here.stage = .done ending
    · obtain ⟨ending, ended⟩ := ended
      obtain ⟨stage, tables, events⟩ := here
      obtain ⟨_, others, more⟩ := there
      cases ended
      cases abreast.stage
      rw [run_of_done, run_of_done]
      exact abreast
    · have going : ∀ ending, here.stage = .done ending → False :=
        fun ending same => ended ⟨ending, same⟩
      rcases abreast.going with ⟨ending, same⟩ | ⟨ready, intents⟩
      · exact (going ending same).elim
      rw [run_succ task fuel going,
        run_succ task fuel (fun ending same => going ending (abreast.stage.symm.trans same)),
        abreast.stage]
      exact ih (abreast.trans intents (step_abreast ready))

end Delivery

end Reconcile
