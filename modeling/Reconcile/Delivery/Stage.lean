import Reconcile.Journal.Event
import Reconcile.Store.Attributions
import Reconcile.Store.Intents

set_option autoImplicit false

/-
A delivery as a row of steps, each of which reads or changes the tables once. Others may act
between any two steps. Only a successful claim and the record that follows it are one step, since
the tables have one writer at a time; if the record is refused, the claim is undone with it.
-/
namespace Reconcile.Delivery

open Journal (Event)

/-- How a delivery ends. -/
inductive Ending
  /-- The deposit had an attribution before. -/
  | redelivered (stored : Attribution)
  /-- This delivery has recorded the attribution. -/
  | attributed (attribution : Attribution)
  /-- Another has recorded an attribution meanwhile, which is what is found now. -/
  | absorbed (stored : Option Attribution)
  /-- The intent that was to be linked is not taken after all. -/
  | conflicted (intent : String)
  /-- No intent fits yet. -/
  | leftOpen
  | failed (fault : Fault)
  deriving Inhabited

/-- What the one who delivers is told. -/
def Ending.result : Ending → Except Fault (Option Attribution)
  | .redelivered stored => .ok (some stored)
  | .attributed attribution => .ok (some attribution)
  | .absorbed stored => .ok stored
  | .conflicted _ => .ok none
  | .leftOpen => .ok none
  | .failed fault => .error fault

/-- Where a delivery stands: the next thing to do. -/
inductive Stage
  | lookUp
  | checkObserved
  | insertObserved
  /-- Look for intents that expect exactly this deposit of a partner. -/
  | queryExact (partner : String)
  /-- Try to take these intents, one after the other. -/
  | claimExact (partner : String) (intents : List String)
  /-- Look for the intent that fits best, apart from those that were lost. -/
  | query (attempt : Nat) (lost : List String)
  | claim (attempt : Nat) (lost : List String) (selection : Matching.Selection)
  /-- Record the partner without an intent. -/
  | record (partner : String)
  | reread
  | done (ending : Ending)
  deriving Inhabited

/-- How often a delivery tries to take an intent. -/
def maxAttempts : Nat := 2

/-- A delivery under way. -/
structure Task where
  policy : Policy
  deposit : Deposit
  now : Timestamp
  deriving Inhabited

/-- What a step leaves. -/
structure Progress where
  stage : Stage
  store : Store
  events : List Event
  deriving Inhabited

namespace Task

def finish (ending : Ending) (store : Store) (events : List Event) : Progress :=
  ⟨.done ending, store, events⟩

def fail (fault : Fault) (store : Store) : Progress := finish (.failed fault) store []

/-- Ends a transaction in which `claimed` is what the tables hold after a claim. If the decision
is not recorded, the tables are again what they were before it. -/
def record (task : Task) (before claimed : Store) (events : List Event) (decision : Decision) :
    Progress :=
  match claimed.commit task.deposit.txHash decision task.now with
  | .ok (attribution, after) =>
    finish (.attributed attribution) after
      (events ++ [.recorded attribution, .attributed attribution])
  | .error (.duplicateAttribution _) =>
    ⟨.reread, before, events ++ [.absorbed task.deposit.txHash]⟩
  | .error (.claimConflict intent) =>
    finish (.conflicted intent) before (events ++ [.conflicted task.deposit.txHash intent])
  | .error fault => finish (.failed fault) before events

/-- Ends a transaction that changed nothing. -/
def leaveOpen (task : Task) (store : Store) (events : List Event) : Progress :=
  finish .leftOpen store (events ++ [.leftOpen task.deposit])

/-- Claims an intent. A blind claim takes it for moved without looking. -/
def take (blind : Bool) (store : Store) (intent : String) : Bool × Store × List Event :=
  if blind then (true, store, [])
  else
    let (moved, after) := store.move intent .matched
    (moved, after, if moved then [.moved intent .matched] else [])

def firstQuery (task : Task) : Stage :=
  match task.deposit.partner? with
  | some partner => .queryExact partner
  | none => .query 1 []

def queryExact (task : Task) (partner : String) (store : Store) : Progress :=
  let deposit := task.deposit
  match store.exactCandidates partner deposit.bucket deposit.amount deposit.confirmed with
  | .error fault => fail fault store
  | .ok [] => ⟨.record partner, store, []⟩
  | .ok found => ⟨.claimExact partner ((found.take maxAttempts).map (·.id)), store, []⟩

def claimExact (task : Task) (blind : Bool) (partner : String) (intents : List String)
    (store : Store) : Progress :=
  match intents with
  | [] => ⟨.record partner, store, []⟩
  | intent :: rest =>
    match take blind store intent with
    | (true, claimed, events) =>
      task.record store claimed events (.explicit task.deposit partner (some intent))
    | (false, _, _) =>
      ⟨match rest with
        | [] => .record partner
        | rest => .claimExact partner rest,
       store, [.exactLost task.deposit.txHash intent]⟩

def query (task : Task) (attempt : Nat) (lost : List String) (store : Store) : Progress :=
  let deposit := task.deposit
  match store.candidates deposit.bucket deposit.confirmed with
  | .error fault => fail fault store
  | .ok found =>
    match found.filter fun intent => !lost.contains intent.id with
    | [] => task.leaveOpen store [.noCandidate deposit.txHash attempt]
    | candidates =>
      match (do Matching.select task.policy
                  (← Matching.scoreAll task.policy deposit candidates)) with
      | .error fault => fail fault store
      | .ok none =>
        task.leaveOpen store [.noEligible deposit.txHash candidates.length attempt]
      | .ok (some selection) => ⟨.claim attempt lost selection, store, []⟩

def claim (task : Task) (blind : Bool) (attempt : Nat) (lost : List String)
    (selection : Matching.Selection) (store : Store) : Progress :=
  let intent := selection.winner.intent
  match take blind store intent.id with
  | (true, claimed, events) =>
    task.record store claimed (events ++ [.candidateClaimed task.deposit.txHash selection])
      (.inferred task.deposit intent selection.confidence)
  | (false, _, _) =>
    let event : Event := .candidateLost task.deposit.txHash intent.id attempt
    if attempt < maxAttempts then ⟨.query (attempt + 1) (intent.id :: lost), store, [event]⟩
    else task.leaveOpen store [event]

def step (task : Task) (blind : Bool) (stage : Stage) (store : Store) : Progress :=
  let txHash := task.deposit.txHash
  match stage with
  | .lookUp =>
    match store.attribution? txHash with
    | some stored => finish (.redelivered stored) store [.redelivered txHash stored.source]
    | none => ⟨.checkObserved, store, []⟩
  | .checkObserved =>
    if (store.observed? txHash).isSome then ⟨task.firstQuery, store, []⟩
    else ⟨.insertObserved, store, []⟩
  | .insertObserved =>
    match store.insertObserved task.deposit task.now with
    | .error fault => fail fault store
    | .ok (some after) => ⟨task.firstQuery, after, []⟩
    | .ok none => ⟨task.firstQuery, store, [.observedTwice txHash]⟩
  | .queryExact partner => task.queryExact partner store
  | .claimExact partner intents => task.claimExact blind partner intents store
  | .query attempt lost => task.query attempt lost store
  | .claim attempt lost selection => task.claim blind attempt lost selection store
  | .record partner => task.record store store [] (.explicit task.deposit partner none)
  | .reread => finish (.absorbed (store.attribution? txHash)) store []
  | .done ending => finish ending store []

end Task

end Reconcile.Delivery
