import Reconcile.Engine.Basic

set_option autoImplicit false

/-
Transactions made of single calls on the tables. If a call fails or the transaction is given up,
the tables are as before.
-/
namespace Reconcile

open Journal (Event)

/-- A single call on the tables. -/
inductive Call
  | declare (intent : Intent)
  | get (intent : String)
  | claim (intent : String)
  | expire (intent : String)
  | orphan (intent : String)
  | due (now : Timestamp) (limit : Int)
  | candidates (bucket : Bucket) (asOf : Timestamp)
  | exactCandidates (partner : String) (bucket : Bucket) (amount : Decimal) (asOf : Timestamp)
  | commit (txHash : String) (decision : Decision) (now : Timestamp)
  | markUnattributed (deposit : Deposit) (now : Timestamp)
  | linking (intent : String)
  | expireDue (now : Timestamp)
  | stale (now : Timestamp)
  | deleteIntent (intent : String)
  deriving Inhabited

inductive Answer
  | intent (intent : Intent)
  | flag (value : Bool)
  | names (list : List String)
  | attribution (attribution : Option Attribution)
  | marked (attribution : Attribution)
  | nothing
  deriving Inhabited

/-- What a call leaves when it succeeds. -/
structure Step where
  answer : Answer
  store : Store
  events : List Event
  deriving Inhabited

namespace Call

def move (store : Store) (intent : String) (status : Status) : Step :=
  let (moved, store) := store.move intent status
  ⟨.flag moved, store, if moved then [.moved intent status] else []⟩

def run (rule : SweepRule) (store : Store) : Call → Except Fault Step
  | .declare intent => do
    let (declared, store) ← store.declare intent
    return ⟨.intent declared, store, []⟩
  | .get intent => return ⟨.intent (← store.getIntent intent), store, []⟩
  | .claim intent => .ok (move store intent .matched)
  | .expire intent => .ok (move store intent .expired)
  | .orphan intent => .ok (move store intent .orphan)
  | .due now limit => return ⟨.names (← store.due now limit), store, []⟩
  | .candidates bucket asOf =>
    return ⟨.names ((← store.candidates bucket asOf).map (·.id)), store, []⟩
  | .exactCandidates partner bucket amount asOf =>
    return ⟨.names ((← store.exactCandidates partner bucket amount asOf).map (·.id)), store, []⟩
  | .commit txHash decision now => do
    let (attribution, store) ← store.commit txHash decision now
    return ⟨.attribution (some attribution), store, [.recorded attribution]⟩
  | .markUnattributed deposit now => do
    let (attribution, store) ← store.markUnattributed deposit now
    return ⟨.marked attribution, store, [.recorded attribution]⟩
  | .linking intent => return ⟨.attribution (store.linking? intent), store, []⟩
  | .expireDue now => do
    let (expired, store) ← store.expireDue now rule.batch
    return ⟨.names expired, store, expired.map (Event.moved · .expired)⟩
  | .stale now => return ⟨.names ((← store.stale rule now).map (·.txHash)), store, []⟩
  | .deleteIntent intent => .ok ⟨.nothing, store.deleteIntent intent, []⟩

end Call

/-- How a row of calls went: the answers up to the first failure, and the failure. -/
structure Calls where
  answers : List Answer
  fault : Option Fault
  store : Store
  events : List Event
  deriving Inhabited

namespace Store

/-- Runs calls one after the other up to the first failure. -/
def runCalls (rule : SweepRule) (store : Store) : List Call → Calls
  | [] => ⟨[], none, store, []⟩
  | call :: rest =>
    match call.run rule store with
    | .error fault => ⟨[], some fault, store, []⟩
    | .ok step =>
      let others := step.store.runCalls rule rest
      { others with
        answers := step.answer :: others.answers, events := step.events ++ others.events }

/-- Runs calls as one transaction, which may be given up at its end. -/
def transact (rule : SweepRule) (store : Store) (calls : List Call) (giveUp : Bool) : Calls :=
  let done := store.runCalls rule calls
  if giveUp || done.fault.isSome then { done with store } else done

end Store

namespace Engine

/-- Runs calls as one transaction on the engine's tables. -/
def transact (engine : Engine) (calls : List Call) (giveUp : Bool) : Calls × Engine :=
  let done := engine.store.transact engine.settings.sweep calls giveUp
  (done, { engine with store := done.store })

end Engine

end Reconcile
