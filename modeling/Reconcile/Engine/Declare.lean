import Reconcile.Engine.Basic
import Reconcile.Payload.Declaration

set_option autoImplicit false

/- Declaring intents, and taking them back. -/
namespace Reconcile.Engine

open Journal (Event)

/-- Reads a declaration. An id is issued if it has none. -/
def prepare (settings : Settings) (issued : Nat) (payload : Json) (now : Timestamp) :
    Nat × Except Fault Intent :=
  match (do
    let declaration ← Payload.Declaration.read payload
    return (declaration, ← liftClock settings.ttl)) with
  | .error fault => (issued, .error fault)
  | .ok (declaration, usual) => declaration.toIntent now usual issued

/-- Adds an intent that the tables admit. A rival may add the same intent just before. -/
def register (store : Store) (intent : Intent) (rival : Bool) :
    Except Fault Intent × Store :=
  match store.admits intent with
  | .error fault => (.error fault, store)
  | .ok () =>
    let intent := { intent with status := .pending }
    let before := if rival then (store.insertIntent intent).toOption.getD store else store
    match before.insertIntent intent with
    | .error fault => (.error fault, before)
    | .ok after => (.ok intent, after)

def declare (engine : Engine) (payload : Json) (now : Timestamp) (rival : Bool) :
    Outcome Intent :=
  let (issued, prepared) := prepare engine.settings engine.issued payload now
  let engine := { engine with issued }
  match prepared with
  | .error fault => engine.refuse fault
  | .ok intent =>
    match register engine.store intent rival with
    | (.error fault, store) => ⟨.error fault, { engine with store }, []⟩
    | (.ok intent, store) =>
      ⟨.ok intent, { engine with store, counters := engine.counters.countCreated intent },
        [.declared intent]⟩

/-- Gives a pending intent up. Says whether it was still pending. -/
def orphan (engine : Engine) (id : String) : Outcome Bool :=
  match engine.store.getIntent id with
  | .error fault => engine.refuse fault
  | .ok _ =>
    let (changed, store) := engine.store.move id .orphan
    ⟨.ok changed, { engine with store },
      (if changed then [Event.moved id .orphan] else []) ++ [.orphanAsked id changed]⟩

end Reconcile.Engine
