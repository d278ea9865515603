import Reconcile.Delivery.Rival
import Reconcile.Engine.Basic

set_option autoImplicit false

/-
Sweeps. A sweep first moves intents that have outlived their time to expired. Then it credits
deposits that nobody claimed within the grace period to nobody, each on its own, so that one that
was attributed meanwhile does not stop the rest.
-/
namespace Reconcile

open Journal (Event)

/-- What a sweep did, in the order in which it did it. -/
structure SweepReport where
  now : Timestamp
  expired : List String
  flagged : List String
  deriving DecidableEq, Inhabited, Repr

/-- What marking deposits leaves. If one fails, those before it stay marked. -/
structure Marking where
  flagged : Except Fault (List String)
  store : Store
  events : List Event
  deriving Inhabited

/-- Credits deposits to nobody. Of those in `raced` a rival does so just before. -/
def markAll (now : Timestamp) (raced : List String) (store : Store) : List Deposit → Marking
  | [] => ⟨.ok [], store, []⟩
  | deposit :: rest =>
    let (store, before) :=
      if raced.contains deposit.txHash then Delivery.Rival.flag store deposit now
      else (store, [])
    match store.markUnattributed deposit now with
    | .ok (attribution, after) =>
      let others := markAll now raced after rest
      { others with
        flagged := others.flagged.map (deposit.txHash :: ·)
        events := before ++ [.recorded attribution] ++ others.events }
    | .error (.duplicateAttribution _) =>
      let others := markAll now raced store rest
      { others with events := before ++ [.sweptLate deposit.txHash] ++ others.events }
    | .error fault => ⟨.error fault, store, before⟩

namespace Engine

def sweep (engine : Engine) (now : Timestamp) (raced : List String) : Outcome SweepReport :=
  let rule := engine.settings.sweep
  match engine.store.expireDue now rule.batch with
  | .error fault => engine.refuse fault
  | .ok (expired, store) =>
    let moves := expired.map (Event.moved · .expired)
    match store.stale rule now with
    | .error fault => ⟨.error fault, { engine with store }, moves⟩
    | .ok deposits =>
      let marking := markAll now raced store deposits
      let engine := { engine with store := marking.store }
      match marking.flagged with
      | .error fault => ⟨.error fault, engine, moves ++ marking.events⟩
      | .ok flagged =>
        let last : Event :=
          if expired.isEmpty && flagged.isEmpty then .nothingToSweep
          else .swept expired.length flagged.length
        ⟨.ok ⟨now, expired, flagged⟩, engine, moves ++ marking.events ++ [last]⟩

end Engine

end Reconcile
