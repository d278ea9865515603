import Reconcile.Delivery.Run
import Reconcile.Engine.Basic
import Reconcile.Payload.Delivery

set_option autoImplicit false

/- Delivering confirmed deposits. -/
namespace Reconcile.Engine

def deliverDeposit (engine : Engine) (deposit : Deposit) (now : Timestamp)
    (rival : Delivery.Rival) : Outcome (Option Attribution) :=
  let progress := Delivery.process ⟨engine.settings.matching, deposit, now⟩ rival engine.store
  let ending := progress.stage.ending
  let counters := match ending with
    | .attributed attribution => engine.counters.countMatched deposit.bucket attribution
    | _ => engine.counters
  ⟨ending.result, { engine with store := progress.store, counters }, progress.events⟩

/-- Reads a delivery and delivers its deposit. -/
def deliver (engine : Engine) (payload : Json) (now : Timestamp) (rival : Delivery.Rival) :
    Outcome (Option Attribution) :=
  match Payload.Delivery.read payload with
  | .error fault => engine.refuse fault
  | .ok deposit => engine.deliverDeposit deposit now rival

end Reconcile.Engine
