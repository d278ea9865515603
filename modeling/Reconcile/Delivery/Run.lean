import Reconcile.Delivery.Rival

set_option autoImplicit false

/-
A whole delivery: its steps, one after the other, with a rival who may act between them.
-/
namespace Reconcile.Delivery

/-- The most steps that a delivery takes: three to observe the deposit, then at most five. -/
def mostSteps : Nat := 8

/-- Runs a delivery until it ends. The number bounds the steps. -/
def run (task : Task) : Nat → Rival → Progress → Progress
  | 0, _, progress => progress
  | left + 1, rival, progress =>
    match progress.stage with
    | .done _ => progress
    | stage =>
      let (rival, store, events) := rival.act task stage progress.store
      let next := task.step rival.blinds stage store
      run task left rival { next with events := progress.events ++ events ++ next.events }

/-- Runs a delivery from its first step. -/
def process (task : Task) (rival : Rival) (store : Store) : Progress :=
  run task mostSteps rival ⟨.lookUp, store, []⟩

/-- How a delivery has ended. One that is still under way has left the deposit open so far. -/
def Stage.ending : Stage → Ending
  | .done ending => ending
  | _ => .leftOpen

end Reconcile.Delivery
