import Reconcile.Counters
import Reconcile.Journal.Event
import Reconcile.Settings.Basic
import Reconcile.Store.Attributions
import Reconcile.Store.Intents

set_option autoImplicit false

/- The engine: settings, tables, counters and the number of ids that it has issued. -/
namespace Reconcile

structure Engine where
  settings : Settings
  store : Store
  counters : Counters
  issued : Nat
  deriving Inhabited

/-- What a call leaves: its result, the engine and what was reported on the way. -/
structure Outcome (α : Type) where
  result : Except Fault α
  engine : Engine
  events : List Journal.Event
  deriving Inhabited

namespace Engine

def start (settings : Settings) : Engine := ⟨settings, .empty, .zero, 0⟩

/-- A call that fails and changes nothing. -/
def refuse {α : Type} (engine : Engine) (fault : Fault) : Outcome α := ⟨.error fault, engine, []⟩

/-- A call that only reads the tables. -/
def query {α : Type} (engine : Engine) (result : Except Fault α) : Outcome α :=
  ⟨result, engine, []⟩

end Engine

end Reconcile
