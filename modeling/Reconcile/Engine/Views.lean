import Reconcile.Engine.Basic

set_option autoImplicit false

/- What can be asked about intents and attributions. -/
namespace Reconcile

structure IntentView where
  intent : Intent
  attribution : Option Attribution
  deriving Inhabited

namespace Store

/-- An intent with the attribution that links it. -/
def view (store : Store) (id : String) : Except Fault IntentView := do
  return ⟨← store.getIntent id, store.linking? id⟩

/-- The attribution of a transaction, however its hash is written. -/
def lookUp (store : Store) (txHash : String) : Option Attribution :=
  store.attribution? (Text.lowercase (Text.strip txHash))

end Store

namespace Engine

def getIntent (engine : Engine) (id : String) : Outcome IntentView :=
  engine.query (engine.store.view id)

def getAttribution (engine : Engine) (txHash : String) : Outcome (Option Attribution) :=
  engine.query (.ok (engine.store.lookUp txHash))

def listPartner (engine : Engine) (partner : String) (limit : Option Int) :
    Outcome (List Attribution) :=
  engine.query (engine.store.ofPartner partner limit)

end Engine

end Reconcile
