import Reconcile.Calendar.Timestamp
import Reconcile.Decimal.Basic
import Reconcile.Json.Basic

set_option autoImplicit false

/-
Intents: a partner says that a deposit will come. An intent starts out pending and leaves that
status once, for good.
-/
namespace Reconcile

/-- Where a deposit goes. Only deposits and intents of one bucket are ever matched. -/
structure Bucket where
  vault : String
  chain : Int
  receiver : String
  deriving DecidableEq, Inhabited, Repr

inductive Status
  | pending
  | matched
  | expired
  | orphan
  deriving DecidableEq, Inhabited, Repr

def Status.name : Status → String
  | .pending => "pending"
  | .matched => "matched"
  | .expired => "expired"
  | .orphan => "orphan"

/-- A deposit is expected from `created` until just before `expires`. The metadata are the
partner's own and decide nothing. -/
structure Intent where
  id : String
  partner : String
  bucket : Bucket
  amount : Decimal
  created : Timestamp
  expires : Timestamp
  metadata : Json.Fields
  status : Status
  deriving Inhabited

namespace Intent

def isPending (intent : Intent) : Bool := intent.status == .pending

end Intent

end Reconcile
