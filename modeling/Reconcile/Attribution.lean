import Reconcile.Decimal.Arithmetic
import Reconcile.Deposit
import Reconcile.Fault

set_option autoImplicit false

/-
Attributions: which partner a deposit is credited to, and how sure that is. A deposit that names
its partner is explicit and certain. Any other is inferred from an intent and never certain, or
credited to nobody with confidence zero.
-/
namespace Reconcile

inductive Source
  | explicit
  | inferred
  deriving DecidableEq, Inhabited, Repr

def Source.name : Source → String
  | .explicit => "explicit"
  | .inferred => "inferred"

/-- What is to be recorded for a deposit. -/
structure Decision where
  partner : Option String
  source : Source
  confidence : Decimal
  intent : Option String
  assets : Decimal
  shares : Option Decimal
  deriving DecidableEq, Inhabited, Repr

namespace Decision

/-- The deposit is credited to nobody. -/
def unattributed (deposit : Deposit) : Decision :=
  { partner := none, source := .inferred, confidence := .zero, intent := none,
    assets := deposit.amount, shares := some deposit.shares }

/-- The deposit named its partner; `intent` is the one that expected exactly this deposit. -/
def explicit (deposit : Deposit) (partner : String) (intent : Option String) : Decision :=
  { partner := some partner, source := .explicit, confidence := .one, intent,
    assets := deposit.amount, shares := some deposit.shares }

/-- The deposit is taken for the one that an intent expected. -/
def inferred (deposit : Deposit) (intent : Intent) (confidence : Decimal) : Decision :=
  { partner := some intent.partner, source := .inferred, confidence, intent := some intent.id,
    assets := deposit.amount, shares := some deposit.shares }

def namesPartner (decision : Decision) : Bool :=
  match decision.partner with
  | some name => !name.isEmpty
  | none => false

/-- Refuses a decision whose source and confidence do not fit together. -/
def check (decision : Decision) : Except Fault Unit := do
  let notBelow ← liftDecimal (Decimal.zero.le? decision.confidence)
  let notAbove ← liftDecimal (decision.confidence.le? .one)
  if !(notBelow && notAbove) then
    .error (.decision (.confidenceOutOfRange decision.confidence))
  let certain ← liftDecimal (decision.confidence.same? .one)
  match decision.source with
  | .explicit =>
    if certain && decision.namesPartner then .ok () else .error (.decision .weakExplicit)
  | .inferred =>
    if certain then .error (.decision .certainInferred)
    else if decision.intent.isNone && !decision.confidence.isZero then
      .error (.decision .unlinkedConfidence)
    else .ok ()

end Decision

/-- The record for one deposit. -/
structure Attribution where
  txHash : String
  intent : Option String
  partner : Option String
  source : Source
  confidence : Decimal
  assets : Decimal
  shares : Option Decimal
  created : Timestamp
  deriving DecidableEq, Inhabited, Repr

namespace Attribution

def ofDecision (txHash : String) (decision : Decision) (created : Timestamp) : Attribution :=
  { txHash, intent := decision.intent, partner := decision.partner, source := decision.source,
    confidence := decision.confidence, assets := decision.assets, shares := decision.shares,
    created }

/-- Whether the deposit ended up with nobody. -/
def isTerminal (attribution : Attribution) : Bool :=
  attribution.partner.isNone && attribution.intent.isNone && attribution.confidence.isZero

end Attribution

end Reconcile
