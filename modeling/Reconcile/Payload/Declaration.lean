import Reconcile.Fault
import Reconcile.Intent
import Reconcile.Decimal.Rounding
import Reconcile.Payload.Field
import Reconcile.Text.Hex

set_option autoImplicit false

/-
A partner's declaration. What it leaves out is filled in from the clock: it begins now, and it
ends after the usual time.
-/
namespace Reconcile.Payload

/-- A declaration as it was sent. -/
structure Declaration where
  id : Option String
  partner : String
  bucket : Bucket
  amount : Decimal
  created : Option Timestamp
  expires : Option Timestamp
  metadata : Json.Fields
  deriving Inhabited

namespace Declaration

/-- Reads the fields of a declaration, in the order in which problems are listed. -/
def ofFields (fields : Json.Fields) : Checked Declaration :=
  (fun id partner vault chain receiver amount created expires metadata =>
    ({ id, partner, bucket := ⟨vault, chain, receiver⟩, amount, created, expires,
       metadata } : Declaration))
    <$> withDefault fields ["id", "intent_id", "intentId"] none (nullable (text 1 128))
    <*> required fields "partner_id" ["partnerId"] (text 1 128)
    <*> required fields "vault_id" ["vaultId"] (text 1 50)
    <*> required fields "chain_id" ["chainId"] chain
    <*> required fields "receiver" [] receiver
    <*> required fields "amount" [] positive
    <*> withDefault fields ["created_at", "createdAt"] none (nullable moment)
    <*> withDefault fields ["expires_at", "expiresAt"] none (nullable moment)
    <*> withDefault fields ["metadata", "meta"] [] freeFields

def read : Json → Except Fault Declaration
  | .object fields =>
    match ofFields fields with
    | .good declaration => .ok declaration
    | .bad problems => .error (.rejected .declaration problems)
    | .offCalendar => .error .outOfRange
  | other => .error (.notAnObject .declaration other.kindName)

/-- The id of the n-th intent that came without one. -/
def issuedId (n : Nat) : String := "din_" ++ String.ofList (Text.hexDigits 32 n)

/-- From when to when the deposit is expected. -/
def window (declaration : Declaration) (now : Timestamp) (usual : Duration) :
    Except Fault (Timestamp × Timestamp) := do
  let created := declaration.created.getD now
  match declaration.expires with
  | some expires => return (created, expires)
  | none => return (created, ← liftClock (created.shift? usual.micros))

/-- How many ids have been issued after this declaration, and the intent. An id that was issued
stays used even if the amount then has no canonical form. -/
def toIntent (declaration : Declaration) (now : Timestamp) (usual : Duration) (issued : Nat) :
    Nat × Except Fault Intent :=
  match declaration.window now usual with
  | .error fault => (issued, .error fault)
  | .ok (created, expires) =>
    let issued := if declaration.id.isSome then issued else issued + 1
    (issued, do
      let amount ← liftDecimal declaration.amount.normalize
      return { id := declaration.id.getD (issuedId issued), partner := declaration.partner,
               bucket := declaration.bucket, amount, created, expires,
               metadata := declaration.metadata, status := .pending })

end Declaration

end Reconcile.Payload
