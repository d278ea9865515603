import Reconcile.Deposit
import Reconcile.Fault
import Reconcile.Decimal.Rounding
import Reconcile.Payload.Field
import Reconcile.Text.Lowercase

set_option autoImplicit false

/-
A delivery reports a confirmed deposit. The hash of its transaction is kept in small letters, so
that one transaction has one name, and the amounts are kept in canonical form, so that equal
amounts are written alike.
-/
namespace Reconcile.Payload.Delivery

def hash (value : Json) : Reading String := (text 1 100 value).map Text.lowercase

/-- A partner's name; an empty one is none. -/
def tag (value : Json) : Reading (Option String) :=
  (nullable (text 0 128) value).map (·.filter (!·.isEmpty))

/-- Reads the fields of a delivery, in the order in which problems are listed. -/
def ofFields (fields : Json.Fields) : Checked Deposit :=
  (fun txHash vault chain receiver amount shares confirmed tag =>
    ({ txHash, bucket := ⟨vault, chain, receiver⟩, amount, shares, confirmed, tag } : Deposit))
    <$> required fields "tx_hash" ["txHash"] hash
    <*> required fields "vault_id" ["vaultId"] (text 1 50)
    <*> required fields "chain_id" ["chainId"] chain
    <*> required fields "receiver" [] receiver
    <*> required fields "amount" ["assets", "assets_dec"] positive
    <*> withDefault fields ["shares", "shares_amount", "sharesAmount", "shares_dec"] .zero
      notNegative
    <*> required fields "confirmed_at" ["confirmedAt", "block_time"] moment
    <*> withDefault fields
      ["partner_tag", "partnerTag", "explicit_partner_tag", "explicitPartnerTag"] none tag

def canonical (deposit : Deposit) : Except Fault Deposit := do
  let amount ← liftDecimal deposit.amount.normalize
  let shares ← liftDecimal deposit.shares.normalize
  return { deposit with amount, shares }

def read : Json → Except Fault Deposit
  | .object fields =>
    match ofFields fields with
    | .good deposit => canonical deposit
    | .bad problems => .error (.rejected .delivery problems)
    | .offCalendar => .error .outOfRange
  | other => .error (.notAnObject .delivery other.kindName)

end Reconcile.Payload.Delivery
