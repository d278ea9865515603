import Reconcile.Calendar.Reader
import Reconcile.Decimal.Reader
import Reconcile.Report

set_option autoImplicit false

/-
Tables read back from their written form. A text that is no such form is refused.
-/
namespace Reconcile.Archive

def textOf? : Json → Option String
  | .string (.text text) => some text
  | _ => none

def itemsOf? : Json → Option (List Json)
  | .array items => some items
  | _ => none

def fieldsOf? : Json → Option (Json.Fields)
  | .object fields => some fields
  | _ => none

def text? (fields : Json.Fields) (name : String) : Option String :=
  (Json.field? fields name).bind textOf?

def whole? (fields : Json.Fields) (name : String) : Option Int :=
  match Json.field? fields name with
  | some (.int n) => some n
  | _ => none

def decimal? (fields : Json.Fields) (name : String) : Option Decimal := do
  let read ← Decimal.read? (← text? fields name)
  read.normalize.toOption

def optionalDecimal? (fields : Json.Fields) (name : String) : Option (Option Decimal) :=
  match Json.field? fields name with
  | some .null => some none
  | _ => (decimal? fields name).map some

def moment? (fields : Json.Fields) (name : String) : Option Timestamp := do
  Calendar.read? (← text? fields name)

def bucket? (fields : Json.Fields) : Option Bucket := do
  return ⟨← text? fields "vault_id", ← whole? fields "chain_id", ← text? fields "receiver"⟩

def status? : String → Option Status
  | "pending" => some .pending
  | "matched" => some .matched
  | "expired" => some .expired
  | "orphan" => some .orphan
  | _ => none

def source? : String → Option Source
  | "explicit" => some .explicit
  | "inferred" => some .inferred
  | _ => none

def intent? (row : Json) : Option Intent := do
  let fields ← fieldsOf? row
  return { id := ← text? fields "intent_id", partner := ← text? fields "partner_id",
           bucket := ← bucket? fields, amount := ← decimal? fields "amount",
           created := ← moment? fields "created_at", expires := ← moment? fields "expires_at",
           metadata := ← (Json.field? fields "metadata").bind fieldsOf?,
           status := ← (← text? fields "status") |> status? }

def observed? (row : Json) : Option Observed := do
  let fields ← fieldsOf? row
  let deposit : Deposit :=
    { txHash := ← text? fields "tx_hash", bucket := ← bucket? fields,
      amount := ← decimal? fields "amount", shares := ← decimal? fields "shares",
      confirmed := ← moment? fields "confirmed_at", tag := text? fields "partner_tag" }
  return ⟨deposit, ← moment? fields "observed_at"⟩

def attribution? (row : Json) : Option Attribution := do
  let fields ← fieldsOf? row
  return { txHash := ← text? fields "tx_hash", intent := text? fields "intent_id",
           partner := text? fields "partner_id",
           source := ← (← text? fields "source") |> source?,
           confidence := ← decimal? fields "confidence", assets := ← decimal? fields "assets",
           shares := ← optionalDecimal? fields "shares", created := ← moment? fields "created_at" }

def rows? {α : Type} (fields : Json.Fields) (name : String) (row? : Json → Option α) :
    Option (List α) := do
  (← (Json.field? fields name).bind itemsOf?).mapM row?

def store? (value : Json) : Option Store := do
  let fields ← fieldsOf? value
  return ⟨← rows? fields "intents" intent?, ← rows? fields "observed" observed?,
    ← rows? fields "attributions" attribution?⟩

end Reconcile.Archive
