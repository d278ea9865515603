import Reconcile.Calendar.Printer
import Reconcile.Counters
import Reconcile.Engine.Sweep
import Reconcile.Engine.Views

set_option autoImplicit false

/-
The written forms of intents, deposits and attributions. Amounts are texts in plain form, points in
time are texts with their offset.
-/
namespace Reconcile

def decimalJson (value : Decimal) : Except Fault Json :=
  liftDecimal (value.format.map .ofString)

def decimalJson? : Option Decimal → Except Fault Json
  | some value => decimalJson value
  | none => .ok .null

def momentJson (t : Timestamp) : Json := .string t.text

namespace Intent

def toFields (intent : Intent) : Except Fault (Json.Fields) := do
  return [
    ("intent_id", .string intent.id), ("partner_id", .string intent.partner),
    ("vault_id", .string intent.bucket.vault), ("chain_id", .int intent.bucket.chain),
    ("receiver", .string intent.bucket.receiver), ("amount", ← decimalJson intent.amount),
    ("created_at", momentJson intent.created), ("expires_at", momentJson intent.expires),
    ("metadata", .object intent.metadata), ("status", .string intent.status.name)]

def toJson (intent : Intent) : Except Fault Json := intent.toFields.map .object

end Intent

namespace IntentView

/-- An intent; if an attribution links it, also the transaction and how sure the match is. -/
def toJson (view : IntentView) : Except Fault Json := do
  let fields ← view.intent.toFields
  match view.attribution with
  | none => return .object fields
  | some attribution =>
    let more : Json.Fields := [
      ("matched_tx_hash", .string attribution.txHash),
      ("confidence", ← decimalJson attribution.confidence)]
    return .object (fields ++ more)

end IntentView

namespace Deposit

def toFields (deposit : Deposit) : Except Fault (Json.Fields) := do
  return [
    ("tx_hash", .string deposit.txHash), ("vault_id", .string deposit.bucket.vault),
    ("chain_id", .int deposit.bucket.chain), ("receiver", .string deposit.bucket.receiver),
    ("amount", ← decimalJson deposit.amount), ("shares", ← decimalJson deposit.shares),
    ("confirmed_at", momentJson deposit.confirmed), ("partner_tag", .ofString? deposit.tag)]

def toJson (deposit : Deposit) : Except Fault Json := deposit.toFields.map .object

end Deposit

namespace Observed

def toJson (row : Observed) : Except Fault Json := do
  let more : Json.Fields := [("observed_at", momentJson row.observed)]
  return .object ((← row.deposit.toFields) ++ more)

end Observed

namespace Attribution

def toFields (attribution : Attribution) : Except Fault (Json.Fields) := do
  return [
    ("tx_hash", .string attribution.txHash), ("intent_id", .ofString? attribution.intent),
    ("partner_id", .ofString? attribution.partner), ("source", .string attribution.source.name),
    ("confidence", ← decimalJson attribution.confidence),
    ("assets", ← decimalJson attribution.assets), ("shares", ← decimalJson? attribution.shares),
    ("created_at", momentJson attribution.created)]

def toJson (attribution : Attribution) : Except Fault Json := attribution.toFields.map .object

end Attribution

namespace SweepReport

def toJson (report : SweepReport) : Json :=
  .object [
    ("now", momentJson report.now),
    ("expired_intents", .array (report.expired.map .ofString)),
    ("flagged_deposits", .array (report.flagged.map .ofString))]

end SweepReport

namespace Store

def toJson (store : Store) : Except Fault Json := do
  return .object [
    ("intents", .array (← store.intents.mapM Intent.toJson)),
    ("observed", .array (← store.observed.mapM Observed.toJson)),
    ("attributions", .array (← store.attributions.mapM Attribution.toJson))]

end Store

namespace Tally

def toJson (name : String) (tally : Tally) : Json :=
  let label := tally.label
  let source : Json.Fields := match label.source with
    | some source => [("source", .string source.name)]
    | none => []
  let labels : Json.Fields := [
    ("vault_id", .string label.vault), ("chain_id", .string (toString label.chain)),
    ("partner_id", .string label.partner)]
  .object [
    ("name", .string name), ("labels", .object (labels ++ source)), ("value", .int tally.count)]

end Tally

namespace Counters

def toJson (counters : Counters) : Json :=
  .array (
    (tallies counters.created).map (·.toJson "deposit_intents_created_total") ++
    (tallies counters.matched).map (·.toJson "deposit_intents_matched_total"))

end Counters

namespace Policy

def toJson (policy : Policy) : Except Fault Json := do
  return .object [
    ("amount_tolerance_bps", .int policy.toleranceBps),
    ("amount_weight", ← decimalJson policy.amountWeight),
    ("time_weight", ← decimalJson policy.timeWeight),
    ("tie_score_delta", ← decimalJson policy.tieDelta),
    ("ambiguous_confidence_cap", ← decimalJson policy.ambiguousCap),
    ("max_inferred_confidence", ← decimalJson policy.inferredCap),
    ("amount_tolerance", ← decimalJson (← liftDecimal policy.tolerance))]

end Policy

namespace Settings

def toJson (settings : Settings) : Except Fault Json := do
  return .object [
    ("intent_ttl_minutes", .int settings.ttlMinutes),
    ("matching", ← settings.matching.toJson),
    ("grace_period_sec", .int settings.sweep.graceSeconds),
    ("batch_size", .int settings.sweep.batch),
    ("interval_sec", .string settings.sweep.intervalSeconds.text)]

end Settings

end Reconcile
