import Reconcile.Attribution
import Reconcile.Journal.Record
import Reconcile.Matching.Selection

set_option autoImplicit false

/- What the engine reports in its log, and how each event is written. -/
namespace Reconcile.Journal

inductive Level
  | debug
  | info
  | warning
  | error
  deriving DecidableEq, Inhabited, Repr

def Level.name : Level → String
  | .debug => "debug"
  | .info => "info"
  | .warning => "warning"
  | .error => "error"

inductive Event
  /-- An intent left pending. -/
  | moved (intent : String) (status : Status)
  | declared (intent : Intent)
  | orphanAsked (intent : String) (changed : Bool)
  /-- A deposit was delivered that has an attribution. -/
  | redelivered (txHash : String) (source : Source)
  /-- Another delivery of the deposit was observed at the same time. -/
  | observedTwice (txHash : String)
  /-- An intent that expected exactly this deposit was taken by another. -/
  | exactLost (txHash intent : String)
  | noCandidate (txHash : String) (attempt : Nat)
  | noEligible (txHash : String) (candidates attempt : Nat)
  | candidateClaimed (txHash : String) (selection : Matching.Selection)
  | candidateLost (txHash intent : String) (attempt : Nat)
  | recorded (attribution : Attribution)
  /-- Another has recorded an attribution of the deposit first. -/
  | absorbed (txHash : String)
  | conflicted (txHash intent : String)
  | leftOpen (deposit : Deposit)
  | attributed (attribution : Attribution)
  /-- A deposit was attributed while a sweep was under way. -/
  | sweptLate (txHash : String)
  | swept (expired flagged : Nat)
  | nothingToSweep
  deriving Inhabited

namespace Event

/-- The part of the engine that reports an event. -/
inductive Origin
  | delivery
  | registry
  | matcher
  | writer
  | service
  | sweeper
  deriving DecidableEq, Inhabited, Repr

def Origin.name : Origin → String
  | .delivery => "backend_attribution"
  | .registry => "backend_attribution.attribution_engine.registry"
  | .matcher => "backend_attribution.attribution_engine.matcher"
  | .writer => "backend_attribution.attribution_engine.writer"
  | .service => "backend_attribution.attribution_engine.service"
  | .sweeper => "backend_attribution.attribution_engine.sweeper"

def origin : Event → Origin
  | .moved .. => .registry
  | .declared _ => .service
  | .orphanAsked .. => .service
  | .redelivered .. => .delivery
  | .observedTwice _ => .service
  | .exactLost .. => .matcher
  | .noCandidate .. => .matcher
  | .noEligible .. => .matcher
  | .candidateClaimed .. => .matcher
  | .candidateLost .. => .matcher
  | .recorded _ => .writer
  | .absorbed _ => .delivery
  | .conflicted .. => .delivery
  | .leftOpen _ => .delivery
  | .attributed _ => .delivery
  | .sweptLate _ => .sweeper
  | .swept .. => .sweeper
  | .nothingToSweep => .sweeper

def level : Event → Level
  | .moved .. => .debug
  | .observedTwice _ => .debug
  | .candidateClaimed .. => .debug
  | .recorded _ => .debug
  | .sweptLate _ => .debug
  | .nothingToSweep => .debug
  | _ => .info

def name : Event → String
  | .moved .. => "intent_transition"
  | .declared _ => "intent_declared"
  | .orphanAsked .. => "intent_orphan_requested"
  | .redelivered .. => "deposit_redelivered"
  | .observedTwice _ => "deposit_observed_concurrently"
  | .exactLost .. => "explicit_intent_claim_lost"
  | .noCandidate .. => "inferred_no_candidate"
  | .noEligible .. => "inferred_no_eligible_candidate"
  | .candidateClaimed .. => "inferred_candidate_claimed"
  | .candidateLost .. => "inferred_claim_conflict"
  | .recorded _ => "attribution_written"
  | .absorbed _ => "deposit_duplicate_absorbed"
  | .conflicted .. => "deposit_claim_conflict"
  | .leftOpen _ => "deposit_unattributed"
  | .attributed _ => "deposit_attributed"
  | .sweptLate _ => "sweep_deposit_already_attributed"
  | .swept .. => "sweep_done"
  | .nothingToSweep => "sweep_nothing_to_do"

def text (value : String) : Field := .plain (.string value)

def text? (value : Option String) : Field := .plain (.ofString? value)

def count (n : Nat) : Field := .plain (.int n)

def flag (value : Bool) : Field := .plain (.bool value)

/-- What an event tells besides its kind. -/
def details : Event → Record
  | .moved intent status => [("intent_id", text intent), ("status", text status.name)]
  | .declared intent =>
    [("intent_id", text intent.id), ("partner_id", text intent.partner),
     ("vault_id", text intent.bucket.vault), ("chain_id", .plain (.int intent.bucket.chain)),
     ("receiver", text intent.bucket.receiver), ("expires_at", .moment intent.expires)]
  | .orphanAsked intent changed => [("intent_id", text intent), ("changed", flag changed)]
  | .redelivered txHash source => [("tx_hash", text txHash), ("source", text source.name)]
  | .observedTwice txHash => [("tx_hash", text txHash)]
  | .exactLost txHash intent => [("tx_hash", text txHash), ("intent_id", text intent)]
  | .noCandidate txHash attempt => [("tx_hash", text txHash), ("attempt", count attempt)]
  | .noEligible txHash candidates attempt =>
    [("tx_hash", text txHash), ("candidates", count candidates), ("attempt", count attempt)]
  | .candidateClaimed txHash selection =>
    [("tx_hash", text txHash), ("intent_id", text selection.winner.intent.id),
     ("confidence", .decimal selection.confidence), ("ambiguous", flag selection.ambiguous),
     ("eligible", count selection.eligibleCount)]
  | .candidateLost txHash intent attempt =>
    [("tx_hash", text txHash), ("intent_id", text intent), ("attempt", count attempt)]
  | .recorded attribution =>
    [("tx_hash", text attribution.txHash), ("intent_id", text? attribution.intent),
     ("source", text attribution.source.name), ("confidence", .decimal attribution.confidence)]
  | .absorbed txHash => [("tx_hash", text txHash)]
  | .conflicted txHash intent => [("tx_hash", text txHash), ("intent_id", text intent)]
  | .leftOpen deposit =>
    [("tx_hash", text deposit.txHash), ("tagged", flag deposit.partner?.isSome),
     ("vault_id", text deposit.bucket.vault), ("receiver", text deposit.bucket.receiver)]
  | .attributed attribution =>
    [("tx_hash", text attribution.txHash), ("intent_id", text? attribution.intent),
     ("partner_id", text? attribution.partner), ("source", text attribution.source.name),
     ("confidence", .decimal attribution.confidence)]
  | .sweptLate txHash => [("tx_hash", text txHash)]
  | .swept expired flagged => [("expired", count expired), ("flagged", count flagged)]
  | .nothingToSweep => []

def record (event : Event) : Record :=
  event.details ++
    [("logger", text event.origin.name), ("level", text event.level.name),
     ("event", text event.name)]

end Event

end Reconcile.Journal
