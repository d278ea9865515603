import Reconcile.Address
import Reconcile.Calendar.Printer
import Reconcile.Decimal.Printer
import Reconcile.Json.Reader
import Reconcile.Payload.Problem

set_option autoImplicit false

/-
Every way in which an operation fails, and what the failure says. Only the engine's own failures
have a code; a caller can mend those by changing its input.
-/
namespace Reconcile

/-- A rule of the matching policy that its values break. -/
inductive PolicyFault
  | negativeTolerance
  | negativeWeight
  | noWeight
  | capsOutOfOrder
  | capTooHigh
  deriving DecidableEq, Inhabited, Repr

def PolicyFault.message : PolicyFault → String
  | .negativeTolerance => "amount_tolerance_bps must be >= 0"
  | .negativeWeight => "weights must be >= 0"
  | .noWeight => "at least one weight must be positive"
  | .capsOutOfOrder => "confidence caps must satisfy 0 <= ambiguous cap <= max inferred < 1"
  | .capTooHigh => "ambiguous_confidence_cap must stay below 0.8"

/-- A rule on source and confidence that a decision breaks. -/
inductive DecisionFault
  | confidenceOutOfRange (confidence : Decimal)
  | weakExplicit
  | certainInferred
  | unlinkedConfidence
  deriving DecidableEq, Inhabited, Repr

def DecisionFault.message : DecisionFault → String
  | .confidenceOutOfRange confidence =>
    "confidence " ++ confidence.scientificText ++ " outside [0, 1]"
  | .weakExplicit => "explicit attribution requires a partner and confidence 1"
  | .certainInferred => "inferred attribution can not claim confidence 1"
  | .unlinkedConfidence => "inferred attribution without an intent must have confidence 0"

/-- Everything that can go wrong. -/
inductive Fault
  /-- The payload is a value other than an object. -/
  | notAnObject (form : Payload.Form) (kind : String)
  /-- Fields of the payload are missing or wrong. -/
  | rejected (form : Payload.Form) (problems : List Payload.Problem)
  /-- An intent would expire before or when it is declared. -/
  | emptyWindow (intent : String) (created expires : Timestamp)
  | duplicateIntent (intent : String)
  | intentNotFound (intent : String)
  | duplicateAttribution (txHash : String)
  | claimConflict (intent : String)
  | address (fault : Address.Fault)
  | policy (fault : PolicyFault)
  | decision (fault : DecisionFault)
  /-- A clock without a zone is bound to a column of instants. -/
  | naiveColumn
  /-- A point in time with a known zone meets one without. -/
  | mixedClocks
  /-- A point in time, a length of time or a whole number is too large for its use. -/
  | outOfRange
  | decimal (fault : Decimal.Fault)
  /-- A value has no form in its column. -/
  | unstorable
  | databaseUnavailable
  | malformedJson
  | tooManyDigits
  | tooDeep
  | fileNotFound
  /-- A URL has a user but no place where it could stand. -/
  | misplacedUser
  deriving Inhabited

namespace Fault

/-- The code of the engine's own failures. -/
def code? : Fault → Option String
  | .notAnObject .. => some "invalid_input"
  | .rejected .. => some "invalid_input"
  | .emptyWindow .. => some "invalid_window"
  | .duplicateIntent _ => some "duplicate_intent"
  | .intentNotFound _ => some "intent_not_found"
  | .duplicateAttribution _ => some "duplicate_attribution"
  | .claimConflict _ => some "claim_conflict"
  | _ => none

/-- What a failure says; none for the failures that are known by their kind alone. -/
def message? : Fault → Option String
  | .notAnObject form kind => some (form.complaint ++ "expected an object, got " ++ kind)
  | .rejected form problems =>
    some (form.complaint ++ toString problems.length ++
      (if problems.length = 1 then " validation error for " else " validation errors for ") ++
      form.name)
  | .emptyWindow intent created expires =>
    some ("intent " ++ intent ++ ": expires_at (" ++ expires.spacedText ++
      ") must be after created_at (" ++ created.spacedText ++ ")")
  | .duplicateIntent intent => some ("intent " ++ intent ++ " already exists")
  | .intentNotFound intent => some ("intent " ++ intent ++ " not found")
  | .duplicateAttribution txHash => some ("attribution for " ++ txHash ++ " already exists")
  | .claimConflict intent => some ("intent " ++ intent ++ " is no longer pending")
  | .address fault => some fault.message
  | .policy fault => some fault.message
  | .decision fault => some fault.message
  | .naiveColumn => some "naive datetime not allowed; pass a timezone-aware value"
  | _ => none

/-- Whether a delivery that fails in this way is counted as rejected and the next one is read. -/
def isRejection : Fault → Bool
  | .notAnObject .. => true
  | .rejected .. => true
  | .emptyWindow .. => true
  | .malformedJson => true
  | _ => false

def firstLine (text : String) : String := String.ofList (text.toList.takeWhile (· ≠ '\n'))

def ofClock : Timestamp.Fault → Fault
  | .mixedClocks => .mixedClocks
  | .outOfRange => .outOfRange

def ofJson : Json.ReadFault → Fault
  | .malformed => .malformedJson
  | .tooManyDigits => .tooManyDigits
  | .tooDeep => .tooDeep

end Fault

def liftDecimal {α : Type} (result : Except Decimal.Fault α) : Except Fault α :=
  result.mapError .decimal

def liftClock {α : Type} (result : Except Timestamp.Fault α) : Except Fault α :=
  result.mapError Fault.ofClock

def liftJson {α : Type} (result : Except Json.ReadFault α) : Except Fault α :=
  result.mapError Fault.ofJson

end Reconcile
