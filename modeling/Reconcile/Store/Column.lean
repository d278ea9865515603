import Reconcile.Decimal.Printer
import Reconcile.Decimal.Reader
import Reconcile.Fault
import Reconcile.Json.Writer

set_option autoImplicit false

/-
What columns keep. A point in time is kept in UTC, so that the order of columns is the order of
instants. A decimal is kept in canonical form: as a plain text where the database has no decimals,
as a number where it has. Metadata are kept as a JSON text.
-/
namespace Reconcile

/-- The databases that tables can live in. -/
inductive Dialect
  | sqlite
  | postgresql
  deriving DecidableEq, Inhabited, Repr

namespace Column

/-- A point in time on its way into a column. One database keeps clocks without a zone. -/
def bindMoment (dialect : Dialect) (t : Timestamp) : Except Fault Timestamp := do
  if t.isNaive then .error .naiveColumn
  let utc ← liftClock t.toUtc?
  match dialect with
  | .sqlite => return { utc with offset := none }
  | .postgresql => return utc

def readMoment (kept : Timestamp) : Except Fault Timestamp :=
  if kept.isNaive then .ok (.utc kept.wall) else liftClock kept.toUtc?

inductive Kept
  | text (written : String)
  | number (value : Decimal)
  deriving DecidableEq, Inhabited, Repr

def bindDecimal (dialect : Dialect) (value : Decimal) : Except Decimal.Fault Kept :=
  match dialect with
  | .sqlite => value.format.map .text
  | .postgresql => .ok (.number value)

def readDecimal : Kept → Except Decimal.Fault Decimal
  | .text written => do (← Decimal.read written).normalize
  | .number value => value.normalize

/-- How many arrays and objects may stand inside one another in a column. The calls that are open
at the time count towards the same limit, so the number holds only roughly and nothing may rest on
it. -/
@[irreducible] def nestingLimit : Nat := 950

/-- Metadata on their way into a column. If there are none, a null is kept. -/
def bindMetadata (fields : Json.Fields) : Except Fault String :=
  let value : Json := if fields.isEmpty then .null else .object fields
  if value.isWritable nestingLimit then .ok value.write else .error .unstorable

def readMetadata (written : String) : Except Fault Json.Fields := do
  match ← liftJson (Json.read nestingLimit written) with
  | .object fields => return fields
  | _ => return []

/-- The form in which a point in time is found in a column later. -/
def moment (t : Timestamp) : Except Fault Timestamp :=
  if t.isNaive then .error .unstorable
  else
    match t.toUtc? with
    | .ok utc => .ok utc
    | .error _ => .error .unstorable

/-- The form in which a decimal is found in a column later. -/
def decimal (value : Decimal) : Except Fault Decimal :=
  match value.normalize with
  | .ok canonical => .ok canonical
  | .error _ => .error .unstorable

def decimal? : Option Decimal → Except Fault (Option Decimal)
  | some value => (decimal value).map some
  | none => .ok none

/-- The form in which metadata are found in a column later. -/
def metadata (fields : Json.Fields) : Except Fault Json.Fields := do
  readMetadata (← bindMetadata fields)

/-- The first whole number that is too large for 64 bits. -/
def wordLimit : Int := 9223372036854775808

/-- Whole numbers are kept in 64 bits. -/
def word (n : Int) : Except Fault Int :=
  if -wordLimit ≤ n ∧ n < wordLimit then .ok n else .error .outOfRange

end Column

end Reconcile
