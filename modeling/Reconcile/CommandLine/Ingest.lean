import Reconcile.Engine.Deliver
import Reconcile.Json.Reader

set_option autoImplicit false

/-
Ingesting a file of deliveries, one on each line. A line that is no delivery is counted and
skipped.
-/
namespace Reconcile.CommandLine

/-- A text cut at its line ends, which may be written in any of three ways. -/
def splitLines (line : List Char) : List Char → List (List Char)
  | [] => if line.isEmpty then [] else [line.reverse]
  | '\r' :: '\n' :: rest => line.reverse :: splitLines [] rest
  | '\r' :: rest => line.reverse :: splitLines [] rest
  | '\n' :: rest => line.reverse :: splitLines [] rest
  | c :: rest => splitLines (c :: line) rest

def linesOf (text : String) : List String := (splitLines [] text.toList).map String.ofList

/-- What became of the lines. -/
structure Counts where
  attributed : Nat
  unattributed : Nat
  rejected : Nat
  deriving DecidableEq, Inhabited, Repr

def Counts.toJson (counts : Counts) : Json :=
  .object [("attributed", .int counts.attributed), ("unattributed", .int counts.unattributed),
    ("rejected", .int counts.rejected)]

/-- Reads the JSON value of a text, up to a depth. -/
def readJson (depth : Nat) (text : String) : Except Fault Json := liftJson (Json.read depth text)

def deliverLine (depth : Nat) (engine : Engine) (now : Timestamp) (line : String) :
    Outcome (Option Attribution) :=
  match readJson depth line with
  | .error fault => engine.refuse fault
  | .ok payload => engine.deliver payload now .absent

/-- Delivers the deposits of all lines. A failure that is no rejection ends the reading. -/
def ingest (depth : Nat) (now : Timestamp) : List String → Counts → Engine → Outcome Counts
  | [], counts, engine => ⟨.ok counts, engine, []⟩
  | line :: rest, counts, engine =>
    let line := Text.strip line
    if line.isEmpty then ingest depth now rest counts engine
    else
      let outcome := deliverLine depth engine now line
      match outcome.result with
      | .error fault =>
        if fault.isRejection then
          let others :=
            ingest depth now rest { counts with rejected := counts.rejected + 1 } outcome.engine
          { others with events := outcome.events ++ others.events }
        else ⟨.error fault, outcome.engine, outcome.events⟩
      | .ok found =>
        let counts := match found with
          | some _ => { counts with attributed := counts.attributed + 1 }
          | none => { counts with unattributed := counts.unattributed + 1 }
        let others := ingest depth now rest counts outcome.engine
        { others with events := outcome.events ++ others.events }

/-- Whether some line reaches the tables. If it does not, they need not be there. -/
def readsTables (depth : Nat) : List String → Bool
  | [] => false
  | line :: rest =>
    let line := Text.strip line
    if line.isEmpty then readsTables depth rest
    else
      match readJson depth line >>= Payload.Delivery.read with
      | .ok _ => true
      | .error fault => fault.isRejection && readsTables depth rest

end Reconcile.CommandLine
