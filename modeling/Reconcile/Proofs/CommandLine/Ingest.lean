import Reconcile.CommandLine.Command
import Reconcile.Proofs.Engine.Failing
import Reconcile.Proofs.Json.Values

set_option autoImplicit false

/-
Ingesting lines. A line that is rejected is counted and skipped, but a delivery that fails in
another way ends the reading. So an ingest reads all lines exactly if none of them asks for such a
delivery by the time it is reached. In any case the tables are what the deliveries leave that the
lines ask for, as far as they were read.
-/
namespace Reconcile.CommandLine

def written (lines : List String) : List String := (lines.map Text.strip).filter (!·.isEmpty)

/-- Whether a text is no delivery, in a way that is reported to the one who wrote it. -/
def rejects (depth : Nat) (text : String) : Bool :=
  match readJson depth text >>= Payload.Delivery.read with
  | .ok _ => false
  | .error fault => fault.isRejection

/-- The delivery that a text asks for unless it is rejected. -/
def delivery? (depth : Nat) (now : Timestamp) (text : String) : Option Operation :=
  if rejects depth text then none
  else (readJson depth text).toOption.map fun payload => .deliver (.payload payload) now

/-- The deliveries that texts ask for, apart from those that are rejected. -/
def deliveries (depth : Nat) (now : Timestamp) (texts : List String) : List Operation :=
  texts.filterMap (delivery? depth now)

namespace Counts

def total (counts : Counts) : Nat := counts.attributed + counts.unattributed + counts.rejected

/-- Each of the texts has been counted once, and as rejected if it is. -/
structure Adds (depth : Nat) (before : Counts) (texts : List String) (after : Counts) : Prop where
  total : after.total = before.total + texts.length
  rejected : after.rejected = before.rejected + texts.countP (rejects depth)

theorem Adds.nil {depth : Nat} (counts : Counts) : counts.Adds depth [] counts := ⟨rfl, rfl⟩

theorem Adds.cons {depth : Nat} {text : String} {texts : List String} {before middle after : Counts}
    (first : before.Adds depth [text] middle) (rest : middle.Adds depth texts after) :
    before.Adds depth (text :: texts) after := by
  obtain ⟨firstTotal, firstRejected⟩ := first
  obtain ⟨restTotal, restRejected⟩ := rest
  rw [List.countP_singleton] at firstRejected
  rw [List.length_singleton] at firstTotal
  refine ⟨?_, ?_⟩
  · rw [List.length_cons]
    omega
  · rw [List.countP_cons]
    omega

/-- The counts after a delivery that has returned. -/
def found (counts : Counts) : Option Attribution → Counts
  | some _ => { counts with attributed := counts.attributed + 1 }
  | none => { counts with unattributed := counts.unattributed + 1 }

end Counts

section Written

variable {line : String} {lines : List String}

end Written

section Halts

variable {depth : Nat} {now : Timestamp} {engine : Engine} {text : String} {texts : List String}

end Halts

section Line

variable {depth : Nat} {now : Timestamp} {engine : Engine}

end Line

section Ingest

variable {depth : Nat} {now : Timestamp} {engine : Engine} {line : String}
  {lines : List String} {counts : Counts}

section Filled

variable (filled : (Text.strip line).isEmpty = false)
include filled

end Filled

end Ingest

section Lines

end Lines

section Payloads

variable {depth : Nat} {now : Timestamp} {engine : Engine}

end Payloads

section Command

variable {desk : Desk} {engine : Engine}

end Command

namespace Ingest

def payload (txHash : Json.Str) (chain : Int) : Json :=
  .object [("txHash", .string txHash), ("vaultId", .string "v"), ("chainId", .int chain),
    ("receiver", .string "0x1"), ("amount", .int 1), ("confirmedAt", .int 0)]

/-- A payload whose hash is half of a pair of code units. -/
def halved : Json := payload (.garbled [0xD800] rfl) 1

/-- A payload with a chain number of 64 bits. -/
def wide : Json := payload "0xaa" 9223372036854775808

def fitting : Json := payload "0xab" 1

/-- A blank line, one that is no JSON, one that is rejected and one that reports a deposit. -/
def readable : List String := [" ", "junk", halved.write, fitting.write]

def scene : Scene := ⟨[], .utc 0, 990, "", fun _ => none⟩

def desk : Desk := ⟨.ready .empty, 0⟩

theorem opens : desk.engine .usual = .ok (.start .usual) := rfl

end Ingest

end Reconcile.CommandLine
