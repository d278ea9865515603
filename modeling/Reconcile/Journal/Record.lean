import Reconcile.Journal.Field

set_option autoImplicit false

/-
Log records. Every record has a time stamp, the kind of its event and a message; what the writer
of the record did not give is added.
-/
namespace Reconcile.Journal

/-- The fields of a record in the order in which they were given. -/
abbrev Record : Type := List (String × Field)

namespace Record

def has (record : Record) (name : String) : Bool := record.any (·.1 = name)

def get? (record : Record) (name : String) : Option Field :=
  (record.find? (·.1 = name)).map (·.2)

/-- Adds a field unless it is there. -/
def addNew (record : Record) (name : String) (value : Field) : Record :=
  if record.has name then record else record ++ [(name, value)]

def stamp (clock : String) (record : Record) : Record :=
  record.addNew "timestamp" (.plain (.string clock))

/-- Calls the event of a record by its kind, unless a kind is given too. -/
def nameEvent (record : Record) : Record :=
  match record.get? "event" with
  | some event =>
    if record.has "event_type" then record
    else record.filter (·.1 ≠ "event") ++ [("event_type", event)]
  | none => record

/-- Adds a message that repeats the kind of the event. -/
def addMessage (record : Record) : Record :=
  match record.get? "event_type" with
  | some event => record.addNew "message" (.plain (.string event.shown))
  | none => record

/-- The record as it is written. -/
def finish (clock : String) (record : Record) : Json :=
  .object (((record.stamp clock).nameEvent.addMessage).map fun field =>
    (field.1, field.2.toJson))

end Record

end Reconcile.Journal
