import Reconcile.Calendar.Date

set_option autoImplicit false

/-
Points in time as a clock shows them: microseconds of the years 1 to 9999 and, if the zone is
known, how far the clock is ahead of UTC. Two points can be compared only if the zone is known of
both or of neither; what counts then is the instant, not what the clocks show.
-/
namespace Reconcile

/-- Microseconds since the start of 1970 on the clock, and the seconds it is ahead of UTC. -/
structure Timestamp where
  wall : Int
  offset : Option Int
  deriving DecidableEq, Inhabited, Repr

namespace Timestamp

inductive Fault
  | mixedClocks
  | outOfRange
  deriving DecidableEq, Inhabited, Repr

def second : Int := 1000000

def minute : Int := 60 * second

def day : Int := 86400 * second

/-- The start of year 1. -/
def firstWall : Int := -62135596800 * second

/-- The end of year 9999. -/
def lastWall : Int := 253402300800 * second - 1

def onCalendar (wall : Int) : Bool := firstWall ≤ wall && wall ≤ lastWall

def isNaive (t : Timestamp) : Bool := t.offset.isNone

/-- Microseconds from the start of 1970 to the instant. A clock without a zone is read as it is. -/
def instant (t : Timestamp) : Int := t.wall - t.offset.getD 0 * second

def sameKind (a b : Timestamp) : Bool := a.isNaive == b.isNaive

def compare? (a b : Timestamp) : Except Fault Ordering :=
  if a.sameKind b then .ok (compare a.instant b.instant) else .error .mixedClocks

/-- Whether both stand for one instant; points that cannot be compared do not. -/
def same (a b : Timestamp) : Bool := a.sameKind b && a.instant == b.instant

/-- Microseconds from `b` to `a`. -/
def minus? (a b : Timestamp) : Except Fault Int :=
  if a.sameKind b then .ok (a.instant - b.instant) else .error .mixedClocks

/-- The clock moved on, in the same zone. -/
def shift? (t : Timestamp) (micros : Int) : Except Fault Timestamp :=
  if onCalendar (t.wall + micros) then .ok ⟨t.wall + micros, t.offset⟩ else .error .outOfRange

/-- A clock in UTC that shows an instant. -/
def utc (micros : Int) : Timestamp := ⟨micros, some 0⟩

/-- The same instant on a clock in UTC. A clock without a zone is taken to be one. -/
def toUtc? (t : Timestamp) : Except Fault Timestamp :=
  if onCalendar t.instant then .ok (utc t.instant) else .error .outOfRange

end Timestamp

/-- A length of time in microseconds. -/
structure Duration where
  micros : Int
  deriving DecidableEq, Inhabited, Repr

namespace Duration

/-- Days that a length of time may have. -/
def dayLimit : Int := 999999999

/-- A length of whole seconds, if it is not too long. -/
def ofSeconds? (seconds : Int) : Except Timestamp.Fault Duration :=
  let days := seconds / 86400
  if -dayLimit ≤ days ∧ days ≤ dayLimit then .ok ⟨seconds * Timestamp.second⟩
  else .error .outOfRange

def ofMinutes? (minutes : Int) : Except Timestamp.Fault Duration := ofSeconds? (minutes * 60)

end Duration

end Reconcile
