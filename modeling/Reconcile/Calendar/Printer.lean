import Reconcile.Calendar.Timestamp

set_option autoImplicit false

/-
Written points in time: year, month and day, hour, minute and second with leading zeros, a
fraction of six digits unless it is zero, and the offset of the clock if it has one.
-/
namespace Reconcile.Timestamp

/-- A number with zeros in front, up to a width. -/
def padded (width : Nat) (n : Int) : String :=
  let digits := Nat.toDigits 10 n.natAbs
  String.ofList (List.replicate (width - digits.length) '0' ++ digits)

def dateText (date : Calendar.Date) : String :=
  padded 4 date.year ++ "-" ++ padded 2 date.month ++ "-" ++ padded 2 date.day

/-- The time of day, in microseconds from midnight. -/
def timeText (micros : Int) : String :=
  let seconds := micros / second
  let fraction := micros % second
  padded 2 (seconds / 3600) ++ ":" ++ padded 2 (seconds / 60 % 60) ++ ":" ++
    padded 2 (seconds % 60) ++ (if fraction = 0 then "" else "." ++ padded 6 fraction)

def offsetText (seconds : Int) : String :=
  let size := (seconds.natAbs : Int)
  (if seconds < 0 then "-" else "+") ++ padded 2 (size / 3600) ++ ":" ++
    padded 2 (size / 60 % 60) ++ (if size % 60 = 0 then "" else ":" ++ padded 2 (size % 60))

/-- Date and time with a mark between them. -/
def textWith (mark : String) (t : Timestamp) : String :=
  dateText (.ofDays (t.wall / day)) ++ mark ++ timeText (t.wall % day) ++
    (t.offset.map offsetText).getD ""

/-- The form with a T between date and time. -/
def text (t : Timestamp) : String := t.textWith "T"

/-- The form with a blank between date and time. -/
def spacedText (t : Timestamp) : String := t.textWith " "

end Reconcile.Timestamp
