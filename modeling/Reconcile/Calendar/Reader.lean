import Reconcile.Calendar.Timestamp
import Reconcile.Decimal.Reader

set_option autoImplicit false

/-
Reading a date, or a date and a time. The time has hours and minutes, then seconds and a fraction
of at most nine digits if it is written that finely; digits of a fraction below the microsecond
are dropped. An offset is Z or a sign with hours and minutes.
-/
namespace Reconcile.Calendar

def takeNumber (width : Nat) (cs : List Char) : Option (Int × List Char) := do
  let digits ← (cs.take width).mapM Text.asciiDigit?
  if digits.length = width then some (Decimal.ofDigits digits, cs.drop width) else none

def takeMark (allowed : List Char) : List Char → Option (List Char)
  | c :: rest => if allowed.contains c then some rest else none
  | [] => none

/-- A date that is on the calendar; year 0 is one here. -/
def takeDate (cs : List Char) : Option (Date × List Char) := do
  let (year, rest) ← takeNumber 4 cs
  let rest ← takeMark ['-'] rest
  let (month, rest) ← takeNumber 2 rest
  let rest ← takeMark ['-'] rest
  let (day, rest) ← takeNumber 2 rest
  let date : Date := ⟨year, month, day⟩
  if date.valid then some (date, rest) else none

/-- A fraction of a second in microseconds, if there is one. -/
def takeFraction (cs : List Char) : Option (Int × List Char) :=
  match takeMark ['.', ','] cs with
  | none => some (0, cs)
  | some rest =>
    let (digits, rest) := Decimal.takeDigits rest
    if digits.isEmpty || 9 < digits.length then none
    else some (Decimal.ofDigits (digits ++ List.replicate (9 - digits.length) 0) / 1000, rest)

/-- A time of day in microseconds from midnight. -/
def takeTime (cs : List Char) : Option (Int × List Char) := do
  let (hour, rest) ← takeNumber 2 cs
  let rest ← takeMark [':'] rest
  let (minute, rest) ← takeNumber 2 rest
  let (seconds, micros, rest) ← match takeMark [':'] rest with
    | none => some (0, 0, rest)
    | some rest => do
      let (seconds, rest) ← takeNumber 2 rest
      let (micros, rest) ← takeFraction rest
      some (seconds, micros, rest)
  if hour ≤ 23 ∧ minute ≤ 59 ∧ seconds ≤ 59 then
    some (((hour * 60 + minute) * 60 + seconds) * Timestamp.second + micros, rest)
  else none

/-- Hours and minutes of an offset, with or without a colon, in seconds. -/
def readOffsetSize (cs : List Char) : Option Int := do
  let (hours, rest) ← takeNumber 2 cs
  let (minutes, rest) ← takeNumber 2 ((takeMark [':'] rest).getD rest)
  if rest.isEmpty && hours ≤ 23 && minutes ≤ 59 then some ((hours * 60 + minutes) * 60) else none

/-- The offset that ends a time; none if nothing is left of the text. -/
def readOffset : List Char → Option (Option Int)
  | [] => some none
  | ['Z'] => some (some 0)
  | ['z'] => some (some 0)
  | sign :: rest =>
    if sign = '+' then (readOffsetSize rest).map some
    else if sign = '-' ∨ sign = '\u2212' then (readOffsetSize rest).map fun size => some (-size)
    else none

/-- The point in time that a text names. A date alone stands for midnight without a zone. The
year may be 0, which no clock shows. -/
def read? (text : String) : Option Timestamp := do
  let (date, rest) ← takeDate text.toList
  match rest with
  | [] => some ⟨date.toDays * Timestamp.day, none⟩
  | _ =>
    let rest ← takeMark ['T', 't', ' ', '_'] rest
    let (micros, rest) ← takeTime rest
    let offset ← readOffset rest
    some ⟨date.toDays * Timestamp.day + micros, offset⟩

end Reconcile.Calendar
