import Reconcile.Address
import Reconcile.Binary64.Shortest
import Reconcile.Calendar.Reader
import Reconcile.Decimal.Reader
import Reconcile.Json.Basic
import Reconcile.Numeral.Reader
import Reconcile.Payload.Problem

set_option autoImplicit false

/-
Reading the fields of a payload. Several names may stand for one field; the first of them that is
present supplies the value, whatever it holds. Every field is read, so that all problems are
reported at once, but an instant that leaves the calendar on the way to UTC ends the reading.
-/
namespace Reconcile.Payload

/-- A read value, or the problems found so far, or an instant off the calendar. -/
inductive Checked (α : Type)
  | good (value : α)
  | bad (problems : List Problem)
  | offCalendar
  deriving Inhabited

namespace Checked

/-- Reads two parts one after the other and keeps the problems of both. -/
def both {α β : Type} : Checked (α → β) → Checked α → Checked β
  | .offCalendar, _ => .offCalendar
  | _, .offCalendar => .offCalendar
  | .good f, .good a => .good (f a)
  | .good _, .bad problems => .bad problems
  | .bad problems, .good _ => .bad problems
  | .bad first, .bad second => .bad (first ++ second)

instance : Applicative Checked where
  pure := .good
  seq f a := both f (a ())

end Checked

/-- Why a value is not taken. -/
inductive Refusal
  | mistake (mistake : Mistake)
  | garbledNames (shown : List String)
  | offCalendar
  deriving DecidableEq, Inhabited, Repr

abbrev Reading (α : Type) : Type := Except Refusal α

def wrong {α : Type} (mistake : Mistake) : Reading α := .error (.mistake mistake)

/-- The result of reading a field that was given under a name. -/
def checked {α : Type} (name : String) : Reading α → Checked α
  | .ok value => .good value
  | .error (.mistake mistake) => .bad [⟨name, mistake⟩]
  | .error (.garbledNames shown) => .bad (shown.map fun inner => ⟨name, .garbledName inner⟩)
  | .error .offCalendar => .offCalendar

/-- The first of the names that is present, with its value. -/
def given? (fields : Json.Fields) (names : List String) : Option (String × Json) :=
  names.findSome? fun (name : String) => (Json.field? fields name).map (name, ·)

/-- A field that must be given. Its first name stands for it when it is not. -/
def required {α : Type} (fields : Json.Fields) (first : String) (others : List String)
    (read : Json → Reading α) : Checked α :=
  match given? fields (first :: others) with
  | some (name, value) => checked name (read value)
  | none => .bad [⟨first, .missing⟩]

/-- A field with a value for when it is not given. -/
def withDefault {α : Type} (fields : Json.Fields) (names : List String) (absent : α)
    (read : Json → Reading α) : Checked α :=
  match given? fields names with
  | some (name, value) => checked name (read value)
  | none => .good absent

/-- A null stands for no value. -/
def nullable {α : Type} (read : Json → Reading α) : Json → Reading (Option α)
  | .null => .ok none
  | value => (read value).map some

/-- A text without the white space around it, of a length within bounds. -/
def text (least most : Nat) : Json → Reading String
  | .string (.text written) =>
    let trimmed := Text.trim written
    if trimmed.length < least then wrong .textTooShort
    else if most < trimmed.length then wrong .textTooLong
    else .ok trimmed
  | .string (.garbled ..) => wrong .notUnicode
  | _ => wrong .notText

def receiver (value : Json) : Reading String := do
  let written ← text 1 100 value
  match Address.normalize written with
  | .ok address => .ok address
  | .error fault => wrong (.refused fault.message)

/-- Digits with single underscores between them. -/
def joinAscii : Bool → List Char → Option (List Nat)
  | afterDigit, [] => if afterDigit then some [] else none
  | afterDigit, c :: rest =>
    match Text.asciiDigit? c with
    | some digit => (joinAscii true rest).map (digit :: ·)
    | none => if afterDigit && c = '_' then joinAscii false rest else none

/-- A point and zeros after a whole number, or nothing. -/
def onlyZeros : List Char → Bool
  | [] => true
  | '.' :: zero :: rest => zero = '0' && rest.all (· = '0')
  | _ => false

/-- A whole number written in ASCII digits, with white space around and zeros after a point. -/
def wholeText? (written : String) : Reading Int :=
  let (negative, cs) := Decimal.takeSign (Text.trimBy Text.isSpace written.toList)
  let body := cs.takeWhile (· ≠ '.')
  match joinAscii false body with
  | none => wrong .unreadableWhole
  | some digits =>
    if !onlyZeros (cs.dropWhile (· ≠ '.')) then wrong .unreadableWhole
    else if Numeral.digitLimit < digits.length then wrong .wholeTooLong
    else
      let n : Int := Decimal.ofDigits digits
      .ok (if negative then -n else n)

/-- Binary numbers from here on are not taken for whole ones. -/
def wholeLimit : Nat := 9223372036854775808

/-- A whole number, also as a text, as a number with a zero fraction or as a truth value. -/
def whole : Json → Reading Int
  | .int n => .ok n
  | .bool value => .ok (if value then 1 else 0)
  | .string (.text written) => wholeText? written
  | .string (.garbled ..) => wrong .notUnicode
  | .double (.finite s m e) =>
    match (Binary64.finite s m e).whole? with
    | none => wrong .wholeWithFraction
    | some n => if n.natAbs < wholeLimit then .ok n else wrong .wholeTooLong
  | .double _ => wrong .notFinite
  | _ => wrong .notWhole

/-- A chain number, which is not negative. -/
def chain (value : Json) : Reading Int := do
  let n ← whole value
  if n < 0 then wrong .below else .ok n

/-- A finite decimal, also as a text. A binary number counts as its shortest decimal. -/
def decimal (value : Json) : Reading Decimal := do
  let read ← match value with
    | .int n => .ok (.ofInt n)
    | .double x => .ok x.toShortestDecimal
    | .string (.text written) =>
      match Decimal.read? written with
      | some read => .ok read
      | none => wrong .unreadableDecimal
    | .string (.garbled ..) => wrong .unreadableDecimal
    | _ => wrong .notDecimal
  if read.isFinite then .ok read else wrong .notFinite

def positive (value : Json) : Reading Decimal := do
  let read ← decimal value
  if read.order .zero = .gt then .ok read else wrong .notAbove

def notNegative (value : Json) : Reading Decimal := do
  let read ← decimal value
  if read.order .zero = .lt then wrong .below else .ok read

/-- Numbers up to this size count seconds, greater ones milliseconds. -/
def secondsLimit : Nat := 20000000000

/-- The instant of a whole number of seconds or milliseconds, in microseconds. -/
def wholeMicros (n : Int) : Int :=
  if n.natAbs ≤ secondsLimit then n * 1000000 else n * 1000

/-- The instant of a number with a fraction, at the nearest microsecond. -/
def binaryMicros? (x : Binary64) : Option Int := do
  let seconds := if (Binary64.ofInt secondsLimit).lt x.magnitude then x.divNat 1000 else x
  let whole ← seconds.floor?
  let micros ← ((seconds.sub (.ofInt whole)).mul (.ofInt 1000000)).roundHalfUp?
  some (whole * 1000000 + micros)

/-- An instant in UTC if it is on the calendar. -/
def momentAt? (micros : Int) : Option Timestamp :=
  if Timestamp.onCalendar micros then some (.utc micros) else none

/-- The instant that a text of digits stands for, with or without a fraction. -/
def numeralMicros? (written : String) : Option (Option Int) :=
  let (negative, cs) := Decimal.takeSign written.toList
  match Decimal.takeDigits cs with
  | (_ :: _, []) =>
    let n : Int := Decimal.ofDigits (Decimal.takeDigits cs).1
    some (some (wholeMicros (if negative then -n else n)))
  | (wholePart, '.' :: rest) =>
    match Decimal.takeDigits rest with
    | (fraction, []) =>
      if wholePart.isEmpty && fraction.isEmpty then none
      else
        let digits := Decimal.ofDigits (wholePart ++ fraction)
        some (binaryMicros? (.ofDecimal negative digits (-(fraction.length : Int))))
    | _ => none
  | _ => none

/-- Whether an instant lies in year 0, which can be written but which no clock shows. -/
def inYearZero (micros : Int) : Bool :=
  micros < Timestamp.firstWall && Timestamp.firstWall - 366 * Timestamp.day ≤ micros

/-- A point in time from a text. A clock without a zone is taken to be in UTC. -/
def momentText (written : String) : Reading Timestamp :=
  match Calendar.read? written with
  | some moment =>
    if Timestamp.onCalendar moment.wall then
      match moment.toUtc? with
      | .ok utc => .ok utc
      | .error _ => .error .offCalendar
    else wrong .momentOffCalendar
  | none =>
    match numeralMicros? written with
    | some (some micros) =>
      match momentAt? micros with
      | some moment => .ok moment
      | none => wrong (if inYearZero micros then .momentOffCalendar else .unreadableMoment)
    | _ => wrong .unreadableMoment

/-- A point in time, as a text or as a number of seconds or milliseconds since 1970. -/
def moment : Json → Reading Timestamp
  | .string (.text written) => momentText written
  | .string (.garbled ..) => wrong .notUnicode
  | .int n =>
    match momentAt? (wholeMicros n) with
    | some moment => .ok moment
    | none => wrong .momentOffCalendar
  | .double x =>
    match (binaryMicros? x).bind momentAt? with
    | some moment => .ok moment
    | none => wrong .momentOffCalendar
  | _ => wrong .notMoment

/-- What is shown of code points that are no text: three marks for each half. -/
def lossyText (points : List Nat) : String :=
  String.ofList (points.flatMap fun point =>
    if Json.isHalf point then List.replicate 3 '\ufffd' else [Char.ofNat point])

/-- The names that are no texts, as far as they can be shown. -/
def garbledNames (fields : Json.Fields) : List String :=
  fields.filterMap fun field =>
    match field.1 with
    | .text _ => none
    | .garbled points _ => some (lossyText points)

/-- The fields without the white space around their names. -/
def trimNames (fields : Json.Fields) : Json.Fields :=
  fields.foldl (fun kept field =>
    match field.1 with
    | .text name => Json.setField kept (Text.trim name) field.2
    | .garbled .. => kept) []

/-- Free fields; null stands for none. -/
def freeFields : Json → Reading Json.Fields
  | .null => .ok []
  | .object fields =>
    match garbledNames fields with
    | [] => .ok (trimNames fields)
    | shown => .error (.garbledNames shown)
  | _ => wrong .notObject

end Reconcile.Payload
