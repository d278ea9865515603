import Reconcile.Json.Basic
import Reconcile.Decimal.Reader
import Reconcile.Numeral.Reader

set_option autoImplicit false

/-
Reading JSON text. Besides the standard, the names NaN, Infinity and -Infinity are numbers. A
number with a point or an exponent is rounded to a binary number, any other is whole. Of two
fields of one name the last counts. Control characters inside a string are errors, and so is
anything after the value but white space. Arrays and objects may stand inside one another up to a
depth.
-/
namespace Reconcile.Json

inductive ReadFault
  | malformed
  | tooManyDigits
  | tooDeep
  deriving DecidableEq, Inhabited, Repr

def isWhite (c : Char) : Bool := c = ' ' || c = '\t' || c = '\n' || c = '\r'

def skipWhite (cs : List Char) : List Char := cs.dropWhile isWhite

def hexDigit? (c : Char) : Option Nat :=
  if '0' ≤ c ∧ c ≤ '9' then some (c.toNat - 48)
  else if 'a' ≤ c ∧ c ≤ 'f' then some (c.toNat - 87)
  else if 'A' ≤ c ∧ c ≤ 'F' then some (c.toNat - 55)
  else none

def hexUnit? (a b c d : Char) : Option Nat := do
  return (((← hexDigit? a) * 16 + (← hexDigit? b)) * 16 + (← hexDigit? c)) * 16 + (← hexDigit? d)

def escaped? : Char → Option Char
  | '"' => some '"'
  | '\\' => some '\\'
  | '/' => some '/'
  | 'b' => some '\x08'
  | 'f' => some '\x0c'
  | 'n' => some '\n'
  | 'r' => some '\r'
  | 't' => some '\t'
  | _ => none

/-- The code units of a string up to its closing quote, and what follows. -/
def readUnits : List Char → Option (List Nat × List Char)
  | [] => none
  | '"' :: rest => some ([], rest)
  | '\\' :: 'u' :: a :: b :: c :: d :: rest => do
    let unit ← hexUnit? a b c d
    let (units, rest) ← readUnits rest
    return (unit :: units, rest)
  | '\\' :: mark :: rest => do
    let c ← escaped? mark
    let (units, rest) ← readUnits rest
    return (c.toNat :: units, rest)
  | c :: rest => do
    if c = '\\' || c.toNat < 32 then none
    else
      let (units, rest) ← readUnits rest
      return (c.toNat :: units, rest)

/-- Joins pairs of halves; a half without its partner stays one. -/
def joinUnits : List Nat → List Nat
  | high :: low :: rest =>
    if isHighHalf high && isLowHalf low then
      (0x10000 + (high - 0xD800) * 1024 + (low - 0xDC00)) :: joinUnits rest
    else high :: joinUnits (low :: rest)
  | units => units

def Str.ofPoints (points : List Nat) : Str :=
  if noText : isGarbled points = true then .garbled points noText
  else .text (String.ofList (points.map Char.ofNat))

/-- A string after its opening quote. -/
def readString (cs : List Char) : Except ReadFault (Str × List Char) :=
  match readUnits cs with
  | some (units, rest) => .ok (.ofPoints (joinUnits units), rest)
  | none => .error .malformed

/-- The digits after a point, if there is at least one. -/
def readFraction : List Char → Option (List Nat × List Char)
  | '.' :: rest =>
    match Decimal.takeDigits rest with
    | ([], _) => none
    | found => some found
  | _ => none

/-- An exponent, if it has at least one digit. -/
def readPower : List Char → Option (Int × List Char)
  | mark :: rest =>
    if mark = 'e' ∨ mark = 'E' then
      let (negative, rest) := Decimal.takeSign rest
      match Decimal.takeDigits rest with
      | ([], _) => none
      | (digits, rest) =>
        let n : Int := Decimal.ofDigits digits
        some (if negative then -n else n, rest)
    else none
  | [] => none

/-- A number after the digits of its whole part. -/
def readPlaces (negative : Bool) (whole : List Nat) (rest : List Char) :
    Except ReadFault (Json × List Char) :=
  let fraction := readFraction rest
  let rest := (fraction.map (·.2)).getD rest
  let power := readPower rest
  let rest := (power.map (·.2)).getD rest
  let places := (fraction.map (·.1)).getD []
  if fraction.isSome || power.isSome then
    let exponent := (power.map (·.1)).getD 0 - places.length
    .ok (.double (.ofDecimal negative (Decimal.ofDigits (whole ++ places)) exponent), rest)
  else if Numeral.digitLimit < whole.length then .error .tooManyDigits
  else
    let n : Int := Decimal.ofDigits whole
    .ok (.int (if negative then -n else n), rest)

/-- A number after its sign. -/
def readNumber (negative : Bool) (cs : List Char) : Except ReadFault (Json × List Char) :=
  match Decimal.takeDigits cs with
  | ([], _) => .error .malformed
  | (0 :: _ :: _, _) => .error .malformed
  | (whole, rest) => readPlaces negative whole rest

/-- A name of letters or a number. -/
def readAtom : List Char → Except ReadFault (Json × List Char)
  | 'n' :: 'u' :: 'l' :: 'l' :: rest => .ok (.null, rest)
  | 't' :: 'r' :: 'u' :: 'e' :: rest => .ok (.bool true, rest)
  | 'f' :: 'a' :: 'l' :: 's' :: 'e' :: rest => .ok (.bool false, rest)
  | 'N' :: 'a' :: 'N' :: rest => .ok (.double .nan, rest)
  | 'I' :: 'n' :: 'f' :: 'i' :: 'n' :: 'i' :: 't' :: 'y' :: rest =>
    .ok (.double (.infinite false), rest)
  | '-' :: 'I' :: 'n' :: 'f' :: 'i' :: 'n' :: 'i' :: 't' :: 'y' :: rest =>
    .ok (.double (.infinite true), rest)
  | '-' :: rest => readNumber true rest
  | cs => readNumber false cs

mutual

/-- A value at the head of a text. The first argument bounds the steps; the length of the text is
enough. The second one is how many more arrays and objects may be opened inside one another. -/
def readValue : Nat → Nat → List Char → Except ReadFault (Json × List Char)
  | 0, _, _ => .error .malformed
  | fuel + 1, room, cs =>
    match cs with
    | '"' :: rest => do
      let (text, rest) ← readString rest
      return (.string text, rest)
    | '[' :: rest =>
      match room with
      | 0 => .error .tooDeep
      | room + 1 =>
        match skipWhite rest with
        | ']' :: rest => .ok (.array [], rest)
        | rest => do
          let (items, rest) ← readItems fuel room rest
          return (.array items, rest)
    | '{' :: rest =>
      match room with
      | 0 => .error .tooDeep
      | room + 1 =>
        match skipWhite rest with
        | '}' :: rest => .ok (.object [], rest)
        | rest => do
          let (fields, rest) ← readFields fuel room [] rest
          return (.object fields, rest)
    | cs => readAtom cs

/-- The items of an array up to its closing bracket. -/
def readItems : Nat → Nat → List Char → Except ReadFault (List Json × List Char)
  | 0, _, _ => .error .malformed
  | fuel + 1, room, cs => do
    let (item, rest) ← readValue fuel room cs
    match skipWhite rest with
    | ']' :: rest => return ([item], rest)
    | ',' :: rest =>
      let (items, rest) ← readItems fuel room (skipWhite rest)
      return (item :: items, rest)
    | _ => .error .malformed

/-- The fields of an object up to its closing brace, added to those that came before. -/
def readFields : Nat → Nat → Fields → List Char → Except ReadFault (Fields × List Char)
  | 0, _, _, _ => .error .malformed
  | fuel + 1, room, fields, cs =>
    match cs with
    | '"' :: rest => do
      let (name, rest) ← readString rest
      match skipWhite rest with
      | ':' :: rest =>
        let (value, rest) ← readValue fuel room (skipWhite rest)
        let fields := setField fields name value
        match skipWhite rest with
        | '}' :: rest => return (fields, rest)
        | ',' :: rest => readFields fuel room fields (skipWhite rest)
        | _ => .error .malformed
      | _ => .error .malformed
    | _ => .error .malformed

end

/-- The value that a text is. No more than `depth` arrays and objects may stand inside one
another. -/
def read (depth : Nat) (text : String) : Except ReadFault Json := do
  let cs := text.toList
  let (value, rest) ← readValue (2 * cs.length + 2) depth (skipWhite cs)
  match skipWhite rest with
  | [] => return value
  | _ => .error .malformed

end Reconcile.Json
