import Reconcile.Binary64.Shortest
import Reconcile.Json.Basic
import Reconcile.Numeral.Reader
import Reconcile.Text.Hex

set_option autoImplicit false

/-
Writing JSON text on one line: a blank after each comma and colon, and every code point that is not
printable ASCII as an escape. An object is written with its fields in order, or in the order of
their names.
-/
namespace Reconcile.Json

def unitEscape (unit : Nat) : List Char := '\\' :: 'u' :: Text.hexDigits 4 unit

def escapePoint (point : Nat) : List Char :=
  match point with
  | 0x22 => ['\\', '"']
  | 0x5C => ['\\', '\\']
  | 0x0A => ['\\', 'n']
  | 0x0D => ['\\', 'r']
  | 0x09 => ['\\', 't']
  | 0x08 => ['\\', 'b']
  | 0x0C => ['\\', 'f']
  | point =>
    if 32 ≤ point ∧ point < 127 then [Char.ofNat point]
    else if point < 0x10000 then unitEscape point
    else
      unitEscape (0xD800 + (point - 0x10000) / 1024) ++
        unitEscape (0xDC00 + (point - 0x10000) % 1024)

def quote (value : Str) : List Char := '"' :: value.points.flatMap escapePoint ++ ['"']

def intText (n : Int) : String :=
  Decimal.minus (n < 0) ++ String.ofList (Decimal.digitsOf n.natAbs)

/-- A number with a point; the values that are no finite number have names. -/
def doubleText : Binary64 → String
  | .nan => "NaN"
  | .infinite s => if s then "-Infinity" else "Infinity"
  | x => x.text

mutual

def chars : Json → List Char
  | .null => "null".toList
  | .bool value => (if value then "true" else "false").toList
  | .int value => (intText value).toList
  | .double value => (doubleText value).toList
  | .string value => quote value
  | .array items => '[' :: itemChars items ++ [']']
  | .object fields => '{' :: fieldChars fields ++ ['}']

def itemChars : List Json → List Char
  | [] => []
  | [item] => item.chars
  | item :: rest => item.chars ++ ',' :: ' ' :: itemChars rest

def fieldChars : Fields → List Char
  | [] => []
  | [(name, value)] => quote name ++ ':' :: ' ' :: value.chars
  | (name, value) :: rest =>
    quote name ++ ':' :: ' ' :: value.chars ++ ',' :: ' ' :: fieldChars rest

end

def write (value : Json) : String := String.ofList value.chars

/-- Whether a part of a value is no whole number of too many digits. -/
def isShort : Json → Bool
  | .int n => Decimal.digitCount n.natAbs ≤ Numeral.digitLimit
  | _ => true

/-- Whether a value can be written: no more than `limit` arrays and objects stand inside one
another, and no whole number is too long. -/
def isWritable (limit : Nat) (value : Json) : Bool :=
  value.depth ≤ limit && value.parts.all isShort

mutual

/-- The value with all fields in the order of their names. -/
def sorted : Json → Json
  | .array items => .array (sortedItems items)
  | .object fields => .object ((sortedFields fields).mergeSort fun a b => a.1.points ≤ b.1.points)
  | value => value

def sortedItems : List Json → List Json
  | [] => []
  | item :: rest => item.sorted :: sortedItems rest

def sortedFields : Fields → Fields
  | [] => []
  | (name, value) :: rest => (name, value.sorted) :: sortedFields rest

end

/-- The text of a value with all fields in the order of their names. -/
def render (value : Json) : String := value.sorted.write

end Reconcile.Json
