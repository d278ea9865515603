import Reconcile.Binary64.Basic

set_option autoImplicit false

/-
JSON values. Whole numbers are kept apart from numbers with a point or an exponent, and an object
keeps its fields in the order in which their names first came. A string is a row of code points.
Most are texts, but escapes can also write half of a pair of code units where the other half is
missing, and such a string is kept although it is no text.
-/
namespace Reconcile

namespace Json

def isHighHalf (point : Nat) : Bool := 0xD800 ≤ point && point ≤ 0xDBFF

def isLowHalf (point : Nat) : Bool := 0xDC00 ≤ point && point ≤ 0xDFFF

def isHalf (point : Nat) : Bool := isHighHalf point || isLowHalf point

/-- No high half stands right before a low one; the two would be one character. -/
def unpaired : List Nat → Bool
  | first :: second :: rest => !(isHighHalf first && isLowHalf second) && unpaired (second :: rest)
  | _ => true

/-- Code points that are no text because halves stand among them. -/
def isGarbled (points : List Nat) : Bool :=
  points.all (· < 0x110000) && points.any isHalf && unpaired points

inductive Str
  | text (value : String)
  | garbled (points : List Nat) (noText : isGarbled points = true)
  deriving DecidableEq, Inhabited

instance : Coe String Str := ⟨.text⟩

def Str.points : Str → List Nat
  | .text value => value.toList.map Char.toNat
  | .garbled points _ => points

end Json

inductive Json
  | null
  | bool (value : Bool)
  | int (value : Int)
  | double (value : Binary64)
  | string (value : Json.Str)
  | array (items : List Json)
  | object (fields : List (Json.Str × Json))
  deriving Inhabited

namespace Json

/-- The fields of an object, in order. -/
abbrev Fields : Type := List (Str × Json)

/-- Sets a field; a name that is already there keeps its place and gets the new value. -/
def setField (fields : Fields) (name : Str) (value : Json) : Fields :=
  match fields with
  | [] => [(name, value)]
  | field :: rest =>
    if field.1 = name then (name, value) :: rest else field :: setField rest name value

def field? (fields : Fields) (name : Str) : Option Json :=
  (fields.find? (·.1 = name)).map (·.2)

/-- The word for the kind of a value in messages. -/
def kindName : Json → String
  | .null => "NoneType"
  | .bool _ => "bool"
  | .int _ => "int"
  | .double _ => "float"
  | .string _ => "str"
  | .array _ => "list"
  | .object _ => "dict"

def ofString (text : String) : Json := .string text

def ofString? : Option String → Json
  | some text => .ofString text
  | none => .null

mutual

/-- A value and all values inside it. -/
def parts : Json → List Json
  | .array items => .array items :: itemParts items
  | .object fields => .object fields :: fieldParts fields
  | value => [value]

def itemParts : List Json → List Json
  | [] => []
  | item :: rest => item.parts ++ itemParts rest

def fieldParts : Fields → List Json
  | [] => []
  | (_, value) :: rest => value.parts ++ fieldParts rest

end

mutual

/-- How many arrays and objects stand inside one another. -/
def depth : Json → Nat
  | .array items => deepestItem items + 1
  | .object fields => deepestField fields + 1
  | _ => 0

def deepestItem : List Json → Nat
  | [] => 0
  | item :: rest => max item.depth (deepestItem rest)

def deepestField : Fields → Nat
  | [] => 0
  | (_, value) :: rest => max value.depth (deepestField rest)

end

end Json

end Reconcile
