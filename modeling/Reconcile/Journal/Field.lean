import Reconcile.Binary64.Shortest
import Reconcile.Calendar.Printer
import Reconcile.Decimal.Printer
import Reconcile.Json.Basic
import Reconcile.Text.Quoted

set_option autoImplicit false

/-
Fields of log records. Decimals and points in time are written as texts, digit for digit.
-/
namespace Reconcile.Journal

inductive Field
  | plain (value : Json)
  | decimal (value : Decimal)
  | moment (value : Timestamp)
  deriving Inhabited

def Field.toJson : Field → Json
  | .plain value => value
  | .decimal value => .string value.scientificText
  | .moment value => .string value.text

/-- A string in quotes. A half without its partner has no visible form. -/
def quotedString : Json.Str → String
  | .text value => Text.quoted value
  | .garbled points _ =>
    let mark := Text.quoteMark (points.map Char.ofNat)
    let quoted := points.flatMap fun point =>
      if Json.isHalf point then Text.codeEscape point else Text.quotedChar mark (Char.ofNat point)
    String.ofList (mark :: quoted ++ [mark])

mutual

/-- A value as it appears inside a message: texts in quotes, names for the constants. -/
def shownInside : Json → String
  | .null => "None"
  | .bool value => if value then "True" else "False"
  | .int value => toString value
  | .double value => value.text
  | .string value => quotedString value
  | .array items => "[" ++ ", ".intercalate (shownItems items) ++ "]"
  | .object fields => "\x7b" ++ ", ".intercalate (shownFields fields) ++ "\x7d"

def shownItems : List Json → List String
  | [] => []
  | item :: rest => shownInside item :: shownItems rest

def shownFields : Json.Fields → List String
  | [] => []
  | (name, value) :: rest => (quotedString name ++ ": " ++ shownInside value) :: shownFields rest

end

/-- A field as a message: a text stands for itself. -/
def Field.shown : Field → Json.Str
  | .plain (.string value) => value
  | .plain value => .text (shownInside value)
  | .decimal value => .text value.scientificText
  | .moment value => .text value.spacedText

end Reconcile.Journal
