import Reconcile.Decimal.Basic
import Reconcile.Text.Blank
import Reconcile.Text.Digit

set_option autoImplicit false

/-
Written decimals. Blanks around the number and every underscore are dropped, digits may be of
any script, and the number is kept exactly. A number that does not fit the widest range of
exponents has no exact form and is refused.
-/
namespace Reconcile.Decimal

/-- The greatest place of a leading digit that can be written. -/
def widestExponent : Int := 999999999999999999

/-- The lowest exponent that can be written. -/
def lowestExponent : Int := -1999999999999999997

/-- The digits at the head of a text, as values, and what follows. -/
def takeDigits : List Char → List Nat × List Char
  | [] => ([], [])
  | c :: rest =>
    match Text.asciiDigit? c with
    | some value =>
      let (more, left) := takeDigits rest
      (value :: more, left)
    | none => ([], c :: rest)

def ofDigits (digits : List Nat) : Nat := digits.foldl (fun n d => n * 10 + d) 0

def takeSign : List Char → Bool × List Char
  | '-' :: rest => (true, rest)
  | '+' :: rest => (false, rest)
  | text => (false, text)

/-- Replaces digits of other scripts by their ASCII form and drops underscores. -/
def plainDigits (cs : List Char) : List Char :=
  (cs.filter (· ≠ '_')).map fun c =>
    match Text.digit? c with
    | some value => Char.ofNat (48 + value)
    | none => c

def readExponent : List Char → Option Int
  | [] => some 0
  | mark :: rest =>
    if mark = 'e' ∨ mark = 'E' then
      let (negative, rest) := takeSign rest
      match takeDigits rest with
      | (d :: ds, []) =>
        let n : Int := ofDigits (d :: ds)
        some (if negative then -n else n)
      | _ => none
    else none

/-- A number if its digits and exponent can be kept as they are. -/
def ofParts? (negative : Bool) (c : Nat) (e : Int) : Option Decimal :=
  let leading := if c = 0 then e else e + digitCount c - 1
  if lowestExponent ≤ e ∧ leading ≤ widestExponent then some (.finite negative c e) else none

/-- Digits with an optional point and an optional exponent. -/
def readFinite (negative : Bool) (cs : List Char) : Option Decimal := do
  let (whole, rest) := takeDigits cs
  let (fraction, rest) := match rest with
    | '.' :: rest => takeDigits rest
    | rest => ([], rest)
  if whole.isEmpty && fraction.isEmpty then none
  else
    let e ← readExponent rest
    ofParts? negative (ofDigits (whole ++ fraction)) (e - fraction.length)

/-- The payload after the name of a value that is no number. -/
def readPayload (negative signaling : Bool) (cs : List Char) : Option Decimal :=
  match takeDigits cs with
  | (digits, []) => some (.nan negative signaling (ofDigits digits))
  | _ => none

/-- Reads a name that stands for a special value, after its letters were made small. -/
def readNamed (negative : Bool) : List Char → Option Decimal
  | ['i', 'n', 'f'] => some (.infinite negative)
  | ['i', 'n', 'f', 'i', 'n', 'i', 't', 'y'] => some (.infinite negative)
  | 'n' :: 'a' :: 'n' :: payload => readPayload negative false payload
  | 's' :: 'n' :: 'a' :: 'n' :: payload => readPayload negative true payload
  | _ => none

/-- The decimal that a text stands for. -/
def read? (text : String) : Option Decimal :=
  let cs := plainDigits (Text.trimBy Text.isBlank text.toList)
  let (negative, cs) := takeSign cs
  match readFinite negative cs with
  | some value => some value
  | none => readNamed negative (cs.map Char.toLower)

/-- The decimal that a text stands for; any other text is an invalid operation. -/
def read (text : String) : Except Fault Decimal :=
  match read? text with
  | some value => .ok value
  | none => .error .invalidOperation

end Reconcile.Decimal
