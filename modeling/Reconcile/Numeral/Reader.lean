import Reconcile.Binary64.Basic
import Reconcile.Decimal.Reader

set_option autoImplicit false

/-
Whole numbers and binary numbers as people write them in settings and options: digits of any
script, a sign, single underscores between digits, blanks around.
-/
namespace Reconcile.Numeral

/-- Digits that a written whole number may have. -/
def digitLimit : Nat := 4300

/-- Blanks around a numeral. A text of ASCII characters alone is stripped of the controls from
tab to carriage return and of spaces only. -/
def trimmed (cs : List Char) : List Char :=
  if cs.all (·.toNat < 128) then
    Text.trimBy (fun c => c = ' ' || (9 ≤ c.toNat && c.toNat ≤ 13)) cs
  else Text.trimBy Text.isBlank cs

/-- Replaces digits of other scripts by their ASCII form. -/
def plainDigits (cs : List Char) : List Char :=
  cs.map fun c =>
    match Text.digit? c with
    | some value => Char.ofNat (48 + value)
    | none => c

def isDigit (c : Char) : Bool := (Text.asciiDigit? c).isSome

/-- Drops underscores that stand between two digits; any other underscore is an error. -/
def joinDigits : Bool → List Char → Option (List Char)
  | _, [] => some []
  | afterDigit, '_' :: rest =>
    if afterDigit && (rest.head?.map isDigit).getD false then joinDigits false rest else none
  | _, c :: rest => (joinDigits (isDigit c) rest).map (c :: ·)

def int? (text : String) : Option Int := do
  let cs := plainDigits (trimmed text.toList)
  let (negative, cs) := Decimal.takeSign cs
  let digits ← joinDigits false cs
  match Decimal.takeDigits digits with
  | (d :: ds, []) =>
    if digitLimit < (d :: ds).length then none
    else
      let n : Int := Decimal.ofDigits (d :: ds)
      some (if negative then -n else n)
  | _ => none

/-- Digits with an optional point and exponent, rounded to the nearest binary number. -/
def readBinary (negative : Bool) (cs : List Char) : Option Binary64 := do
  let (whole, rest) := Decimal.takeDigits cs
  let (fraction, rest) := match rest with
    | '.' :: rest => Decimal.takeDigits rest
    | rest => ([], rest)
  if whole.isEmpty && fraction.isEmpty then none
  else
    let e ← Decimal.readExponent rest
    some (.ofDecimal negative (Decimal.ofDigits (whole ++ fraction)) (e - fraction.length))

/-- The names of the values that are no finite number, in small letters. -/
def namedBinary (negative : Bool) : List Char → Option Binary64
  | ['i', 'n', 'f'] => some (.infinite negative)
  | ['i', 'n', 'f', 'i', 'n', 'i', 't', 'y'] => some (.infinite negative)
  | ['n', 'a', 'n'] => some .nan
  | _ => none

def binary? (text : String) : Option Binary64 := do
  let cs ← joinDigits false (plainDigits (trimmed text.toList))
  let (negative, cs) := Decimal.takeSign cs
  (readBinary negative cs).orElse fun _ => namedBinary negative (cs.map Char.toLower)

end Reconcile.Numeral
