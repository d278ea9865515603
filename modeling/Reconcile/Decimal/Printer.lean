import Reconcile.Decimal.Rounding

set_option autoImplicit false

/-
The two written forms. The plain form has no exponent and is what answers and stored columns
show, of the normalized value. The scientific form keeps the digits as they are and is what log
records and messages show.
-/
namespace Reconcile.Decimal

def minus (negative : Bool) : String := if negative then "-" else ""

def nanText (signaling : Bool) (payload : Nat) : String :=
  (if signaling then "sNaN" else "NaN") ++ (if payload = 0 then "" else toString payload)

/-- The digits of a coefficient, at least one. -/
def digitsOf (c : Nat) : List Char := Nat.toDigits 10 c

/-- Digits with a point before the last `places` of them, and a zero before the point if there
is no other digit. -/
def pointed (digits : List Char) (places : Nat) : List Char :=
  if places = 0 then digits
  else
    let padded := List.replicate (places + 1 - digits.length) '0' ++ digits
    padded.take (padded.length - places) ++ '.' :: padded.drop (padded.length - places)

/-- The form without an exponent. -/
def plainText : Decimal → String
  | .finite s c e =>
    minus s ++ String.ofList (
      if 0 ≤ e then
        if c = 0 then ['0'] else digitsOf c ++ List.replicate e.toNat '0'
      else pointed (digitsOf c) (-e).toNat)
  | .infinite s => minus s ++ "Infinity"
  | .nan s signaling payload => minus s ++ nanText signaling payload

def exponentText (e : Int) : String := (if e < 0 then "E" else "E+") ++ toString e

/-- The form that keeps the digits: positional where the exponent is not positive and the number
is not below 0.000001, with one digit before the point and an exponent otherwise. -/
def scientificText : Decimal → String
  | .finite s c e =>
    let digits := digitsOf c
    let leading : Int := e + digits.length - 1
    minus s ++
      (if e ≤ 0 ∧ -6 ≤ leading then String.ofList (pointed digits (-e).toNat)
      else String.ofList (pointed digits (digits.length - 1)) ++ exponentText leading)
  | .infinite s => minus s ++ "Infinity"
  | .nan s signaling payload => minus s ++ nanText signaling payload

/-- The plain form of the normalized value. -/
def format (value : Decimal) : Except Fault String :=
  value.normalize.map plainText

end Reconcile.Decimal
