import Reconcile.Decimal.Basic
import Reconcile.HalfEven

set_option autoImplicit false

/-
Rounding. A result keeps the 28 leading digits of the exact value, and no place below
`tinyExponent`; half a unit goes to the even neighbour. A result above `maxExponent` is an
overflow, one below the last place becomes zero.
-/
namespace Reconcile.Decimal

/-- Digits that a result keeps. -/
def precision : Nat := 28

/-- The greatest place of a leading digit. -/
def maxExponent : Int := 999999

/-- The lowest place that a result has. -/
def tinyExponent : Int := -1000026

/-- `n / d * 10 ^ k` rounded to a whole number. A value far below one half is zero at once. -/
def roundShifted (n d : Nat) (k : Int) : Nat :=
  if 0 ≤ k then roundHalfEven (n * tenTo k.toNat) d
  else if digitCount n + 1 < digitCount d + (-k).toNat then 0
  else roundHalfEven n (d * tenTo (-k).toNat)

/-- Rounds `n / d * 10 ^ e` at the place `unit`, which leaves `precision` digits or one more. -/
def settle (negative : Bool) (n d : Nat) (e unit : Int) : Except Fault Decimal :=
  let rounded := roundShifted n d (e - unit)
  let (c, last) := if rounded = tenTo precision then (tenTo (precision - 1), unit + 1)
    else (rounded, unit)
  if c = 0 then .ok (.finite negative 0 0)
  else if maxExponent < last + digitCount c - 1 then .error .overflow
  else .ok (.finite negative c last)

/-- Rounds `c * 10 ^ e`. -/
def fit (negative : Bool) (c : Nat) (e : Int) : Except Fault Decimal :=
  settle negative c 1 e (max tinyExponent (max e (e + digitCount c - precision)))

/-- The whole part of `n / d * 10 ^ k`. -/
def wholeShifted (n d : Nat) (k : Int) : Nat :=
  if 0 ≤ k then n * tenTo k.toNat / d
  else if digitCount n + 1 < digitCount d + (-k).toNat then 0
  else n / (d * tenTo (-k).toNat)

/-- The place of the last of the `precision` leading digits of `n / d * 10 ^ e`. -/
def quotientUnit (n d : Nat) (e : Int) : Int :=
  let k : Int := precision + digitCount d - digitCount n
  if tenTo precision ≤ wholeShifted n d k then e - k + 1 else e - k

/-- Rounds `n / d * 10 ^ e`. -/
def fitQuotient (negative : Bool) (n d : Nat) (e : Int) : Except Fault Decimal :=
  settle negative n d e (max tinyExponent (quotientUnit n d e))

/-- Moves factors of ten from the coefficient to the exponent. -/
def stripZeros : Nat → Nat → Int → Nat × Int
  | 0, c, e => (c, e)
  | fuel + 1, c, e => if c % 10 = 0 then stripZeros fuel (c / 10) (e + 1) else (c, e)

/-- A payload keeps its last digits. -/
def shortenPayload (payload : Nat) : Nat := payload % tenTo precision

/-- The rounded value without trailing zeros: equal values get one written form, the sign of
zero apart. -/
def normalize : Decimal → Except Fault Decimal
  | .finite s c e => do
    match ← fit s c e with
    | .finite s 0 _ => return .finite s 0 0
    | .finite s c e =>
      let (c, e) := stripZeros (digitCount c) c e
      return .finite s c e
    | other => return other
  | .infinite s => .ok (.infinite s)
  | .nan s signaling payload =>
    if signaling then .error .invalidOperation else .ok (.nan s false (shortenPayload payload))

/-- Cuts a number after four places. -/
def truncateToFourPlaces : Decimal → Except Fault Decimal
  | .finite s c e =>
    if c = 0 then .ok (.finite s 0 (-4))
    else if precision < e + 4 + digitCount c then .error .invalidOperation
    else .ok (.finite s (wholeShifted c 1 (e + 4)) (-4))
  | .infinite _ => .error .invalidOperation
  | .nan s signaling payload =>
    if signaling then .error .invalidOperation else .ok (.nan s false (shortenPayload payload))

end Reconcile.Decimal
