import Reconcile.HalfEven
import Reconcile.Decimal.Basic

set_option autoImplicit false

/-
Numbers with a binary point and a 53 bit mantissa, as exact values: `finite s m e` stands for
`m * 2 ^ e`. Every operation takes the exact result and rounds it once, half a unit to the even
neighbour.
-/
namespace Reconcile

inductive Binary64
  | finite (negative : Bool) (mantissa : Nat) (exponent : Int)
  | infinite (negative : Bool)
  | nan
  deriving DecidableEq, Inhabited, Repr

namespace Binary64

/-- The lowest place of a mantissa. -/
def lowestExponent : Int := -1074

/-- The greatest place of the last bit of a mantissa. -/
def greatestExponent : Int := 971

/-- `n / d * 2 ^ k` rounded to a whole number. -/
def roundShifted (n d : Nat) (k : Int) : Nat :=
  if 0 ≤ k then roundHalfEven (n * twoTo k.toNat) d else roundHalfEven n (d * twoTo (-k).toNat)

/-- The place of the last of the 53 leading bits of `n / d`. -/
def lastPlace (n d : Nat) : Int :=
  let guess : Int := (n.log2 : Int) - d.log2 - 53
  let fits := if 0 ≤ guess then n < twoTo 53 * (d * twoTo guess.toNat)
    else n * twoTo (-guess).toNat < twoTo 53 * d
  if fits then guess else guess + 1

/-- A rounded mantissa at its place; rounding may have carried it to one bit more. -/
def settle (negative : Bool) (m : Nat) (e : Int) : Binary64 :=
  let (m, e) := if m = twoTo 53 then (twoTo 52, e + 1) else (m, e)
  if greatestExponent < e then .infinite negative else .finite negative m e

/-- The number nearest to `n / d`. -/
def ofRatio (negative : Bool) (n d : Nat) : Binary64 :=
  if n = 0 then .finite negative 0 lowestExponent
  else
    let e := max lowestExponent (lastPlace n d)
    settle negative (roundShifted n d (-e)) e

/-- The number nearest to `m * 2 ^ e`. -/
def ofScaled (negative : Bool) (m : Nat) (e : Int) : Binary64 :=
  if 0 ≤ e then ofRatio negative (m * twoTo e.toNat) 1 else ofRatio negative m (twoTo (-e).toNat)

/-- The number nearest to `c * 10 ^ e`. What lies outside the range is not computed in full. -/
def ofDecimal (negative : Bool) (c : Nat) (e : Int) : Binary64 :=
  if c = 0 then .finite negative 0 lowestExponent
  else
    let leading := e + Decimal.digitCount c
    if 310 < leading then .infinite negative
    else if leading < -330 then .finite negative 0 lowestExponent
    else if 0 ≤ e then ofRatio negative (c * tenTo e.toNat) 1
    else ofRatio negative c (tenTo (-e).toNat)

def ofInt (n : Int) : Binary64 := ofRatio (n < 0) n.natAbs 1

def zero : Binary64 := .finite false 0 lowestExponent

def one : Binary64 := ofInt 1

/-- The order of two values; none if one of them is no number. -/
def compare? : Binary64 → Binary64 → Option Ordering
  | .nan, _ => none
  | _, .nan => none
  | .infinite s, .infinite t => some (compare t.toNat s.toNat)
  | .infinite s, .finite .. => some (if s then .lt else .gt)
  | .finite .., .infinite t => some (if t then .gt else .lt)
  | .finite s m e, .finite t n f =>
    let low := min e f
    let left : Int := (if s then -1 else 1) * (m * twoTo (e - low).toNat : Nat)
    let right : Int := (if t then -1 else 1) * (n * twoTo (f - low).toNat : Nat)
    some (compare left right)

/-- Below; a value that is no number is not below anything. -/
def lt (x y : Binary64) : Bool := x.compare? y == some .lt

def max (x y : Binary64) : Binary64 := if x.lt y then y else x

def negate : Binary64 → Binary64
  | .finite s m e => .finite (!s) m e
  | .infinite s => .infinite (!s)
  | .nan => .nan

def magnitude : Binary64 → Binary64
  | .finite _ m e => .finite false m e
  | .infinite _ => .infinite false
  | .nan => .nan

/-- The sum. Opposite numbers leave the positive zero. -/
def add : Binary64 → Binary64 → Binary64
  | .nan, _ => .nan
  | _, .nan => .nan
  | .infinite s, .infinite t => if s = t then .infinite s else .nan
  | .infinite s, .finite .. => .infinite s
  | .finite .., .infinite t => .infinite t
  | .finite s m e, .finite t n f =>
    let low := min e f
    let left : Int := (if s then -1 else 1) * (m * twoTo (e - low).toNat : Nat)
    let right : Int := (if t then -1 else 1) * (n * twoTo (f - low).toNat : Nat)
    let sum := left + right
    if sum = 0 then .finite (s && t && m == 0 && n == 0) 0 lowestExponent
    else ofScaled (decide (sum < 0)) sum.natAbs low

def sub (x y : Binary64) : Binary64 := x.add y.negate

def mul : Binary64 → Binary64 → Binary64
  | .nan, _ => .nan
  | _, .nan => .nan
  | .finite s m e, .finite t n f => ofScaled (s != t) (m * n) (e + f)
  | .infinite s, .infinite t => .infinite (s != t)
  | .infinite s, .finite t n _ => if n = 0 then .nan else .infinite (s != t)
  | .finite s m _, .infinite t => if m = 0 then .nan else .infinite (s != t)

def divNat (x : Binary64) (d : Nat) : Binary64 :=
  match x with
  | .finite s m e =>
    if 0 ≤ e then ofRatio s (m * twoTo e.toNat) d else ofRatio s m (d * twoTo (-e).toNat)
  | other => other

/-- The whole number at or below a finite value. -/
def floor? : Binary64 → Option Int
  | .finite s m e =>
    let n : Int := if s then -(m : Int) else m
    some (if 0 ≤ e then n * twoTo e.toNat else Int.fdiv n (twoTo (-e).toNat))
  | _ => none

/-- The whole number nearest to a finite value that is not negative, half a unit upward. -/
def roundHalfUp? : Binary64 → Option Nat
  | .finite _ m e =>
    some (if 0 ≤ e then m * twoTo e.toNat else (2 * m + twoTo (-e).toNat) / (2 * twoTo (-e).toNat))
  | _ => none

/-- The whole number that a finite value is, if it is one. -/
def whole? : Binary64 → Option Int
  | .finite s m e =>
    let n : Int := if s then -(m : Int) else m
    if 0 ≤ e then some (n * twoTo e.toNat)
    else if m % twoTo (-e).toNat = 0 then some (Int.fdiv n (twoTo (-e).toNat))
    else none
  | _ => none

end Binary64

end Reconcile
