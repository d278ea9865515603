import Reconcile.Binary64.Basic
import Reconcile.Decimal.Printer

set_option autoImplicit false

/-
The shortest decimal that reads back as a given number, and the text made of it. For each number
of digits the two neighbours of the value on that decimal grid are tried; the first grid with a
hit wins, and of two hits the nearer.
-/
namespace Reconcile.Binary64

/-- A positive value with the bounds of the values that round to it, all over one denominator. -/
structure Interval where
  low : Nat
  value : Nat
  high : Nat
  den : Nat
  closed : Bool

/-- How far below `m * 2 ^ e` the numbers begin that round to it, in quarters of the last place.
Below a power of two the gap is half as wide. -/
def quarters (m : Nat) (e : Int) : Nat := if m = twoTo 52 ∧ lowestExponent < e then 1 else 2

/-- The numbers that round to `m * 2 ^ e`. -/
def intervalOf (m : Nat) (e : Int) : Interval :=
  let scale := twoTo (e - 2).toNat
  { low := (4 * m - quarters m e) * scale, value := 4 * m * scale, high := (4 * m + 2) * scale,
    den := twoTo (2 - e).toNat, closed := m % 2 = 0 }

/-- Whether `c * 10 ^ p` lies in the interval. -/
def Interval.holds (i : Interval) (c : Nat) (p : Int) : Bool :=
  let candidate := c * tenTo p.toNat * i.den
  let scale := tenTo (-p).toNat
  if i.closed then i.low * scale ≤ candidate && candidate ≤ i.high * scale
  else i.low * scale < candidate && candidate < i.high * scale

/-- The neighbours of the value among the multiples of `10 ^ p`, and twice the distance of the
value from the lower one, over the unit. -/
def Interval.near (i : Interval) (p : Int) : Nat × Ordering :=
  let n := i.value * tenTo (-p).toNat
  let d := tenTo p.toNat * i.den
  (n / d, compare (2 * (n % d)) d)

/-- Tries grids of growing fineness, from the place `p` downward. -/
def Interval.search (i : Interval) : Nat → Int → Nat × Int
  | 0, p => ((i.near p).1, p)
  | fuel + 1, p =>
    let (c, half) := i.near p
    let lower := i.holds c p
    let upper := i.holds (c + 1) p
    if lower && upper then
      (match half with
        | .lt => c
        | .eq => if c % 2 = 0 then c else c + 1
        | .gt => c + 1, p)
    else if lower then (c, p)
    else if upper then (c + 1, p)
    else i.search fuel (p - 1)

def leadingPlace (n d : Nat) : Int :=
  let guess : Int := (Decimal.digitCount n : Int) - Decimal.digitCount d
  if d * tenTo guess.toNat ≤ n * tenTo (-guess).toNat then guess else guess - 1

/-- The shortest decimal `c * 10 ^ p` that reads back as `m * 2 ^ e`, without trailing zeros. -/
def shortest (m : Nat) (e : Int) : Nat × Int :=
  if m = 0 then (0, 0)
  else
    let i := intervalOf m e
    let (c, p) := i.search 17 (leadingPlace i.value i.den)
    Decimal.stripZeros (Decimal.digitCount c) c p

def toShortestDecimal : Binary64 → Decimal
  | .finite s m e =>
    let (c, p) := shortest m e
    .finite s c p
  | .infinite s => .infinite s
  | .nan => .nan false false 0

/-- An exponent with its sign and at least two digits. -/
def exponentText (x : Int) : String :=
  (if x < 0 then "e-" else "e+") ++ (if x.natAbs < 10 then "0" else "") ++ toString x.natAbs

/-- The text of a number: positional for leading places from -4 to 15, with at least one digit
after the point, and with an exponent otherwise. -/
def text : Binary64 → String
  | .finite s m e =>
    let (c, p) := shortest m e
    let digits := Decimal.digitsOf c
    let leading : Int := p + digits.length - 1
    Decimal.minus s ++
      (if m = 0 then "0.0"
      else if -4 ≤ leading ∧ leading < 16 then
        String.ofList (
          if 0 ≤ p then digits ++ List.replicate p.toNat '0' ++ ['.', '0']
          else Decimal.pointed digits (-p).toNat)
      else String.ofList (Decimal.pointed digits (digits.length - 1)) ++ exponentText leading)
  | .infinite s => Decimal.minus s ++ "inf"
  | .nan => "nan"

end Reconcile.Binary64
