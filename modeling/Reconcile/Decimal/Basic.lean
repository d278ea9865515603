import Reconcile.Power

set_option autoImplicit false

/-
Decimal numbers: a sign, a whole coefficient and a power of ten, or one of the values that are
no number. The coefficient keeps every digit that was written; only arithmetic rounds.
-/
namespace Reconcile

/-- `finite s c e` stands for `c * 10 ^ e`, negated when `s` holds. -/
inductive Decimal
  | finite (negative : Bool) (coefficient : Nat) (exponent : Int)
  | infinite (negative : Bool)
  | nan (negative signaling : Bool) (payload : Nat)
  deriving DecidableEq, Inhabited, Repr

namespace Decimal

inductive Fault
  | invalidOperation
  | divisionByZero
  | overflow
  deriving DecidableEq, Inhabited, Repr

def ofInt (n : Int) : Decimal := .finite (n < 0) n.natAbs 0

def zero : Decimal := .finite false 0 0

def one : Decimal := .finite false 1 0

def isFinite : Decimal → Bool
  | .finite .. => true
  | _ => false

/-- Counts on from `k` to the first power of ten above `n`. -/
def digitCountFrom (n : Nat) : Nat → Nat → Nat
  | 0, k => k
  | fuel + 1, k => if n < tenTo k then k else digitCountFrom n fuel (k + 1)

/-- How many digits `n` has, none for zero. The count starts just below the answer, which the
number of bits gives, so that long numbers need no division. -/
def digitCount (n : Nat) : Nat :=
  digitCountFrom n (n.log2 + 1) (n.log2 * 643 / 2136)

/-- Compares `c * 10 ^ e` with `d * 10 ^ f`. The places of the leading digits decide first, so
no power of ten is taken that is longer than the numbers themselves. -/
def compareMagnitudes (c : Nat) (e : Int) (d : Nat) (f : Int) : Ordering :=
  if c = 0 ∨ d = 0 then compare c d
  else
    match compare (e + digitCount c) (f + digitCount d) with
    | .eq =>
      if f ≤ e then compare (c * tenTo (e - f).toNat) d else compare c (d * tenTo (f - e).toNat)
    | decided => decided

/-- The order of two values that are numbers or infinite; the two zeros are equal. Values that
are no number count as equal here and are kept out by `compare?`. -/
def order : Decimal → Decimal → Ordering
  | .infinite s, .infinite t => compare t.toNat s.toNat
  | .infinite s, .finite .. => if s then .lt else .gt
  | .finite .., .infinite t => if t then .gt else .lt
  | .finite s c e, .finite t d f =>
    if c = 0 ∧ d = 0 then .eq
    else if s && c ≠ 0 then
      if t && d ≠ 0 then compareMagnitudes d f c e else .lt
    else if t && d ≠ 0 then .gt
    else compareMagnitudes c e d f
  | _, _ => .eq

def isNan : Decimal → Bool
  | .nan .. => true
  | _ => false

def isSignaling : Decimal → Bool
  | .nan _ signaling _ => signaling
  | _ => false

/-- The exact order, without rounding. There is none for a value that is no number. -/
def compare? (a b : Decimal) : Except Fault Ordering :=
  if a.isNan || b.isNan then .error .invalidOperation else .ok (a.order b)

def lt? (a b : Decimal) : Except Fault Bool := (a.compare? b).map (· == .lt)

def le? (a b : Decimal) : Except Fault Bool := (a.compare? b).map (· != .gt)

/-- Equality of values. A quiet value that is no number equals nothing, not even itself. -/
def same? (a b : Decimal) : Except Fault Bool :=
  if a.isSignaling || b.isSignaling then .error .invalidOperation
  else .ok (!a.isNan && !b.isNan && a.order b == .eq)

/-- The first of the two unless the second is greater. -/
def max? (a b : Decimal) : Except Fault Decimal :=
  (a.lt? b).map fun greater => if greater then b else a

/-- The first of the two unless the second is smaller. -/
def min? (a b : Decimal) : Except Fault Decimal :=
  (b.lt? a).map fun smaller => if smaller then b else a

end Decimal

end Reconcile
