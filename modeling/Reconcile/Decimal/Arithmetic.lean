import Reconcile.Decimal.Rounding

set_option autoImplicit false

/-
Sum, difference, product and quotient. Operands are taken exactly, however many digits they
have, and the result is rounded once.
-/
namespace Reconcile.Decimal

def negate : Decimal → Decimal
  | .finite s c e => .finite (!s) c e
  | .infinite s => .infinite (!s)
  | .nan s signaling payload => .nan s signaling payload

/-- The result of an operation on operands of which one is no number: the signal is a fault, the
quiet value is passed on. -/
def spread (a b : Decimal) : Except Fault Decimal :=
  if a.isSignaling || b.isSignaling then .error .invalidOperation
  else
    match a, b with
    | .nan s _ payload, _ => .ok (.nan s false (shortenPayload payload))
    | _, .nan s _ payload => .ok (.nan s false (shortenPayload payload))
    | _, _ => .error .invalidOperation

def signed (negative : Bool) (c : Nat) : Int := if negative then -(c : Int) else c

/-- More places than lie between the ends of the range of rounded numbers. -/
def farApart : Int := 4000000

/-- A stand-in for the term `d * 10 ^ f` of a sum whose other term is a multiple of `10 ^ e`. If
it lies far below the last place of the sum, a smaller exponent gap has the same effect on the
rounding, and the sum can be taken digit by digit. -/
def closeTo (e : Int) (d : Nat) (f : Int) : Nat × Int :=
  if farApart < e - f ∧ f + digitCount d ≤ e - precision - 2 then (1, e - precision - 2)
  else (d, f)

/-- The exact sum of two terms other than zero at the lower of the two exponents, rounded.
Opposite terms leave the positive zero. -/
def addTerms (s : Bool) (c : Nat) (e : Int) (t : Bool) (d : Nat) (f : Int) :
    Except Fault Decimal :=
  let low := min e f
  let sum := signed s (c * tenTo (e - low).toNat) + signed t (d * tenTo (f - low).toNat)
  if sum = 0 then .ok (.finite false 0 0) else fit (decide (sum < 0)) sum.natAbs low

/-- The sum of two finite numbers. Only two negative zeros leave a negative zero. -/
def addFinite (s : Bool) (c : Nat) (e : Int) (t : Bool) (d : Nat) (f : Int) :
    Except Fault Decimal :=
  if c = 0 then
    if d = 0 then .ok (.finite (s && t) 0 0) else fit t d f
  else if d = 0 then fit s c e
  else
    let first := closeTo f c e
    let second := closeTo e d f
    addTerms s first.1 first.2 t second.1 second.2

/-- The sum. Infinities of opposite signs have none. -/
def add (a b : Decimal) : Except Fault Decimal :=
  match a, b with
  | .finite s c e, .finite t d f => addFinite s c e t d f
  | .infinite s, .finite .. => .ok (.infinite s)
  | .finite .., .infinite t => .ok (.infinite t)
  | .infinite s, .infinite t => if s = t then .ok (.infinite s) else .error .invalidOperation
  | a, b => spread a b

def sub (a b : Decimal) : Except Fault Decimal := a.add b.negate

def isZero : Decimal → Bool
  | .finite _ c _ => c == 0
  | _ => false

def isNegative : Decimal → Bool
  | .finite s _ _ => s
  | .infinite s => s
  | .nan s _ _ => s

/-- The product. A zero and an infinity have none. -/
def mul (a b : Decimal) : Except Fault Decimal :=
  match a, b with
  | .finite s c e, .finite t d f => fit (s != t) (c * d) (e + f)
  | .nan .., _ => spread a b
  | _, .nan .. => spread a b
  | a, b =>
    if a.isZero || b.isZero then .error .invalidOperation
    else .ok (.infinite (a.isNegative != b.isNegative))

def div (a b : Decimal) : Except Fault Decimal :=
  match a, b with
  | .finite s c e, .finite t d f =>
    if d = 0 then .error (if c = 0 then .invalidOperation else .divisionByZero)
    else if c = 0 then .ok (.finite (s != t) 0 0)
    else fitQuotient (s != t) c d (e - f)
  | .infinite s, .finite t _ _ => .ok (.infinite (s != t))
  | .finite s _ _, .infinite t => .ok (.finite (s != t) 0 0)
  | .infinite _, .infinite _ => .error .invalidOperation
  | a, b => spread a b

/-- The absolute value, rounded. -/
def abs : Decimal → Except Fault Decimal
  | .finite _ c e => fit false c e
  | .infinite _ => .ok (.infinite false)
  | .nan s signaling payload =>
    if signaling then .error .invalidOperation else .ok (.nan s false (shortenPayload payload))

end Reconcile.Decimal
