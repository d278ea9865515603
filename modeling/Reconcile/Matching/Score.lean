import Reconcile.Deposit
import Reconcile.Fault
import Reconcile.Settings.Policy

set_option autoImplicit false

/-
How well an intent fits a deposit. The amount score falls from one with the relative gap between
the amounts. The time score falls from one, when the intent is declared, to zero, when it expires.
The score is their weighted mean, at most the cap of the policy.
-/
namespace Reconcile.Matching

def clamp (value low high : Decimal) : Except Decimal.Fault Decimal := do
  low.max? (← high.min? value)

/-- The gap between two amounts as a fraction of the declared one. -/
def amountGap (declared actual : Decimal) : Except Decimal.Fault Decimal := do
  (← (← declared.sub actual).abs).div declared

/-- One less the gap, but not below zero. -/
def amountScore (declared actual : Decimal) : Except Decimal.Fault Decimal := do
  Decimal.zero.max? (← Decimal.one.sub (← amountGap declared actual))

/-- The part of a window that is left after some time of it. -/
def timeLeft (elapsed window : Int) : Except Decimal.Fault Decimal := do
  let passed ← Decimal.zero.max? (.ofInt elapsed)
  clamp (← Decimal.one.sub (← passed.div (.ofInt window))) .zero .one

/-- A deposit that was confirmed before the declaration counts as confirmed at it. -/
def timeScore (created expires confirmed : Timestamp) : Except Fault Decimal := do
  let window ← liftClock (expires.minus? created)
  if window ≤ 0 then return .zero
  let elapsed ← liftClock (confirmed.minus? created)
  liftDecimal (timeLeft elapsed window)

def blend (policy : Policy) (amount time : Decimal) : Except Decimal.Fault Decimal := do
  let weight ← policy.amountWeight.add policy.timeWeight
  let sum ← (← policy.amountWeight.mul amount).add (← policy.timeWeight.mul time)
  sum.div weight

def withinTolerance (policy : Policy) (declared actual : Decimal) :
    Except Decimal.Fault Bool := do
  (← amountGap declared actual).le? (← policy.tolerance)

/-- An intent with its scores for a deposit. -/
structure Scored where
  intent : Intent
  eligible : Bool
  amountScore : Decimal
  timeScore : Decimal
  score : Decimal
  deriving Inhabited

def score (policy : Policy) (deposit : Deposit) (intent : Intent) : Except Fault Scored := do
  let amount ← liftDecimal (amountScore intent.amount deposit.amount)
  let time ← timeScore intent.created intent.expires deposit.confirmed
  let mean ← liftDecimal (blend policy amount time)
  let eligible ← liftDecimal (withinTolerance policy intent.amount deposit.amount)
  let score ← liftDecimal (clamp mean .zero policy.inferredCap)
  return { intent, eligible, amountScore := amount, timeScore := time, score }

def scoreAll (policy : Policy) (deposit : Deposit) (intents : List Intent) :
    Except Fault (List Scored) :=
  intents.mapM (score policy deposit)

end Reconcile.Matching
