import Reconcile.Decimal.Arithmetic
import Reconcile.Fault

set_option autoImplicit false

/-
The policy for inferred matches: how far amounts may differ, what amount and time weigh, and how
sure an inferred match may be at most.
-/
namespace Reconcile

structure Policy where
  /-- How far the amounts may differ, in ten thousandths of the declared one. -/
  toleranceBps : Int
  amountWeight : Decimal
  timeWeight : Decimal
  /-- Scores that differ by no more than this are tied. -/
  tieDelta : Decimal
  /-- The most that a tied match is worth. -/
  ambiguousCap : Decimal
  /-- The most that an inferred match is worth. -/
  inferredCap : Decimal
  deriving DecidableEq, Inhabited, Repr

namespace Policy

/-- From here on a match is taken for sure. -/
def highConfidence : Decimal := .finite false 8 (-1)

def usual : Policy :=
  { toleranceBps := 50, amountWeight := .one, timeWeight := .one,
    tieDelta := .finite false 1 (-2), ambiguousCap := .finite false 79 (-2),
    inferredCap := .finite false 999 (-3) }

/-- Whether `0 ≤ ambiguousCap ≤ inferredCap < 1`. What follows a broken link is not looked at. -/
def capsInOrder (policy : Policy) : Except Decimal.Fault Bool := do
  if !(← Decimal.zero.le? policy.ambiguousCap) then return false
  if !(← policy.ambiguousCap.le? policy.inferredCap) then return false
  policy.inferredCap.lt? .one

/-- Whether one of the weights is negative. -/
def hasNegativeWeight (policy : Policy) : Except Decimal.Fault Bool := do
  if ← policy.amountWeight.lt? .zero then return true
  policy.timeWeight.lt? .zero

/-- Refuses a policy that breaks a rule, and names the first such rule. -/
def check (policy : Policy) : Except Fault Unit := do
  if policy.toleranceBps < 0 then .error (.policy .negativeTolerance)
  if ← liftDecimal policy.hasNegativeWeight then .error (.policy .negativeWeight)
  let weight ← liftDecimal (policy.amountWeight.add policy.timeWeight)
  if ← liftDecimal (weight.le? .zero) then .error (.policy .noWeight)
  if !(← liftDecimal policy.capsInOrder) then .error (.policy .capsOutOfOrder)
  if ← liftDecimal (highConfidence.le? policy.ambiguousCap) then .error (.policy .capTooHigh)

/-- How far the amounts may differ, as a fraction of the declared one. -/
def tolerance (policy : Policy) : Except Decimal.Fault Decimal :=
  (Decimal.ofInt policy.toleranceBps).div (.ofInt 10000)

end Policy

end Reconcile
