import Reconcile.Matching.Score

set_option autoImplicit false

/-
The choice among scored intents. Of the eligible ones the first with the highest score leads.
Tied with it are those with the same amount score and those whose score is nearly as high. The
oldest of the tied wins, and if there are several, the match is worth no more than the cap.
-/
namespace Reconcile.Matching

/-- The chosen intent, what the match is worth, and out of how many it was chosen. -/
structure Selection where
  winner : Scored
  confidence : Decimal
  ambiguous : Bool
  eligibleCount : Nat
  deriving Inhabited

/-- The first of the best, given the best so far. -/
def leaderFrom (best : Scored) : List Scored → Except Decimal.Fault Scored
  | [] => .ok best
  | next :: rest => do
    leaderFrom (if ← best.score.lt? next.score then next else best) rest

def isTied (policy : Policy) (leader candidate : Scored) : Except Decimal.Fault Bool := do
  if ← candidate.amountScore.same? leader.amountScore then return true
  (← leader.score.sub candidate.score).le? policy.tieDelta

/-- Keeps what passes a test that can fail. -/
def filterChecked {α ε : Type} (test : α → Except ε Bool) : List α → Except ε (List α)
  | [] => .ok []
  | a :: rest => do
    let passes ← test a
    let kept ← filterChecked test rest
    return if passes then a :: kept else kept

/-- Whether one intent was declared before another; ids decide between equal times. -/
def declaredBefore (a b : Intent) : Except Fault Bool := do
  if a.created.same b.created then return a.id < b.id
  return (← liftClock (a.created.compare? b.created)) == .lt

/-- The first of the oldest, given the oldest so far. -/
def oldestFrom (best : Scored) : List Scored → Except Fault Scored
  | [] => .ok best
  | next :: rest => do
    oldestFrom (if ← declaredBefore next.intent best.intent then next else best) rest

/-- What a match is worth, cut after four places. -/
def confidenceOf (policy : Policy) (winner : Scored) (ambiguous : Bool) :
    Except Decimal.Fault Decimal := do
  let worth ← if ambiguous then winner.score.min? policy.ambiguousCap else .ok winner.score
  worth.truncateToFourPlaces

/-- The choice among scored intents; none if no intent is eligible. -/
def select (policy : Policy) (scored : List Scored) : Except Fault (Option Selection) :=
  match scored.filter (·.eligible) with
  | [] => .ok none
  | first :: rest => do
    let leader ← liftDecimal (leaderFrom first rest)
    match ← liftDecimal (filterChecked (isTied policy leader) (first :: rest)) with
    | [] => return none
    | candidate :: others =>
      let winner ← oldestFrom candidate others
      let ambiguous := !others.isEmpty
      let confidence ← liftDecimal (confidenceOf policy winner ambiguous)
      return some { winner, confidence, ambiguous, eligibleCount := rest.length + 1 }

end Reconcile.Matching
