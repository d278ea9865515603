import Reconcile.Delivery.Stage

set_option autoImplicit false

/-
What somebody else does while a delivery is under way. Each rival acts at one kind of step, right
before the delivery takes it.
-/
namespace Reconcile.Delivery

open Journal (Event)

inductive Rival
  | absent
  /-- Takes intents first, a number of times. -/
  | thief (claims : Nat)
  /-- Makes every claim seem to succeed. -/
  | phantom
  /-- Credits the deposit to nobody before an intent is looked for. -/
  | flagger
  /-- Observes the deposit at another time, after it was found to be new. -/
  | observer (observed : Timestamp)
  deriving Inhabited

namespace Rival

/-- Whether claims are taken for successful without looking. -/
def blinds : Rival → Bool
  | .phantom => true
  | _ => false

/-- The intent that a step tries to take. -/
def target? : Stage → Option String
  | .claimExact _ (intent :: _) => some intent
  | .claim _ _ selection => some selection.winner.intent.id
  | _ => none

/-- Whether a step begins to look for an intent. -/
def beginsSearch : Stage → Bool
  | .queryExact _ => true
  | .query 1 _ => true
  | _ => false

def steal (store : Store) (intent : String) : Store × List Event :=
  let (moved, after) := store.move intent .matched
  (after, if moved then [.moved intent .matched] else [])

/-- Credits a deposit to nobody, if it has no attribution. -/
def flag (store : Store) (deposit : Deposit) (now : Timestamp) : Store × List Event :=
  match store.markUnattributed deposit now with
  | .ok (attribution, after) => (after, [.recorded attribution])
  | .error _ => (store, [])

/-- What the rival does before a step, and what it will do later. -/
def act (rival : Rival) (task : Task) (stage : Stage) (store : Store) :
    Rival × Store × List Event :=
  match rival with
  | .thief (left + 1) =>
    match target? stage with
    | some intent => (.thief left, steal store intent)
    | none => (.thief (left + 1), store, [])
  | .flagger =>
    if beginsSearch stage then (.absent, flag store task.deposit task.now)
    else (.flagger, store, [])
  | .observer observed =>
    match stage with
    | .insertObserved =>
      match store.insertObserved task.deposit observed with
      | .ok (some after) => (.absent, after, [])
      | _ => (.absent, store, [])
    | _ => (.observer observed, store, [])
  | other => (other, store, [])

end Rival

end Reconcile.Delivery
