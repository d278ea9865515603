import Reconcile.Store.Basic

set_option autoImplicit false

/-
The table of intents. A status changes only from pending, by an update that checks it, so two
rivals cannot both take one intent.
-/
namespace Reconcile.Store

/-- Whether an intent may be declared: it lasts for some time and its id is new. -/
def admits (store : Store) (intent : Intent) : Except Fault Unit := do
  if (← liftClock (intent.expires.compare? intent.created)) != .gt then
    .error (.emptyWindow intent.id intent.created intent.expires)
  if (store.intent? intent.id).isSome then .error (.duplicateIntent intent.id)

def intentRow (intent : Intent) : Except Fault Intent := do
  let amount ← Column.decimal intent.amount
  let created ← Column.moment intent.created
  let expires ← Column.moment intent.expires
  let metadata ← Column.metadata intent.metadata
  let chain ← Column.word intent.bucket.chain
  return { intent with amount, created, expires, metadata, bucket.chain := chain }

/-- Adds a row; the key keeps a second row of the same id out. -/
def insertIntent (store : Store) (intent : Intent) : Except Fault Store := do
  let row ← intentRow intent
  if (store.intent? intent.id).isSome then .error (.duplicateIntent intent.id)
  return { store with intents := Table.insert Intent.id row store.intents }

/-- Declares an intent. A new intent is pending, whatever it says itself. -/
def declare (store : Store) (intent : Intent) : Except Fault (Intent × Store) := do
  store.admits intent
  let intent := { intent with status := .pending }
  return (intent, ← store.insertIntent intent)

/-- The intent of an id that must be there. -/
def getIntent (store : Store) (id : String) : Except Fault Intent :=
  match store.intent? id with
  | some intent => .ok intent
  | none => .error (.intentNotFound id)

def isPending (store : Store) (id : String) : Bool :=
  match store.intent? id with
  | some intent => intent.isPending
  | none => false

/-- Moves a pending intent to another status; any other intent stays as it is. Says whether the
intent was moved. -/
def move (store : Store) (id : String) (status : Status) : Bool × Store :=
  if store.isPending id then
    (true, { store with
      intents := Table.update Intent.id id (fun intent => { intent with status }) store.intents })
  else (false, store)

/-- Whether an intent expects deposits of a bucket at an instant. -/
def awaits (bucket : Bucket) (instant : Timestamp) (intent : Intent) : Bool :=
  intent.bucket = bucket && intent.isPending && instant.instant < intent.expires.instant

/-- The intents that expect deposits of a bucket, the oldest first. -/
def candidates (store : Store) (bucket : Bucket) (asOf : Timestamp) :
    Except Fault (List Intent) := do
  let asOf ← Column.moment asOf
  let _ ← Column.word bucket.chain
  return Table.byTime Intent.created Intent.id (store.intents.filter (awaits bucket asOf))

/-- Those of the candidates that a partner declared for exactly an amount. -/
def exactCandidates (store : Store) (partner : String) (bucket : Bucket) (amount : Decimal)
    (asOf : Timestamp) : Except Fault (List Intent) := do
  let found ← store.candidates bucket asOf
  liftDecimal (found.filterMapM fun intent => do
    if intent.partner = partner then
      return if ← intent.amount.same? amount then some intent else none
    else return none)

/-- Whether an intent has outlived its time. -/
def isDue (now : Timestamp) (intent : Intent) : Bool :=
  intent.isPending && intent.expires.instant ≤ now.instant

/-- The intents that have outlived their time, up to a limit. -/
def due (store : Store) (now : Timestamp) (limit : Int) : Except Fault (List String) := do
  let now ← Column.moment now
  let limit ← Column.word limit
  let rows := Table.byTime Intent.expires Intent.id (store.intents.filter (isDue now))
  return (Table.upTo (some limit) rows).map (·.id)

/-- Moves intents to expired, one after the other, and lists those that were moved. -/
def expireAll (store : Store) : List String → List String × Store
  | [] => ([], store)
  | id :: rest =>
    let (moved, store) := store.move id .expired
    let (others, store) := store.expireAll rest
    (if moved then id :: others else others, store)

/-- Moves the intents that have outlived their time to expired, up to a limit. -/
def expireDue (store : Store) (now : Timestamp) (limit : Int) :
    Except Fault (List String × Store) := do
  return store.expireAll (← store.due now limit)

/-- Takes a row out of the table. An attribution that linked the intent links none then. -/
def deleteIntent (store : Store) (id : String) : Store :=
  { store with
    intents := store.intents.filter (·.id ≠ id)
    attributions := store.attributions.map fun row =>
      if row.intent = some id then { row with intent := none } else row }

end Reconcile.Store
