import Reconcile.Attribution
import Reconcile.Store.Column

set_option autoImplicit false

/-
The three tables: intents, deposits as they were first observed, and attributions. Rows stand in
the order of their keys and hold values as a column gives them back, so equal tables are equal
lists.
-/
namespace Reconcile

/-- A deposit and when it was first delivered. -/
structure Observed where
  deposit : Deposit
  observed : Timestamp
  deriving DecidableEq, Inhabited, Repr

/-- The three tables. -/
structure Store where
  intents : List Intent
  observed : List Observed
  attributions : List Attribution
  deriving Inhabited

namespace Table

variable {α : Type}

def find? (key : α → String) (wanted : String) (rows : List α) : Option α :=
  rows.find? (key · = wanted)

/-- Puts a row before the first one with a greater key. -/
def insert (key : α → String) (row : α) : List α → List α
  | [] => [row]
  | first :: rest =>
    if key row < key first then row :: first :: rest else first :: insert key row rest

def update (key : α → String) (wanted : String) (change : α → α) (rows : List α) : List α :=
  rows.map fun row => if key row = wanted then change row else row

/-- The first rows up to a limit. Without one, or with a negative one, all rows. -/
def upTo (limit : Option Int) (rows : List α) : List α :=
  match limit with
  | some n => if n < 0 then rows else rows.take n.toNat
  | none => rows

/-- The rows by the time and then by the key that go with them. -/
def byTime (time : α → Timestamp) (key : α → String) (rows : List α) : List α :=
  rows.mergeSort fun a b =>
    match compare (time a).instant (time b).instant with
    | .lt => true
    | .eq => key a ≤ key b
    | .gt => false

/-- The rows by the time that goes with them, the latest first, and then by the key. -/
def byTimeDown (time : α → Timestamp) (key : α → String) (rows : List α) : List α :=
  rows.mergeSort fun a b =>
    match compare (time b).instant (time a).instant with
    | .lt => true
    | .eq => key a ≤ key b
    | .gt => false

end Table

namespace Store

def empty : Store := ⟨[], [], []⟩

def intent? (store : Store) (id : String) : Option Intent :=
  Table.find? Intent.id id store.intents

def observed? (store : Store) (txHash : String) : Option Observed :=
  Table.find? (·.deposit.txHash) txHash store.observed

def attribution? (store : Store) (txHash : String) : Option Attribution :=
  Table.find? Attribution.txHash txHash store.attributions

def linking? (store : Store) (intent : String) : Option Attribution :=
  store.attributions.find? (·.intent = some intent)

end Store

end Reconcile
