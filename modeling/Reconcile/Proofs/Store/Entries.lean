import Reconcile.Proofs.Store.Frame

set_option autoImplicit false

/-
What a delivery writes, entry by entry. Entries can be made on any tables, so that it can be said
of two of them that the same was written. Entries about different transactions can be made in
either order.
-/
namespace Reconcile

/-- A row that a delivery adds, or an intent that it takes. -/
inductive Entry
  | observed (row : Observed)
  | matched (intent : String)
  | recorded (row : Attribution)

namespace Entry

def intent? : Entry → Option String
  | matched intent => some intent
  | _ => none

def IsOf (txHash : String) : Entry → Prop
  | observed row => row.deposit.txHash = txHash
  | matched _ => True
  | recorded row => row.txHash = txHash

/-- What is entered to claim an intent for a decision. -/
def ofClaim : Option String → List Entry
  | some intent => [matched intent]
  | none => []

end Entry

/-- The intent, matched if it is one of those listed. -/
def Intent.matchIn (ids : List String) (intent : Intent) : Intent :=
  if intent.id ∈ ids then { intent with status := .matched } else intent

namespace Intent

@[simp] theorem matchIn_id (ids : List String) (intent : Intent) :
    (intent.matchIn ids).id = intent.id := by
  unfold matchIn
  split <;> rfl

@[simp] theorem matchIn_bucket (ids : List String) (intent : Intent) :
    (intent.matchIn ids).bucket = intent.bucket := by
  unfold matchIn
  split <;> rfl

@[simp] theorem matchIn_nil : matchIn [] = fun intent => intent := by
  funext intent
  simp [matchIn]

theorem matchIn_matchIn (first second : List String) (intent : Intent) :
    (intent.matchIn first).matchIn second = intent.matchIn (first ++ second) := by
  by_cases early : intent.id ∈ first
  · by_cases late : intent.id ∈ second
    · simp [matchIn, early, late]
    · simp [matchIn, early, late]
  · by_cases late : intent.id ∈ second
    · simp [matchIn, early, late]
    · simp [matchIn, early, late]

end Intent

namespace Store

def enter (store : Store) : Entry → Store
  | .observed row =>
    { store with observed := Table.insert (·.deposit.txHash) row store.observed }
  | .matched id => { store with intents := store.intents.map (Intent.matchIn [id]) }
  | .recorded row =>
    { store with attributions := Table.insert Attribution.txHash row store.attributions }

def enterAll (store : Store) (entries : List Entry) : Store := entries.foldl enter store

@[simp] theorem enterAll_nil (store : Store) : store.enterAll [] = store := rfl

@[simp] theorem enterAll_cons (store : Store) (entry : Entry) (rest : List Entry) :
    store.enterAll (entry :: rest) = (store.enter entry).enterAll rest := rfl

theorem enterAll_append (store : Store) (first second : List Entry) :
    store.enterAll (first ++ second) = (store.enterAll first).enterAll second :=
  List.foldl_append

section Commuting

variable {txHash other : String}

theorem enter_comm {first second : Entry} (one : first.IsOf txHash) (two : second.IsOf other)
    (apart : txHash ≠ other) (store : Store) :
    (store.enter first).enter second = (store.enter second).enter first := by
  cases first with
  | observed row =>
    cases second with
    | observed late =>
      have keys : row.deposit.txHash ≠ late.deposit.txHash := fun same =>
        apart (one.symm.trans (same.trans two))
      simp only [enter, Table.insert_comm (fun row : Observed => row.deposit.txHash) keys]
    | _ => rfl
  | matched id =>
    cases second with
    | matched late =>
      have same : Intent.matchIn [late] ∘ Intent.matchIn [id] =
          Intent.matchIn [id] ∘ Intent.matchIn [late] := by
        funext intent
        simp only [Function.comp_apply, Intent.matchIn_matchIn]
        simp [Intent.matchIn, or_comm]
      simp only [enter, List.map_map, same]
    | _ => rfl
  | recorded row =>
    cases second with
    | recorded late =>
      have keys : row.txHash ≠ late.txHash := fun same =>
        apart (one.symm.trans (same.trans two))
      simp only [enter, Table.insert_comm Attribution.txHash keys]
    | _ => rfl

theorem enterAll_enter {entries : List Entry} {entry : Entry}
    (each : ∀ entry ∈ entries, entry.IsOf txHash) (about : entry.IsOf other)
    (apart : txHash ≠ other) (store : Store) :
    (store.enterAll entries).enter entry = (store.enter entry).enterAll entries := by
  induction entries generalizing store with
  | nil => rfl
  | cons first rest ih =>
    have head := each first List.mem_cons_self
    have tail : ∀ entry ∈ rest, entry.IsOf txHash :=
      fun entry member => each entry (List.mem_cons_of_mem first member)
    rw [enterAll_cons, enterAll_cons, ih tail, enter_comm about head apart.symm]

theorem enterAll_comm {first second : List Entry} (one : ∀ entry ∈ first, entry.IsOf txHash)
    (two : ∀ entry ∈ second, entry.IsOf other) (apart : txHash ≠ other) (store : Store) :
    (store.enterAll first).enterAll second = (store.enterAll second).enterAll first := by
  induction second generalizing store with
  | nil => rfl
  | cons entry rest ih =>
    have tail : ∀ entry ∈ rest, entry.IsOf other :=
      fun entry member => two entry (List.mem_cons_of_mem _ member)
    rw [enterAll_cons, enterAll_cons, enterAll_enter one (two entry List.mem_cons_self) apart,
      ih tail]

end Commuting

section Entered

variable (store : Store) (entries : List Entry)

theorem enterAll_intents :
    (store.enterAll entries).intents =
      store.intents.map (Intent.matchIn (entries.filterMap Entry.intent?)) := by
  induction entries generalizing store with
  | nil => simp
  | cons entry rest ih =>
    rw [enterAll_cons, ih]
    cases entry with
    | matched id =>
      rw [enter, List.map_map]
      congr 1
      funext intent
      exact Intent.matchIn_matchIn [id] _ intent
    | _ => rfl

theorem mem_enterAll_observed {row : Observed} :
    row ∈ (store.enterAll entries).observed ↔
      row ∈ store.observed ∨ Entry.observed row ∈ entries := by
  induction entries generalizing store with
  | nil => simp
  | cons entry rest ih =>
    rw [enterAll_cons, ih, List.mem_cons]
    cases entry with
    | observed first =>
      rw [enter, Table.mem_insert, Entry.observed.injEq, or_assoc, or_left_comm]
    | _ => simp [enter]

theorem mem_enterAll_attributions {row : Attribution} :
    row ∈ (store.enterAll entries).attributions ↔
      row ∈ store.attributions ∨ Entry.recorded row ∈ entries := by
  induction entries generalizing store with
  | nil => simp
  | cons entry rest ih =>
    rw [enterAll_cons, ih, List.mem_cons]
    cases entry with
    | recorded first =>
      rw [enter, Table.mem_insert, Entry.recorded.injEq, or_assoc, or_left_comm]
    | _ => simp [enter]

theorem intent?_enterAll (id : String) :
    (store.enterAll entries).intent? id =
      (store.intent? id).map (Intent.matchIn (entries.filterMap Entry.intent?)) := by
  unfold intent?
  rw [enterAll_intents]
  induction store.intents with
  | nil => rfl
  | cons first rest ih =>
    rw [List.map_cons, Table.find?_cons, Table.find?_cons, ih, Intent.matchIn_id]
    split <;> rfl

end Entered

end Store

end Reconcile
