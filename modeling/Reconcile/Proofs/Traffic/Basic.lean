import Reconcile.Engine.Declare
import Reconcile.Engine.Sweep
import Reconcile.Payload.Delivery

set_option autoImplicit false

/-
Operations that run at the same time on one store. Each of them goes step by step, a transaction
at most with every step, and a schedule says in which order the steps are taken.
-/
namespace Reconcile

open Delivery (Task)

/-- Where a sweep stands: the next thing to do. -/
inductive SweepStage
  | expire
  | find (expired : List String)
  /-- Credit these deposits to nobody, one after the other. -/
  | mark (expired flagged : List String) (deposits : List Deposit)
  | done (result : Except Fault SweepReport)

def SweepStage.step (rule : SweepRule) (now : Timestamp) (store : Store) :
    SweepStage → SweepStage × Store
  | .expire =>
    match store.expireDue now rule.batch with
    | .error fault => (.done (.error fault), store)
    | .ok (expired, after) => (.find expired, after)
  | .find expired =>
    match store.stale rule now with
    | .error fault => (.done (.error fault), store)
    | .ok deposits => (.mark expired [] deposits, store)
  | .mark expired flagged [] => (.done (.ok ⟨now, expired, flagged⟩), store)
  | .mark expired flagged (deposit :: rest) =>
    match store.markUnattributed deposit now with
    | .ok (_, after) => (.mark expired (flagged ++ [deposit.txHash]) rest, after)
    | .error (.duplicateAttribution _) => (.mark expired flagged rest, store)
    | .error fault => (.done (.error fault), store)
  | .done result => (.done result, store)

inductive Parcel
  | payload (json : Json)
  | parsed (deposit : Deposit)

def Parcel.read : Parcel → Except Fault Deposit
  | .payload json => Payload.Delivery.read json
  | .parsed deposit => .ok deposit

/-- A call that takes several steps. -/
inductive Activity
  | delivery (task : Task) (stage : Delivery.Stage)
  /-- A delivery that was not read. -/
  | refused (fault : Fault)
  | sweep (rule : SweepRule) (now : Timestamp) (stage : SweepStage)

namespace Activity

def ofParcel (policy : Policy) (parcel : Parcel) (now : Timestamp) : Activity :=
  match parcel.read with
  | .error fault => .refused fault
  | .ok deposit => .delivery ⟨policy, deposit, now⟩ .lookUp

def step (store : Store) : Activity → Activity × Store
  | .delivery task stage =>
    let progress := task.step false stage store
    (.delivery task progress.stage, progress.store)
  | .refused fault => (.refused fault, store)
  | .sweep rule now stage =>
    let (stage, after) := stage.step rule now store
    (.sweep rule now stage, after)

@[simp] theorem step_delivery (store : Store) (task : Task) (stage : Delivery.Stage) :
    (delivery task stage).step store =
      (.delivery task (task.step false stage store).stage, (task.step false stage store).store) :=
  rfl

@[simp] theorem step_sweep (store : Store) (rule : SweepRule) (now : Timestamp)
    (stage : SweepStage) :
    (sweep rule now stage).step store =
      (.sweep rule now (stage.step rule now store).1, (stage.step rule now store).2) :=
  rfl

end Activity

/-- The tables and the calls that were begun, in the order in which they were. -/
structure Traffic where
  store : Store
  calls : List Activity

/-- What happens next: a call begins, one goes on, or one happens that is a single transaction. -/
inductive Move
  | deliver (policy : Policy) (parcel : Parcel) (now : Timestamp)
  | sweep (rule : SweepRule) (now : Timestamp)
  | advance (call : Nat)
  | declare (intent : Intent)
  | orphan (id : String)

namespace Traffic

def on (store : Store) : Traffic := ⟨store, []⟩

def act (traffic : Traffic) : Move → Traffic
  | .deliver policy parcel now =>
    { traffic with calls := traffic.calls ++ [.ofParcel policy parcel now] }
  | .sweep rule now => { traffic with calls := traffic.calls ++ [.sweep rule now .expire] }
  | .advance call =>
    match traffic.calls[call]? with
    | none => traffic
    | some activity =>
      let (next, after) := activity.step traffic.store
      ⟨after, traffic.calls.set call next⟩
  | .declare intent => { traffic with store := (Engine.register traffic.store intent false).2 }
  | .orphan id => { traffic with store := (traffic.store.move id .orphan).2 }

def run (traffic : Traffic) (schedule : List Move) : Traffic := schedule.foldl act traffic

theorem run_concat (traffic : Traffic) (schedule : List Move) (move : Move) :
    traffic.run (schedule ++ [move]) = (traffic.run schedule).act move := by
  simp [run]

theorem act_advance {traffic : Traffic} {n : Nat} {call : Activity}
    (found : traffic.calls[n]? = some call) :
    traffic.act (.advance n) =
      ⟨(call.step traffic.store).2, traffic.calls.set n (call.step traffic.store).1⟩ := by
  simp only [act, found]

/-- A call that is there after something happened was there before and is as it was, has taken a
step, or has begun. -/
theorem act_calls {traffic : Traffic} {move : Move} {n : Nat} {call : Activity}
    (found : (traffic.act move).calls[n]? = some call) :
    (traffic.calls[n]? = some call ∧ move ≠ .advance n) ∨
      (∃ before, traffic.calls[n]? = some before ∧ move = .advance n ∧
        call = (before.step traffic.store).1) ∨
      (∃ policy parcel now, move = .deliver policy parcel now ∧
        call = .ofParcel policy parcel now) ∨
      ∃ rule now, move = .sweep rule now ∧ call = .sweep rule now .expire := by
  have begun : ∀ first : Activity, (traffic.calls ++ [first])[n]? = some call →
      traffic.calls[n]? = some call ∨ call = first := by
    intro first found
    rw [List.getElem?_append] at found
    split at found
    · exact Or.inl found
    · exact Or.inr (List.mem_singleton.mp (List.mem_of_getElem? found))
  cases move with
  | deliver policy parcel now =>
    rcases begun _ found with old | rfl
    · exact Or.inl ⟨old, by simp⟩
    · exact Or.inr (Or.inr (Or.inl ⟨policy, parcel, now, rfl, rfl⟩))
  | sweep rule now =>
    rcases begun _ found with old | rfl
    · exact Or.inl ⟨old, by simp⟩
    · exact Or.inr (Or.inr (Or.inr ⟨rule, now, rfl, rfl⟩))
  | advance m =>
    cases present : traffic.calls[m]? with
    | none =>
      simp only [act, present] at found
      refine Or.inl ⟨found, ?_⟩
      rintro ⟨⟩
      rw [present] at found
      cases found
    | some before =>
      rw [act_advance present] at found
      by_cases same : m = n
      · subst same
        have inside := List.getElem?_eq_some_iff.mp present
        rw [List.getElem?_set_self inside.1] at found
        exact Or.inr (Or.inl ⟨before, present, rfl, (Option.some.inj found).symm⟩)
      · rw [List.getElem?_set_ne same] at found
        refine Or.inl ⟨found, ?_⟩
        rintro ⟨⟩
        exact same rfl
  | declare intent => exact Or.inl ⟨found, by simp⟩
  | orphan id => exact Or.inl ⟨found, by simp⟩

/-- An intent, and a deposit that it expects. -/
def Sample.intent : Intent :=
  ⟨"i", "acme", ⟨"v", 1, "r"⟩, .one, .utc 0, .utc 60000000, [], .pending⟩

def Sample.deposit : Deposit := ⟨"t", ⟨"v", 1, "r"⟩, .one, .one, .utc 0, none⟩

end Traffic

end Reconcile
