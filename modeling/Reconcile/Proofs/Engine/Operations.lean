import Reconcile.Engine.Views
import Reconcile.Proofs.Traffic.Alone
import Reconcile.Proofs.Traffic.Steps

set_option autoImplicit false

/-
Operations of an engine, one after the other. Each of them leaves a row of changes to the tables,
be it that it succeeds or that it fails.
-/
namespace Reconcile

open Relation (ReflTransGen)
open Traffic (on)

inductive Operation
  | declare (payload : Json) (now : Timestamp)
  | deliver (parcel : Parcel) (now : Timestamp)
  | orphan (id : String)
  | sweep (now : Timestamp)
  | getIntent (id : String)
  | getAttribution (txHash : String)
  | listPartner (partner : String) (limit : Option Int)
  /-- The engine goes on with other settings. -/
  | configure (settings : Settings)

namespace Engine

/-- Delivers what is handed in, read or unread. -/
def receive (engine : Engine) (parcel : Parcel) (now : Timestamp) :
    Outcome (Option Attribution) :=
  match parcel with
  | .payload json => engine.deliver json now .absent
  | .parsed deposit => engine.deliverDeposit deposit now .absent

def act (engine : Engine) : Operation → Engine
  | .declare payload now => (engine.declare payload now false).engine
  | .deliver parcel now => (engine.receive parcel now).engine
  | .orphan id => (engine.orphan id).engine
  | .sweep now => (engine.sweep now []).engine
  | .getIntent id => (engine.getIntent id).engine
  | .getAttribution txHash => (engine.getAttribution txHash).engine
  | .listPartner partner limit => (engine.listPartner partner limit).engine
  | .configure settings => { engine with settings }

def run (engine : Engine) (operations : List Operation) : Engine := operations.foldl act engine

theorem run_append (engine : Engine) (first rest : List Operation) :
    engine.run (first ++ rest) = (engine.run first).run rest :=
  List.foldl_append

/-- A delivery that is not read leaves the engine alone. -/
theorem receive_cases (engine : Engine) (parcel : Parcel) (now : Timestamp) :
    (engine.receive parcel now).engine = engine ∨
      ∃ deposit, engine.receive parcel now = engine.deliverDeposit deposit now .absent := by
  cases parcel with
  | parsed deposit => exact Or.inr ⟨deposit, rfl⟩
  | payload json =>
    simp only [receive, deliver]
    split
    · exact Or.inl rfl
    · exact Or.inr ⟨_, rfl⟩

theorem receive_settings (engine : Engine) (parcel : Parcel) (now : Timestamp) :
    (engine.receive parcel now).engine.settings = engine.settings := by
  rcases engine.receive_cases parcel now with same | ⟨deposit, same⟩
  · rw [same]
  · rw [same]
    rfl

theorem receive_of_read (engine : Engine) {parcel : Parcel} {deposit : Deposit}
    (read : parcel.read = .ok deposit) (now : Timestamp) :
    engine.receive parcel now = engine.deliverDeposit deposit now .absent := by
  cases parcel with
  | parsed given =>
    cases read
    rfl
  | payload json =>
    change Payload.Delivery.read json = .ok deposit at read
    simp only [receive, deliver, read]

theorem receive_of_unread (engine : Engine) {parcel : Parcel} {fault : Fault}
    (unread : parcel.read = .error fault) (now : Timestamp) :
    engine.receive parcel now = engine.refuse fault := by
  cases parcel with
  | parsed deposit => cases unread
  | payload json =>
    change Payload.Delivery.read json = .error fault at unread
    simp only [receive, deliver, unread]

theorem act_changes (engine : Engine) (operation : Operation) :
    ReflTransGen Store.Change engine.store (engine.act operation).store := by
  cases operation with
  | declare payload now =>
    rcases Traffic.declare_alone engine payload now with same | ⟨intent, same⟩
    · rw [act, same]
    · rw [act, same]
      exact Traffic.act_changes (on engine.store) (.declare intent)
  | deliver parcel now =>
    rcases engine.receive_cases parcel now with same | ⟨deposit, same⟩
    · rw [act, same]
    · obtain ⟨ending, alone, -⟩ := Traffic.deliver_alone engine deposit now
      have changes := Traffic.run_changes (on engine.store)
        (.deliver engine.settings.matching (.parsed deposit) now ::
          List.replicate Delivery.mostSteps (.advance 0))
      rw [alone] at changes
      rw [act, same]
      exact changes
  | orphan id =>
    rw [act, Traffic.orphan_alone]
    exact Traffic.act_changes (on engine.store) (.orphan id)
  | sweep now =>
    obtain ⟨k, alone⟩ := Traffic.sweep_alone engine now
    have changes := Traffic.run_changes (on engine.store)
      (.sweep engine.settings.sweep now :: List.replicate k (.advance 0))
    rw [alone] at changes
    exact changes
  | getIntent | getAttribution | listPartner | configure => exact .refl

theorem run_changes (engine : Engine) (operations : List Operation) :
    ReflTransGen Store.Change engine.store (engine.run operations).store := by
  induction operations generalizing engine with
  | nil => exact .refl
  | cons operation rest ih => exact (act_changes engine operation).trans (ih _)

end Engine

end Reconcile
