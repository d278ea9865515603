import Reconcile.Proofs.Engine.Operations
import Reconcile.Proofs.Store.Frame

set_option autoImplicit false

/-
What an operation leaves alone. No row is lost or rewritten; only pending intents move, each kind
of operation to a status of its own and only the intents that it is about.
-/
namespace Reconcile

open Store (Keeps Moves Expires)

namespace Delivery

/-- A step of a delivery keeps all rows, or it takes the last step and matches one intent. -/
theorem Task.Leads.keeps {task : Task} {store after : Store} {stage next : Stage}
    (keyed : store.Keyed) (leads : Leads task false store stage next after) :
    Keeps (fun _ _ => False) store after ∨
      (∃ ending, next = .done ending) ∧ ∃ id, Keeps (Moves id .matched) store after := by
  cases leads with
  | observed done => exact Or.inl (Store.insertObserved_keeps _ done)
  | @recorded _ decision _ _ _ decides claims done =>
    have kept := Store.record_keeps keyed (claims.resolve_left Bool.false_ne_true) done
    refine Or.inr ⟨⟨_, rfl⟩, decision.intent.getD "", kept.mono ?_⟩
    rintro intent - status ⟨linked, rfl⟩
    exact ⟨by rw [linked]; rfl, rfl⟩
  | _ => exact Or.inl (.refl _ _)

/-- What a delivery has done to the tables so far: it has kept all rows, or it has ended and
matched one intent. -/
structure Stage.HasKept (start : Store) (stage : Stage) (store : Store) : Prop where
  keyed : store.Keyed
  keeps : Keeps (fun _ _ => False) start store ∨
    (∃ ending, stage = .done ending) ∧ ∃ id, Keeps (Moves id .matched) start store

theorem Stage.HasKept.step {task : Task} {start store : Store} {stage : Stage}
    (kept : stage.HasKept start store) :
    (task.step false stage store).stage.HasKept start (task.step false stage store).store := by
  have leads := task.step_leads false stage store
  refine ⟨kept.keyed.changes leads.changes, ?_⟩
  rcases kept.keeps with sofar | ⟨⟨ending, rfl⟩, moved⟩
  · rcases leads.keeps kept.keyed with still | ⟨ended, id, moves⟩
    · exact Or.inl (sofar.trans still)
    · exact Or.inr ⟨ended, id, (sofar.mono fun _ _ _ => False.elim).trans moves⟩
  · exact Or.inr ⟨⟨ending, rfl⟩, moved⟩

/-- However many steps it takes, a delivery matches at most one intent. -/
theorem run_keeps (task : Task) (fuel : Nat) (progress : Progress)
    (keyed : progress.store.Keyed) :
    ∃ id, Keeps (Moves id .matched) progress.store (run task fuel .absent progress).store := by
  have start : progress.stage.HasKept progress.store progress.store :=
    ⟨keyed, Or.inl (.refl _ _)⟩
  have kept := run_invariant task (fun _ _ => Stage.HasKept.step) fuel progress start
  rcases kept.keeps with sofar | ⟨-, moved⟩
  · exact ⟨"", sofar.mono fun _ _ _ => False.elim⟩
  · exact moved

end Delivery

theorem markAll_keeps (now : Timestamp) (deposits : List Deposit) (store : Store) :
    Keeps (fun _ _ => False) store (markAll now [] store deposits).store := by
  induction deposits generalizing store with
  | nil => exact .refl _ _
  | cons deposit rest ih =>
    cases result : store.markUnattributed deposit now with
    | ok marked =>
      rw [(Traffic.markAll_ok rest result).1]
      exact (Store.commit_keeps _ result).trans (ih marked.2)
    | error fault =>
      by_cases late : ∃ txHash, fault = .duplicateAttribution txHash
      · obtain ⟨txHash, rfl⟩ := late
        rw [(Traffic.markAll_duplicate rest result).1]
        exact ih store
      · rw [(Traffic.markAll_error rest result fun txHash same => late ⟨txHash, same⟩).1]
        exact .refl _ _

namespace Engine

theorem declare_keeps (engine : Engine) (payload : Json) (now : Timestamp) :
    Keeps (fun _ _ => False) engine.store (engine.declare payload now false).engine.store := by
  rcases Traffic.declare_alone engine payload now with same | ⟨intent, same⟩
  · rw [same]
    exact .refl _ _
  · rw [same]
    change Keeps _ engine.store (register engine.store intent false).2
    rcases register_cases engine.store intent with ⟨fault, refused⟩ | ⟨row, after, -, done, added⟩
    · rw [refused]
      exact .refl _ _
    · rw [added]
      exact Store.insertIntent_keeps _ done

theorem sweep_keeps (engine : Engine) (now : Timestamp) (keyed : engine.store.Keyed) :
    Keeps (Expires now) engine.store (engine.sweep now []).engine.store := by
  unfold sweep
  dsimp only
  split
  · exact .refl _ _
  · rename_i expired store done
    have moved := Store.expireDue_keeps keyed.intents done
    split
    · exact moved
    · rename_i deposits _
      have marked : Keeps (Expires now) engine.store (markAll now [] store deposits).store :=
        moved.trans ((markAll_keeps now deposits store).mono fun _ _ _ => False.elim)
      split <;> exact marked

end Engine

/-- Which intents an operation may move, and to what. A delivery may match one intent. -/
def Operation.May (id : String) : Operation → Intent → Status → Prop
  | .deliver _ _ => Moves id .matched
  | .orphan named => Moves named .orphan
  | .sweep now => Expires now
  | _ => fun _ _ => False

namespace Engine

theorem act_keeps (engine : Engine) (keyed : engine.store.Keyed) (operation : Operation) :
    ∃ id, Keeps (operation.May id) engine.store (engine.act operation).store := by
  cases operation with
  | declare payload now => exact ⟨"", declare_keeps engine payload now⟩
  | deliver parcel now =>
    rcases engine.receive_cases parcel now with same | ⟨deposit, same⟩
    · rw [act, same]
      exact ⟨"", .refl _ _⟩
    · rw [act, same]
      exact Delivery.run_keeps _ _ ⟨.lookUp, engine.store, []⟩ keyed
  | orphan id =>
    rw [act, Traffic.orphan_alone]
    exact ⟨"", Store.move_keeps keyed.intents id .orphan⟩
  | sweep now => exact ⟨"", sweep_keeps engine now keyed⟩
  | getIntent | getAttribution | listPartner | configure => exact ⟨"", .refl _ _⟩

/-- The keys of an engine that has started on empty tables are unique. -/
theorem run_keyed (settings : Settings) (operations : List Operation) :
    ((start settings).run operations).store.Keyed :=
  Store.empty_keyed.changes (run_changes (start settings) operations)

/-- No operation loses or rewrites a row, succeed or not. Only pending intents move: a delivery
matches one at most, a sweep expires those that have outlived their time, the others leave alone
what they do not name. So in a run an intent leaves pending at most once, and for good. -/
theorem operations_keep_rows (engine : Engine) (keyed : engine.store.Keyed) :
    (∀ operation : Operation, (engine.act operation).store.Keyed ∧
      ∃ id, Keeps (operation.May id) engine.store (engine.act operation).store) ∧
    ∀ (first rest : List Operation) (id : String) (intent : Intent),
      (engine.run first).store.intent? id = some intent →
      ∃ later, (engine.run (first ++ rest)).store.intent? id = some later ∧
        Store.Moved intent later := by
  refine ⟨?_, ?_⟩
  · intro operation
    exact ⟨keyed.changes (act_changes engine operation), act_keeps engine keyed operation⟩
  · intro first rest id intent found
    rw [run_append]
    have before := keyed.changes (run_changes engine first)
    have changes := run_changes (engine.run first) rest
    exact (Store.changes_keep before changes).intent? (before.changes changes) found

/-- An intent that was given up stays given up, though a deposit comes that fits it. -/
theorem operations_keep_rows_orphaned :
    (∃ id, Keeps ((Operation.sweep (.utc 60000000)).May id) awaiting.store
      (awaiting.act (.sweep (.utc 60000000))).store) ∧
    ∃ later, (awaiting.run ([.orphan "i"] ++ [.deliver (.parsed fitting) (.utc 0)])).store.intent?
        "i" = some later ∧ later.status = .orphan := by
  have keyed : awaiting.store.Keyed := ⟨by decide, by decide, by decide⟩
  obtain ⟨each, whole⟩ := operations_keep_rows awaiting keyed
  refine ⟨(each (.sweep (.utc 60000000))).2, ?_⟩
  have given : ((awaiting.run [.orphan "i"]).store.intent? "i").map (·.status) = some .orphan := by
    decide +kernel
  obtain ⟨intent, found, status⟩ := Option.map_eq_some_iff.mp given
  obtain ⟨later, present, next, rfl, still⟩ :=
    whole _ [.deliver (.parsed fitting) (.utc 0)] "i" _ found
  refine ⟨_, present, ?_⟩
  rw [status] at still
  exact still (by decide)

end Engine

end Reconcile
