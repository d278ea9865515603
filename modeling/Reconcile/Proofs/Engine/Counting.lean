import Reconcile.Proofs.Engine.Operations
import Reconcile.Proofs.Traffic.Metered

set_option autoImplicit false

/-
The counters of an engine. After every operation they say what the tables hold; and where calls run
at the same time, they say so as soon as every call has counted what it wrote.
-/
namespace Reconcile

open Relation (ReflTransGen)
open Store (Uncounted)

theorem markAll_uncounted (now : Timestamp) (deposits : List Deposit) (store : Store) :
    ReflTransGen Uncounted store (markAll now [] store deposits).store := by
  induction deposits generalizing store with
  | nil => exact .refl
  | cons deposit rest ih =>
    cases result : store.markUnattributed deposit now with
    | ok marked =>
      rw [(Traffic.markAll_ok rest result).1]
      exact .head (.flagged result) (ih marked.2)
    | error fault =>
      by_cases late : ∃ txHash, fault = .duplicateAttribution txHash
      · obtain ⟨txHash, rfl⟩ := late
        rw [(Traffic.markAll_duplicate rest result).1]
        exact ih store
      · rw [(Traffic.markAll_error rest result fun txHash same => late ⟨txHash, same⟩).1]

namespace Engine

variable {engine : Engine}

theorem sweep_uncounted (engine : Engine) (now : Timestamp) :
    ReflTransGen Uncounted engine.store (engine.sweep now []).engine.store ∧
      (engine.sweep now []).engine.counters = engine.counters := by
  unfold sweep
  dsimp only
  split
  · exact ⟨.refl, rfl⟩
  · rename_i expired store done
    obtain ⟨due, rfl⟩ := Store.expireDue_eq_ok done
    have moves := Store.expireAll_moves (fun _ id => Uncounted.moved id .expired) engine.store due
    split
    · exact ⟨moves, rfl⟩
    · rename_i deposits _
      have marks := moves.trans (markAll_uncounted now deposits _)
      split <;> exact ⟨marks, rfl⟩

theorem declare_booked (payload : Json) (now : Timestamp) (sound : engine.store.Sound)
    (booked : engine.store.Booked engine.counters) :
    (engine.declare payload now false).engine.store.Booked
      (engine.declare payload now false).engine.counters := by
  unfold declare
  dsimp only
  split
  · exact booked
  · rename_i intent _
    rcases register_cases engine.store intent with ⟨fault, refused⟩ | ⟨row, after, -, done, added⟩
    · rw [refused]
      exact booked
    · rw [added]
      exact booked.declared sound done

theorem orphan_booked (id : String) (booked : engine.store.Booked engine.counters) :
    (engine.orphan id).engine.store.Booked (engine.orphan id).engine.counters := by
  unfold orphan
  split
  · exact booked
  · exact booked.move id .orphan

/-- The counters as they will be if a delivery ends where it stands. -/
def countersAt (engine : Engine) (deposit : Deposit) (stage : Delivery.Stage) : Counters :=
  match stage.ending with
  | .attributed attribution => engine.counters.countMatched deposit.bucket attribution
  | _ => engine.counters

/-- What is due after a step is what the counters of a delivery lack. -/
theorem settle_countersAt (engine : Engine) (deposit : Deposit) {stage : Delivery.Stage}
    (going : ∀ ending, stage ≠ .done ending) (next : Delivery.Stage) :
    (engine.countersAt deposit stage).settle (stage.due deposit next) =
      engine.countersAt deposit next := by
  cases stage with
  | done ending => exact absurd rfl (going ending)
  | _ =>
    cases next with
    | done ending => cases ending <;> rfl
    | _ => rfl

theorem deliverDeposit_booked (deposit : Deposit) (now : Timestamp) (sound : engine.store.Sound)
    (booked : engine.store.Booked engine.counters) :
    (engine.deliverDeposit deposit now .absent).engine.store.Booked
      (engine.deliverDeposit deposit now .absent).engine.counters := by
  let task : Delivery.Task := ⟨engine.settings.matching, deposit, now⟩
  let invariant (stage : Delivery.Stage) (store : Store) : Prop :=
    task.Knows store stage ∧ store.Sound ∧ store.Booked (engine.countersAt deposit stage)
  have stepped : ∀ stage store, invariant stage store →
      invariant (task.step false stage store).stage (task.step false stage store).store := by
    intro stage store ⟨knows, sound, booked⟩
    have leads := task.step_leads false stage store
    refine ⟨knows.step false, sound.changes leads.changes, ?_⟩
    by_cases ended : ∃ ending, stage = .done ending
    · obtain ⟨ending, rfl⟩ := ended
      exact booked
    · rw [← settle_countersAt engine deposit fun ending same => ended ⟨ending, same⟩]
      exact leads.booked knows sound booked
  exact (Delivery.run_invariant task stepped Delivery.mostSteps ⟨.lookUp, engine.store, []⟩
    ⟨.lookUp, sound, booked⟩).2.2

theorem act_booked (operation : Operation) (sound : engine.store.Sound)
    (booked : engine.store.Booked engine.counters) :
    (engine.act operation).store.Booked (engine.act operation).counters := by
  cases operation with
  | declare payload now => exact declare_booked payload now sound booked
  | deliver parcel now =>
    rcases engine.receive_cases parcel now with same | ⟨deposit, same⟩
    · rw [act, same]
      exact booked
    · rw [act, same]
      exact deliverDeposit_booked deposit now sound booked
  | orphan id => exact orphan_booked id booked
  | sweep now =>
    obtain ⟨writes, same⟩ := engine.sweep_uncounted now
    rw [act, same]
    exact booked.uncounteds writes
  | getIntent | getAttribution | listPartner | configure => exact booked

/-- The counters of an engine that has started on empty tables. -/
theorem run_booked (settings : Settings) (operations : List Operation) :
    ((start settings).run operations).store.Booked
      ((start settings).run operations).counters := by
  induction operations using List.reverseRecOn with
  | nil => exact Store.empty_booked
  | append_singleton operations operation ih =>
    rw [run_append]
    have sound : ((start settings).run operations).store.Sound :=
      Store.empty_sound.changes (run_changes (start settings) operations)
    exact act_booked operation sound ih

/-- After any operations of an engine that has started on empty tables, its counters say what the
tables hold. Where calls run at the same time, each in steps and counting by itself after it has
written, the counters and what is still to be counted say so together; once everything is counted,
the counters do. -/
theorem counters_agree_with_tables :
    (∀ (settings : Settings) (operations : List Operation),
      ((start settings).run operations).store.Counted
        ((start settings).run operations).counters) ∧
    ∀ steps : List Metered.Step,
      (Metered.start.run steps).traffic.store.Counted
        ((Metered.start.run steps).counters.settle (Metered.start.run steps).due) ∧
      ((Metered.start.run steps).due = [] →
        (Metered.start.run steps).traffic.store.Counted (Metered.start.run steps).counters) := by
  refine ⟨?_, ?_⟩
  · intro settings operations
    have changes := run_changes (start settings) operations
    exact (run_booked settings operations).counted (Store.empty_sound.changes changes)
      (Store.empty_paired.changes changes)
  · intro steps
    have sound := Metered.run_traffic steps ▸ Traffic.run_sound _
    have paired := Metered.run_traffic steps ▸ Traffic.run_paired _
    have counted := (Metered.run_booked steps).counted sound paired
    refine ⟨counted, ?_⟩
    intro nothing
    rw [nothing] at counted
    exact counted

/-- Two deliveries choose one intent. The second loses it to the first and stays open. -/
def contended : List Metered.Step :=
  [.go (.declare Traffic.Sample.intent), .count 0,
    .go (.deliver .usual (.parsed Traffic.Sample.deposit) (.utc 0)),
    .go (.deliver .usual (.parsed { Traffic.Sample.deposit with txHash := "u" }) (.utc 0))] ++
    List.replicate 4 (.go (.advance 0)) ++ List.replicate 4 (.go (.advance 1)) ++
    [.go (.advance 0), .go (.advance 1), .go (.advance 1), .count 0]

def endedOpen : Activity → Bool
  | .delivery _ (.done .leftOpen) => true
  | _ => false

theorem counters_agree_with_tables_contended :
    ((Metered.start.run contended).traffic.calls.map endedOpen = [false, true] ∧
      (Metered.start.run contended).due.length = 0 ∧
      (Metered.start.run contended).counters =
        ⟨[⟨"v", 1, "acme", none⟩], [⟨"v", 1, "acme", some .inferred⟩]⟩) ∧
      (Metered.start.run contended).traffic.store.Counted
        (Metered.start.run contended).counters := by
  have played : (Metered.start.run contended).traffic.calls.map endedOpen = [false, true] ∧
      (Metered.start.run contended).due.length = 0 ∧
      (Metered.start.run contended).counters =
        ⟨[⟨"v", 1, "acme", none⟩], [⟨"v", 1, "acme", some .inferred⟩]⟩ := by
    decide +kernel
  exact ⟨played, (counters_agree_with_tables.2 contended).2
    (List.eq_nil_of_length_eq_zero played.2.1)⟩

end Engine

end Reconcile
