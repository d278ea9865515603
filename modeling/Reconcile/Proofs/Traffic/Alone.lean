import Reconcile.Engine.Deliver
import Reconcile.Proofs.Delivery.Leads
import Reconcile.Proofs.Store.Writes
import Reconcile.Proofs.Traffic.Basic

set_option autoImplicit false

/-
Calls that nobody disturbs. Taken step by step in a schedule they do what the engine does when it
makes them as a whole.
-/
namespace Reconcile.Traffic

open Delivery (Task Progress Rival)

theorem run_replicate_succ (traffic : Traffic) (k : Nat) (move : Move) :
    traffic.run (List.replicate (k + 1) move) = (traffic.act move).run (List.replicate k move) := by
  simp only [run, List.replicate_succ, List.foldl_cons]

theorem advance_alone (store : Store) (call : Activity) :
    (⟨store, [call]⟩ : Traffic).act (.advance 0) = ⟨(call.step store).2, [(call.step store).1]⟩ :=
  rfl

theorem run_of_done_alone (task : Task) (ending : Delivery.Ending) (store : Store) (k : Nat) :
    (⟨store, [.delivery task (.done ending)]⟩ : Traffic).run (List.replicate k (.advance 0)) =
      ⟨store, [.delivery task (.done ending)]⟩ := by
  induction k with
  | zero => rfl
  | succ k ih =>
    rw [run_replicate_succ, advance_alone]
    exact ih

/-- A delivery without a rival takes the steps that a schedule gives it. -/
theorem delivery_alone (task : Task) (k : Nat) (progress : Progress) :
    (⟨progress.store, [.delivery task progress.stage]⟩ : Traffic).run
        (List.replicate k (.advance 0)) =
      ⟨(Delivery.run task k .absent progress).store,
        [.delivery task (Delivery.run task k .absent progress).stage]⟩ := by
  induction k generalizing progress with
  | zero => rfl
  | succ k ih =>
    by_cases ended : ∃ ending, progress.stage = .done ending
    · obtain ⟨stage, store, events⟩ := progress
      obtain ⟨ending, rfl⟩ := ended
      rw [Delivery.run_of_done, run_of_done_alone]
    · rw [Delivery.run_succ task k fun ending same => ended ⟨ending, same⟩, run_replicate_succ,
        advance_alone, Activity.step_delivery]
      generalize task.step false progress.stage progress.store = next
      exact ih ⟨next.stage, next.store, progress.events ++ next.events⟩

section Marking

variable {store after : Store} {deposit : Deposit} {now : Timestamp} {attribution : Attribution}

theorem markAll_ok (rest : List Deposit)
    (done : store.markUnattributed deposit now = .ok (attribution, after)) :
    (markAll now [] store (deposit :: rest)).store = (markAll now [] after rest).store ∧
      (markAll now [] store (deposit :: rest)).flagged =
        (markAll now [] after rest).flagged.map (deposit.txHash :: ·) := by
  simp [markAll, done]

theorem markAll_duplicate (rest : List Deposit) {txHash : String}
    (late : store.markUnattributed deposit now = .error (.duplicateAttribution txHash)) :
    (markAll now [] store (deposit :: rest)).store = (markAll now [] store rest).store ∧
      (markAll now [] store (deposit :: rest)).flagged = (markAll now [] store rest).flagged := by
  simp [markAll, late]

theorem markAll_error (rest : List Deposit) {fault : Fault}
    (failed : store.markUnattributed deposit now = .error fault)
    (other : ∀ txHash, fault ≠ .duplicateAttribution txHash) :
    (markAll now [] store (deposit :: rest)).store = store ∧
      (markAll now [] store (deposit :: rest)).flagged = .error fault := by
  cases fault with
  | duplicateAttribution txHash => exact absurd rfl (other txHash)
  | _ => simp [markAll, failed]

end Marking

/-- Deposits are marked one with every step. -/
theorem marking_alone (rule : SweepRule) (now : Timestamp) (expired flagged : List String)
    (deposits : List Deposit) (store : Store) :
    ∃ k, (⟨store, [.sweep rule now (.mark expired flagged deposits)]⟩ : Traffic).run
        (List.replicate k (.advance 0)) =
      ⟨(markAll now [] store deposits).store,
        [.sweep rule now (.done ((markAll now [] store deposits).flagged.map fun more =>
          ⟨now, expired, flagged ++ more⟩))]⟩ := by
  induction deposits generalizing flagged store with
  | nil =>
    refine ⟨1, ?_⟩
    simp [markAll, Except.map, List.replicate, run, advance_alone, SweepStage.step]
  | cons deposit rest ih =>
    cases result : store.markUnattributed deposit now with
    | ok marked =>
      obtain ⟨attribution, after⟩ := marked
      obtain ⟨left, flagged'⟩ := markAll_ok rest result
      obtain ⟨k, others⟩ := ih (flagged ++ [deposit.txHash]) after
      refine ⟨k + 1, ?_⟩
      rw [run_replicate_succ, advance_alone, Activity.step_sweep, left, flagged']
      simp only [SweepStage.step, result, others]
      cases (markAll now [] after rest).flagged with
      | error fault => rfl
      | ok more => simp [Except.map]
    | error fault =>
      by_cases late : ∃ txHash, fault = .duplicateAttribution txHash
      · obtain ⟨txHash, rfl⟩ := late
        obtain ⟨left, same⟩ := markAll_duplicate rest result
        obtain ⟨k, others⟩ := ih flagged store
        refine ⟨k + 1, ?_⟩
        rw [run_replicate_succ, advance_alone, Activity.step_sweep, left, same]
        simp only [SweepStage.step, result, others]
      · obtain ⟨left, failed⟩ := markAll_error rest result fun txHash same => late ⟨txHash, same⟩
        refine ⟨1, ?_⟩
        rw [run_replicate_succ, advance_alone, Activity.step_sweep, left, failed]
        cases fault with
        | duplicateAttribution txHash => exact absurd ⟨txHash, rfl⟩ late
        | _ =>
          simp only [SweepStage.step, result]
          rfl

/-- A sweep that is taken step by step ends as the engine's sweep does. -/
theorem sweep_alone (engine : Engine) (now : Timestamp) :
    ∃ k, (on engine.store).run
        (.sweep engine.settings.sweep now :: List.replicate k (.advance 0)) =
      ⟨(engine.sweep now []).engine.store,
        [.sweep engine.settings.sweep now (.done (engine.sweep now []).result)]⟩ := by
  have begun : ∀ rest, (on engine.store).run (.sweep engine.settings.sweep now :: rest) =
      (⟨engine.store, [.sweep engine.settings.sweep now .expire]⟩ : Traffic).run rest :=
    fun _ => rfl
  simp only [begun, Engine.sweep]
  cases due : engine.store.expireDue now engine.settings.sweep.batch with
  | error fault =>
    refine ⟨1, ?_⟩
    rw [run_replicate_succ, advance_alone, Activity.step_sweep]
    simp only [SweepStage.step, due]
    rfl
  | ok moved =>
    obtain ⟨expired, store⟩ := moved
    cases found : store.stale engine.settings.sweep now with
    | error fault =>
      refine ⟨2, ?_⟩
      rw [run_replicate_succ, advance_alone, Activity.step_sweep, run_replicate_succ, advance_alone,
        Activity.step_sweep]
      simp only [SweepStage.step, due, found]
      rfl
    | ok deposits =>
      obtain ⟨k, marked⟩ := marking_alone engine.settings.sweep now expired [] deposits store
      refine ⟨k + 2, ?_⟩
      rw [run_replicate_succ, advance_alone, Activity.step_sweep, run_replicate_succ, advance_alone,
        Activity.step_sweep]
      simp only [SweepStage.step, due, found, marked]
      cases (markAll now [] store deposits).flagged with
      | error fault => rfl
      | ok flagged => rfl

/-- A delivery that is taken step by step ends as the engine's delivery does. -/
theorem deliver_alone (engine : Engine) (deposit : Deposit) (now : Timestamp) :
    ∃ ending, (on engine.store).run
        (.deliver engine.settings.matching (.parsed deposit) now ::
          List.replicate Delivery.mostSteps (.advance 0)) =
      ⟨(engine.deliverDeposit deposit now .absent).engine.store,
        [.delivery ⟨engine.settings.matching, deposit, now⟩ (.done ending)]⟩ ∧
      (engine.deliverDeposit deposit now .absent).result = ending.result := by
  have begun : ∀ rest,
      (on engine.store).run (.deliver engine.settings.matching (.parsed deposit) now :: rest) =
        (⟨engine.store, [.delivery ⟨engine.settings.matching, deposit, now⟩ .lookUp]⟩ : Traffic).run
          rest := fun _ => rfl
  have alone := delivery_alone ⟨engine.settings.matching, deposit, now⟩ Delivery.mostSteps
    ⟨.lookUp, engine.store, []⟩
  have enough : Delivery.Stage.lookUp.left ≤ Delivery.mostSteps := by decide
  obtain ⟨ending, ended⟩ := Delivery.run_done ⟨engine.settings.matching, deposit, now⟩
    Delivery.mostSteps .absent ⟨.lookUp, engine.store, []⟩ enough
  rw [begun, alone, ended]
  refine ⟨ending, rfl, ?_⟩
  simp only [Engine.deliverDeposit, Delivery.process, ended, Delivery.Stage.ending]

/-- Declarations change the tables as in a schedule, unless they are refused. -/
theorem declare_alone (engine : Engine) (payload : Json) (now : Timestamp) :
    (engine.declare payload now false).engine.store = engine.store ∨
      ∃ intent, (engine.declare payload now false).engine.store =
        ((on engine.store).act (.declare intent)).store := by
  unfold Engine.declare
  dsimp only
  split
  · exact Or.inl rfl
  · rename_i intent _
    refine Or.inr ⟨intent, ?_⟩
    simp only [act, on]
    split
    · rename_i fault store result
      rw [result]
    · rename_i stored store result
      rw [result]

theorem orphan_alone (engine : Engine) (id : String) :
    (engine.orphan id).engine.store = ((on engine.store).act (.orphan id)).store := by
  unfold Engine.orphan Store.getIntent
  cases found : engine.store.intent? id with
  | some intent => rfl
  | none =>
    have notPending : engine.store.isPending id = false := by simp [Store.isPending, found]
    simp [Engine.refuse, act, on, Store.move, notPending]

end Reconcile.Traffic
