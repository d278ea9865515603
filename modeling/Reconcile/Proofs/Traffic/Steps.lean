import Mathlib.Data.List.Induction
import Reconcile.Proofs.Engine.Failures
import Reconcile.Proofs.Store.Changes
import Reconcile.Proofs.Traffic.Basic

set_option autoImplicit false

/-
What a schedule leaves. Every step is a row of changes to the tables; a property of the tables and
of the calls under way that each kind of step keeps holds after every schedule.
-/
namespace Reconcile

open Relation (ReflTransGen)

/-- Where a step of a sweep leads and what the tables hold then. -/
inductive SweepStage.Leads (rule : SweepRule) (now : Timestamp) (store : Store) :
    SweepStage → SweepStage → Store → Prop
  | expired (due expired : List String) :
      Leads rule now store .expire (.find expired) (store.expireAll due).2
  | found (expired : List String) {deposits : List Deposit}
      (stale : store.stale rule now = .ok deposits) :
      Leads rule now store (.find expired) (.mark expired [] deposits) store
  | marked (expired flagged : List String) {deposit : Deposit} (rest : List Deposit)
      {attribution : Attribution} {after : Store}
      (done : store.markUnattributed deposit now = .ok (attribution, after)) :
      Leads rule now store (.mark expired flagged (deposit :: rest))
        (.mark expired (flagged ++ [deposit.txHash]) rest) after
  | passed (expired flagged : List String) (deposit : Deposit) (rest : List Deposit) :
      Leads rule now store (.mark expired flagged (deposit :: rest))
        (.mark expired flagged rest) store
  | ended (stage : SweepStage) (result : Except Fault SweepReport) :
      Leads rule now store stage (.done result) store

theorem SweepStage.step_leads (rule : SweepRule) (now : Timestamp) (store : Store)
    (stage : SweepStage) :
    Leads rule now store stage (stage.step rule now store).1 (stage.step rule now store).2 := by
  cases stage with
  | expire =>
    cases result : store.expireDue now rule.batch with
    | error fault =>
      simp only [step, result]
      exact .ended _ _
    | ok moved =>
      obtain ⟨due, after⟩ := Store.expireDue_eq_ok result
      simp only [step, result, after]
      exact .expired due _
  | find expired =>
    cases result : store.stale rule now with
    | error fault =>
      simp only [step, result]
      exact .ended _ _
    | ok deposits =>
      simp only [step, result]
      exact .found expired result
  | mark expired flagged deposits =>
    cases deposits with
    | nil => exact .ended _ _
    | cons deposit rest =>
      simp only [step]
      split
      · rename_i done
        exact .marked expired flagged rest done
      · exact .passed expired flagged deposit rest
      · exact .ended _ _
  | done result => exact .ended _ _

open Store (Change)

theorem Delivery.Task.Leads.changes {task : Delivery.Task} {store after : Store}
    {stage next : Delivery.Stage} (leads : task.Leads false store stage next after) :
    ReflTransGen Change store after := by
  cases leads with
  | observed done => exact .single (.observed done)
  | recorded decides claims done =>
    exact .single (.recorded (claims.resolve_left Bool.false_ne_true) done)
  | _ => exact .refl

theorem SweepStage.Leads.changes {rule : SweepRule} {now : Timestamp} {store after : Store}
    {stage next : SweepStage} (leads : stage.Leads rule now store next after) :
    ReflTransGen Change store after := by
  cases leads with
  | expired due expired => exact Store.expireAll_moves (fun _ id => .moved id (by decide)) store due
  | marked expired flagged rest done =>
    exact .single (.recorded (store.claims_unattributed _) done)
  | _ => exact .refl

/-- Where a step of a call leads and what the tables hold then. -/
inductive Activity.Leads (store : Store) : Activity → Activity → Store → Prop
  | delivery {task : Delivery.Task} {stage next : Delivery.Stage} {after : Store}
      (leads : task.Leads false store stage next after) :
      Leads store (.delivery task stage) (.delivery task next) after
  | refused (fault : Fault) : Leads store (.refused fault) (.refused fault) store
  | sweep {rule : SweepRule} {now : Timestamp} {stage next : SweepStage} {after : Store}
      (leads : stage.Leads rule now store next after) :
      Leads store (.sweep rule now stage) (.sweep rule now next) after

theorem Activity.step_leads (store : Store) (call : Activity) :
    Leads store call (call.step store).1 (call.step store).2 := by
  cases call with
  | delivery task stage =>
    rw [step_delivery]
    exact .delivery (task.step_leads false stage store)
  | refused fault => exact .refused fault
  | sweep rule now stage =>
    rw [step_sweep]
    exact .sweep (stage.step_leads rule now store)

theorem Activity.Leads.changes {store after : Store} {call next : Activity}
    (leads : Leads store call next after) : ReflTransGen Change store after := by
  cases leads with
  | delivery leads => exact leads.changes
  | refused fault => exact .refl
  | sweep leads => exact leads.changes

namespace Traffic

theorem act_changes (traffic : Traffic) (move : Move) :
    ReflTransGen Change traffic.store (traffic.act move).store := by
  cases move with
  | deliver policy parcel now => exact .refl
  | sweep rule now => exact .refl
  | advance n =>
    cases found : traffic.calls[n]? with
    | none => simp only [act, found, ReflTransGen.refl]
    | some call =>
      rw [act_advance found]
      exact (call.step_leads traffic.store).changes
  | declare intent =>
    rcases Engine.register_cases traffic.store intent with
      ⟨fault, refused⟩ | ⟨row, after, pending, done, added⟩
    · simp only [act, refused, ReflTransGen.refl]
    · simp only [act, added]
      exact .single (.declared pending done)
  | orphan id => exact .single (.moved id (by decide))

theorem run_changes (traffic : Traffic) (schedule : List Move) :
    ReflTransGen Change traffic.store (traffic.run schedule).store := by
  induction schedule using List.reverseRecOn with
  | nil => exact .refl
  | append_singleton schedule move ih =>
    rw [run_concat]
    exact ih.trans (act_changes _ move)

theorem run_sound (schedule : List Move) : ((on .empty).run schedule).store.Sound :=
  Store.empty_sound.changes (run_changes (on .empty) schedule)

theorem run_paired (schedule : List Move) : ((on .empty).run schedule).store.Paired :=
  Store.empty_paired.changes (run_changes (on .empty) schedule)

/-- A property of the tables, and one of every call that was begun. -/
structure Holds (tables : Store → Prop) (call : Store → Activity → Prop) (traffic : Traffic) :
    Prop where
  store : tables traffic.store
  calls : ∀ (n : Nat) (activity : Activity), traffic.calls[n]? = some activity →
    call traffic.store activity

theorem Holds.on {tables : Store → Prop} {call : Store → Activity → Prop} {store : Store}
    (start : tables store) : Holds tables call (on store) := by
  refine ⟨start, ?_⟩
  intro n activity found
  cases found

/-- What is to be shown so that such properties hold after every schedule: what calls begin with,
what a step of a call leaves, and that neither what others do nor what leaves the tables of
deposits alone breaks them. -/
theorem Holds.steps {tables : Store → Prop} {call : Store → Activity → Prop} {traffic : Traffic}
    (start : Holds tables call traffic) (schedule : List Move)
    (delivered : ∀ policy parcel now, .deliver policy parcel now ∈ schedule →
      ∀ store, call store (.ofParcel policy parcel now))
    (swept : ∀ rule now store, call store (.sweep rule now .expire))
    (stepped : ∀ first rest n activity, schedule = first ++ .advance n :: rest →
      (traffic.run first).calls[n]? = some activity →
      tables (traffic.run first).store → call (traffic.run first).store activity →
      tables (activity.step (traffic.run first).store).2 ∧
        call (activity.step (traffic.run first).store).2
          (activity.step (traffic.run first).store).1)
    (kept : ∀ store after activity, ReflTransGen Change store after → call store activity →
      call after activity)
    (changed : ∀ store after, Change store after → after.observed = store.observed →
      after.attributions = store.attributions → tables store → tables after) :
    Holds tables call (traffic.run schedule) := by
  -- By induction on the part of the schedule that is done, with the rest of it in view.
  suffices prefixes : ∀ first rest, schedule = first ++ rest → Holds tables call (traffic.run first)
    from prefixes schedule [] (List.append_nil schedule).symm
  intro first
  induction first using List.reverseRecOn with
  | nil => exact fun _ _ => start
  | append_singleton first move ih =>
    intro rest whole
    rw [List.append_assoc, List.singleton_append] at whole
    have before := ih (move :: rest) whole
    rw [run_concat]
    refine ⟨?_, ?_⟩
    · cases move with
      | deliver policy parcel now => exact before.store
      | sweep rule now => exact before.store
      | advance n =>
        cases found : (traffic.run first).calls[n]? with
        | none => simpa only [act, found] using before.store
        | some activity =>
          rw [act_advance found]
          exact (stepped first rest n activity whole found before.store
            (before.calls n activity found)).1
      | declare intent =>
        rcases Engine.register_cases (traffic.run first).store intent with
          ⟨fault, refused⟩ | ⟨row, after, pending, done, added⟩
        · simpa only [act, refused] using before.store
        · have change : Change (traffic.run first).store after := .declared pending done
          obtain ⟨-, _, -, -, rfl⟩ := Store.insertIntent_eq_ok done
          simp only [act, added]
          exact changed (traffic.run first).store _ change rfl rfl before.store
      | orphan id =>
        exact changed _ _ (.moved id (by decide)) (Store.move_observed _ _ _)
          (Store.move_attributions _ _ _) before.store
    · intro n activity found
      rcases act_calls found with ⟨old, -⟩ | ⟨activity, present, rfl, rfl⟩ |
        ⟨policy, parcel, now, rfl, rfl⟩ | ⟨rule, now, rfl, rfl⟩
      · exact kept _ _ _ (act_changes _ _) (before.calls n activity old)
      · rw [act_advance present]
        exact (stepped first rest n activity whole present before.store
          (before.calls n activity present)).2
      · exact delivered policy parcel now (by simp [whole]) _
      · exact swept rule now _

/-- The same, where it does not matter which of the steps that a stage allows is taken. -/
theorem Holds.run {tables : Store → Prop} {call : Store → Activity → Prop} {traffic : Traffic}
    (start : Holds tables call traffic) (schedule : List Move)
    (delivered : ∀ policy parcel now, .deliver policy parcel now ∈ schedule →
      ∀ store, call store (.ofParcel policy parcel now))
    (swept : ∀ rule now store, call store (.sweep rule now .expire))
    (stepped : ∀ first rest n activity next after, schedule = first ++ .advance n :: rest →
      (traffic.run first).calls[n]? = some activity →
      Activity.Leads (traffic.run first).store activity next after →
      tables (traffic.run first).store → call (traffic.run first).store activity →
      tables after ∧ call after next)
    (kept : ∀ store after activity, ReflTransGen Change store after → call store activity →
      call after activity)
    (ignored : ∀ store after, after.observed = store.observed →
      after.attributions = store.attributions → tables store → tables after) :
    Holds tables call (traffic.run schedule) := by
  refine start.steps schedule delivered swept ?_ kept fun store after _ => ignored store after
  intro first rest n activity whole found
  exact stepped first rest n activity _ _ whole found (activity.step_leads _)

end Traffic

end Reconcile
