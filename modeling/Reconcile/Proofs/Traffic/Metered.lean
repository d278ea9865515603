import Reconcile.Proofs.Delivery.Counting

set_option autoImplicit false

/-
Calls that run at the same time and share their counters. A call counts after its transaction has
ended, so others may act, and count, between a write and its counting.
-/
namespace Reconcile

open Relation (ReflTransGen)

/-- The calls, the counters and what has been written but is not counted yet. -/
structure Metered where
  traffic : Traffic
  counters : Counters
  due : List Due

/-- What happens next: something in the traffic, or one of the writes is counted. -/
inductive Metered.Step
  | go (move : Move)
  | count (due : Nat)

/-- What is due after something has happened. -/
def Traffic.due (traffic : Traffic) : Move → List Due
  | .advance n =>
    match traffic.calls[n]? with
    | some (.delivery task stage) =>
      stage.due task.deposit (task.step false stage traffic.store).stage
    | _ => []
  | .declare intent =>
    match Engine.register traffic.store intent false with
    | (.ok told, _) => [.declared told]
    | (.error _, _) => []
  | _ => []

namespace Metered

def start : Metered := ⟨.on .empty, .zero, []⟩

def act (metered : Metered) : Step → Metered
  | .go move =>
    { metered with
      traffic := metered.traffic.act move
      due := metered.traffic.due move ++ metered.due }
  | .count n =>
    match metered.due[n]? with
    | none => metered
    | some due =>
      { metered with counters := due.count metered.counters, due := metered.due.eraseIdx n }

def run (metered : Metered) (steps : List Step) : Metered := steps.foldl act metered

theorem run_concat (metered : Metered) (steps : List Step) (step : Step) :
    metered.run (steps ++ [step]) = (metered.run steps).act step := by
  simp [run]

/-- What happens in the traffic does not depend on what is counted. -/
theorem run_traffic (steps : List Step) :
    (start.run steps).traffic = (Traffic.on .empty).run (steps.filterMap fun
      | .go move => some move
      | .count _ => none) := by
  induction steps using List.reverseRecOn with
  | nil => rfl
  | append_singleton steps step ih =>
    rw [run_concat, List.filterMap_append]
    cases step with
    | go move =>
      change (start.run steps).traffic.act move = Traffic.run _ (_ ++ [move])
      rw [Traffic.run_concat, ih]
    | count n =>
      have same : ((start.run steps).act (.count n)).traffic = (start.run steps).traffic := by
        unfold act
        dsimp only
        split <;> rfl
      rw [same, ih]
      simp

end Metered

namespace Traffic

/-- Deliveries under way know what they decide by. -/
def Aware (store : Store) : Activity → Prop
  | .delivery task stage => task.Knows store stage
  | _ => True

theorem Aware.changes {store after : Store} {call : Activity} (aware : Aware store call)
    (changes : ReflTransGen Store.Change store after) : Aware after call := by
  cases call with
  | delivery task stage => exact Delivery.Task.Knows.changes aware changes
  | _ => exact True.intro

theorem run_aware (schedule : List Move) :
    Holds (fun _ => True) Aware ((on .empty).run schedule) := by
  refine (Holds.on True.intro).steps schedule ?_ ?_ ?_ ?_ ?_
  · intro policy parcel now _ store
    unfold Activity.ofParcel
    split
    · exact True.intro
    · exact .lookUp
  · exact fun _ _ _ => True.intro
  · intro first rest n call _ _ _ aware
    refine ⟨True.intro, ?_⟩
    cases call with
    | delivery task stage => exact Delivery.Task.Knows.step aware false
    | _ => exact True.intro
  · exact fun _ _ _ changes aware => aware.changes changes
  · exact fun _ _ _ _ _ _ => True.intro

variable {traffic : Traffic} {counters : Counters}

/-- A sweep writes nothing that is counted. -/
theorem SweepStage.Leads.uncounted {rule : SweepRule} {now : Timestamp} {store after : Store}
    {stage next : SweepStage} (leads : stage.Leads rule now store next after) :
    ReflTransGen Store.Uncounted store after := by
  cases leads with
  | expired due expired => exact Store.expireAll_moves (fun _ id => .moved id .expired) store due
  | marked expired flagged rest done => exact .single (.flagged done)
  | _ => exact .refl

/-- What happens leaves the counters behind the tables by no more than what is due. -/
theorem act_booked (aware : Holds (fun _ => True) Aware traffic) (sound : traffic.store.Sound)
    (booked : traffic.store.Booked counters) (move : Move) :
    (traffic.act move).store.Booked (counters.settle (traffic.due move)) := by
  cases move with
  | deliver policy parcel now => exact booked
  | sweep rule now => exact booked
  | advance n =>
    cases found : traffic.calls[n]? with
    | none =>
      simp only [act, due, found]
      exact booked
    | some call =>
      rw [act_advance found]
      cases call with
      | delivery task stage =>
        simp only [due, found, Activity.step_delivery]
        have knows : task.Knows traffic.store stage := aware.calls n _ found
        exact (task.step_leads false stage traffic.store).booked knows sound booked
      | refused fault =>
        simp only [due, found]
        exact booked
      | sweep rule now stage =>
        simp only [due, found, Activity.step_sweep]
        exact booked.uncounteds (SweepStage.Leads.uncounted (stage.step_leads rule now _))
  | declare intent =>
    rcases Engine.register_cases traffic.store intent with
      ⟨fault, refused⟩ | ⟨row, after, -, done, added⟩
    · simp only [act, due, refused]
      exact booked
    · simp only [act, due, added]
      exact booked.declared sound done
  | orphan id => exact booked.move id .orphan

end Traffic

namespace Metered

/-- With all that is due, the counters say what the tables hold. -/
theorem run_booked (steps : List Step) :
    (start.run steps).traffic.store.Booked
      ((start.run steps).counters.settle (start.run steps).due) := by
  induction steps using List.reverseRecOn with
  | nil => exact Store.empty_booked
  | append_singleton steps step ih =>
    rw [run_concat]
    cases step with
    | go move =>
      change ((start.run steps).traffic.act move).store.Booked (Counters.settle _ (_ ++ _))
      rw [Counters.settle_append]
      have aware := run_traffic steps ▸ Traffic.run_aware _
      have sound := run_traffic steps ▸ Traffic.run_sound _
      exact Traffic.act_booked aware sound ih move
    | count n =>
      simp only [act]
      split
      · exact ih
      · rename_i due found
        obtain ⟨inside, rfl⟩ := List.getElem?_eq_some_iff.mp found
        -- What is counted now might as well have been the first thing that was due.
        have first := (List.getElem_cons_eraseIdx_perm inside).symm.trans
          (List.perm_append_singleton _ _).symm
        have counted := ih.perm first
        rw [Counters.settle_append] at counted
        exact counted

end Metered

end Reconcile
