import Reconcile.Proofs.Delivery.Evidence
import Reconcile.Proofs.Traffic.Observed

set_option autoImplicit false

/-
Where attributions come from. If all deliveries go by one policy, then every new attribution is
what the columns have made of a decision that the tables speak for, on a deposit that was delivered
or that a sweep has read back.
-/
namespace Reconcile

open Relation (ReflTransGen)

namespace Store

section

variable (policy : Policy) (deposits : Deposit → Prop)

/-- The row of a decision on one of the deposits, with the evidence for it. -/
def Evidences (store : Store) (row : Attribution) : Prop :=
  ∃ deposit decision now, deposits deposit ∧ store.Backs policy deposit decision ∧
    attributionRow (.ofDecision deposit.txHash decision now) = .ok row

/-- Every row of the tables goes back to one of the deposits, and every attribution that is not an
old one to evidence. -/
structure Evident (old : List Attribution) (store : Store) : Prop where
  observed : ∀ row ∈ store.observed, deposits row.deposit
  attributions : ∀ row ∈ store.attributions, row ∈ old ∨ store.Evidences policy deposits row

/-- The table of observed deposits gives back what it was given, or at least nothing else. -/
def Returns : Prop :=
  ∀ store after deposit now, deposits deposit →
    insertObserved store deposit now = .ok (some after) →
    ∀ row ∈ after.observed, row ∈ store.observed ∨ deposits row.deposit

end

variable {policy : Policy} {deposits : Deposit → Prop} {old : List Attribution}
  {store after : Store}

theorem Evidences.changes {row : Attribution} (evidences : store.Evidences policy deposits row)
    (changes : ReflTransGen Change store after) : after.Evidences policy deposits row := by
  obtain ⟨deposit, decision, now, known, backs, made⟩ := evidences
  exact ⟨deposit, decision, now, known, backs.changes changes, made⟩

theorem Evident.changes (evident : Evident policy deposits old store)
    (changes : ReflTransGen Change store after) :
    ∀ row ∈ store.attributions, row ∈ old ∨ after.Evidences policy deposits row :=
  fun row member => (evident.attributions row member).imp_right (·.changes changes)

theorem Evident.congr (evident : Evident policy deposits old store)
    (changes : ReflTransGen Change store after) (observed : after.observed = store.observed)
    (attributions : after.attributions = store.attributions) :
    Evident policy deposits old after := by
  refine ⟨?_, ?_⟩
  · rw [observed]
    exact evident.observed
  · rw [attributions]
    exact evident.changes changes

theorem Evident.insertObserved {deposit : Deposit} {now : Timestamp}
    (evident : Evident policy deposits old store) (returns : Returns deposits)
    (known : deposits deposit) (done : store.insertObserved deposit now = .ok (some after)) :
    Evident policy deposits old after := by
  refine ⟨?_, ?_⟩
  · intro row member
    rcases returns store after deposit now known done row member with present | new
    · exact evident.observed row present
    · exact new
  · have change : Change store after := .observed done
    obtain ⟨-, _, -, rfl⟩ := insertObserved_eq_ok done
    exact evident.changes (.single change)

theorem Evident.record {claimed : Store} {deposit : Deposit} {decision : Decision}
    {now : Timestamp} {attribution : Attribution} (evident : Evident policy deposits old store)
    (known : deposits deposit) (backs : store.Backs policy deposit decision)
    (claims : store.Claims claimed decision.intent)
    (done : claimed.commit deposit.txHash decision now = .ok (attribution, after)) :
    Evident policy deposits old after := by
  have change : ReflTransGen Change store after := .single (.recorded claims done)
  obtain ⟨-, rfl, -, row, made, rfl⟩ := commit_eq_ok done
  refine ⟨?_, ?_⟩
  · intro other member
    rw [claims.observed] at member
    exact evident.observed other member
  · intro other member
    rcases (Table.mem_insert Attribution.txHash).mp member with rfl | present
    · exact Or.inr ⟨deposit, decision, now, known, backs.changes change, made⟩
    · rw [claims.attributions] at present
      exact evident.changes change other present

end Store

namespace Traffic

section

variable (policy : Policy) (deposits : Deposit → Prop)

/-- Deliveries go by the policy, know what they decide by and are about one of the deposits, like
what a sweep marks. -/
def Informed (store : Store) : Activity → Prop
  | .delivery task stage =>
    task.policy = policy ∧ deposits task.deposit ∧ task.Knows store stage
  | .sweep _ _ (.mark _ _ found) => ∀ deposit ∈ found, deposits deposit
  | _ => True

end

variable {policy : Policy} {deposits : Deposit → Prop} {old : List Attribution}
  {store after : Store}

theorem Informed.changes {call : Activity} (informed : Informed policy deposits store call)
    (changes : ReflTransGen Store.Change store after) : Informed policy deposits after call := by
  cases call with
  | delivery task stage => exact ⟨informed.1, informed.2.1, informed.2.2.changes changes⟩
  | refused fault => exact True.intro
  | sweep rule now stage =>
    cases stage with
    | mark expired flagged found => exact informed
    | _ => exact True.intro

theorem Informed.ofParcel {parcel : Parcel} {now : Timestamp}
    (known : ∀ deposit, parcel.read = .ok deposit → deposits deposit) :
    Informed policy deposits store (.ofParcel policy parcel now) := by
  unfold Activity.ofParcel
  split
  · exact True.intro
  · rename_i deposit read
    exact ⟨rfl, known deposit read, .lookUp⟩

theorem Informed.stepDelivery {task : Delivery.Task} {stage : Delivery.Stage}
    (informed : Informed policy deposits store (.delivery task stage)) :
    Informed policy deposits (task.step false stage store).store
      (.delivery task (task.step false stage store).stage) :=
  ⟨informed.1, informed.2.1, informed.2.2.step false⟩

theorem Evident.ofLeads {task : Delivery.Task} {stage next : Delivery.Stage}
    (leads : task.Leads false store stage next after) (returns : Store.Returns deposits)
    (evident : store.Evident policy deposits old)
    (informed : Informed policy deposits store (.delivery task stage)) :
    after.Evident policy deposits old := by
  obtain ⟨rfl, known, knows⟩ := informed
  cases leads with
  | observed done => exact evident.insertObserved returns known done
  | recorded decides claims done =>
    exact evident.record known (knows.backs decides) (claims.resolve_left Bool.false_ne_true) done
  | _ => exact evident

theorem Evident.ofSweep {rule : SweepRule} {now : Timestamp} {stage next : SweepStage}
    (leads : stage.Leads rule now store next after) (evident : store.Evident policy deposits old)
    (informed : Informed policy deposits store (.sweep rule now stage)) :
    after.Evident policy deposits old ∧ Informed policy deposits after (.sweep rule now next) := by
  have changes := leads.changes
  cases leads with
  | expired due expired =>
    obtain ⟨observed, attributions⟩ := store.expireAll_tables due
    exact ⟨evident.congr changes observed attributions, True.intro⟩
  | found expired stale =>
    refine ⟨evident, ?_⟩
    intro deposit member
    obtain ⟨-, row, observed, rfl, -⟩ := Store.exists_observed_of_stale stale member
    exact evident.observed row observed
  | @marked _ _ deposit rest _ _ done =>
    have known := informed deposit List.mem_cons_self
    refine ⟨evident.record known .nobody (store.claims_unattributed deposit) done, ?_⟩
    exact fun other member => informed other (List.mem_cons_of_mem deposit member)
  | passed expired flagged deposit rest =>
    exact ⟨evident, fun other member => informed other (List.mem_cons_of_mem deposit member)⟩
  | ended => exact ⟨evident, True.intro⟩

/-- All deliveries of a schedule go by one policy. -/
def GoesBy (policy : Policy) (schedule : List Move) : Prop :=
  ∀ other parcel now, .deliver other parcel now ∈ schedule → other = policy

def Delivered (schedule : List Move) (deposit : Deposit) : Prop :=
  ∃ policy parcel now, .deliver policy parcel now ∈ schedule ∧ parcel.read = .ok deposit

theorem run_evident (start : ∀ row ∈ store.observed, deposits row.deposit)
    (returns : Store.Returns deposits) (schedule : List Move)
    (goes : GoesBy policy schedule)
    (delivered : ∀ deposit, Delivered schedule deposit → deposits deposit) :
    Holds (Store.Evident policy deposits store.attributions) (Informed policy deposits)
      ((on store).run schedule) := by
  have evident : store.Evident policy deposits store.attributions :=
    ⟨start, fun _ member => Or.inl member⟩
  refine (Holds.on evident).steps schedule ?_ ?_ ?_ ?_ ?_
  · intro other parcel now began store
    obtain rfl := goes other parcel now began
    exact .ofParcel fun deposit read => delivered deposit ⟨_, parcel, now, began, read⟩
  · exact fun _ _ _ => True.intro
  · intro first rest n call _ _ evident informed
    cases call with
    | delivery task stage =>
      have leads := task.step_leads false stage ((on store).run first).store
      exact ⟨Evident.ofLeads leads returns evident informed, informed.stepDelivery⟩
    | refused fault => exact ⟨evident, True.intro⟩
    | sweep rule now stage =>
      exact Evident.ofSweep (stage.step_leads rule now _) evident informed
  · exact fun _ _ _ changes informed => informed.changes changes
  · intro store after change observed attributions evident
    exact evident.congr (.single change) observed attributions

end Traffic

end Reconcile
