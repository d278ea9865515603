import Reconcile.Engine.Declare
import Reconcile.Engine.Deliver
import Reconcile.Proofs.Delivery.Leads

set_option autoImplicit false

/-
What is left of a call that comes to nothing. A delivery that fails or leaves its deposit open has
taken no intent and recorded nothing, even if it had claimed an intent before; at most the deposit
is observed.
-/
namespace Reconcile

/-- The tables are as they were, but the deposit of a transaction may be observed that was not
before. -/
structure Store.OnlyObserved (txHash : String) (before after : Store) : Prop where
  intents : after.intents = before.intents
  attributions : after.attributions = before.attributions
  observed : after.observed = before.observed ∨
    before.observed? txHash = none ∧ ∃ row : Observed, row.deposit.txHash = txHash ∧
      after.observed = Table.insert (·.deposit.txHash) row before.observed

namespace Store.OnlyObserved

theorem refl (txHash : String) (store : Store) : OnlyObserved txHash store store :=
  ⟨rfl, rfl, Or.inl rfl⟩

theorem insertObserved {store after : Store} {deposit : Deposit} {now : Timestamp}
    (done : store.insertObserved deposit now = .ok (some after)) :
    OnlyObserved deposit.txHash store after := by
  obtain ⟨absent, row, same, rfl⟩ := insertObserved_eq_ok done
  exact ⟨rfl, rfl, Or.inr ⟨absent, row, same, rfl⟩⟩

/-- A second row of one transaction is never added. -/
theorem trans {txHash : String} {first second third : Store}
    (early : OnlyObserved txHash first second) (late : OnlyObserved txHash second third) :
    OnlyObserved txHash first third := by
  refine ⟨late.intents.trans early.intents, late.attributions.trans early.attributions, ?_⟩
  rcases late.observed with same | ⟨absent, row, named, added⟩
  · rw [same]
    exact early.observed
  · rcases early.observed with same | ⟨fresh, other, known, entered⟩
    · rw [observed?, same] at absent
      rw [same] at added
      exact Or.inr ⟨absent, row, named, added⟩
    · have present : other ∈ second.observed := by
        rw [entered, Table.mem_insert]
        exact Or.inl rfl
      exact absurd known ((Table.find?_eq_none_iff _).mp absent other present)

end Store.OnlyObserved

namespace Delivery

/-- A step changes intents and attributions only if it records the attribution that the delivery
ends with. -/
theorem Task.Leads.onlyObserved {task : Task} {blind : Bool} {store after : Store}
    {stage next : Stage} (leads : Leads task blind store stage next after) :
    store.OnlyObserved task.deposit.txHash after ∨
      ∃ attribution, next = .done (.attributed attribution) := by
  cases leads with
  | observed done => exact Or.inl (.insertObserved done)
  | recorded => exact Or.inr ⟨_, rfl⟩
  | _ => exact Or.inl (.refl _ _)

/-- What the steps of a delivery leave if nobody else writes between them. -/
theorem run_onlyObserved (task : Task) {rival : Rival}
    (quiet : rival = .absent ∨ rival = .phantom) (fuel : Nat) (progress : Progress) :
    progress.store.OnlyObserved task.deposit.txHash (run task fuel rival progress).store ∨
      ∃ attribution, (run task fuel rival progress).stage = .done (.attributed attribution) := by
  induction fuel generalizing progress with
  | zero => exact Or.inl (.refl _ _)
  | succ fuel ih =>
    unfold run
    split
    · exact Or.inl (.refl _ _)
    · rw [Rival.act_eq_self quiet]
      dsimp only
      have leads := task.step_leads rival.blinds progress.stage progress.store
      generalize task.step rival.blinds progress.stage progress.store = next at leads ⊢
      rcases leads.onlyObserved with kept | ⟨attribution, ended⟩
      · rcases ih ⟨next.stage, next.store, progress.events ++ [] ++ next.events⟩ with later | done
        · exact Or.inl (kept.trans later)
        · exact Or.inr done
      · -- The record is the last step, so what is left of the run changes nothing.
        refine Or.inr ⟨attribution, ?_⟩
        rw [ended, run_of_done]

end Delivery

namespace Engine

/-- Nothing of a delivery that returns no attribution is left but its observation. -/
theorem deliverDeposit_onlyObserved {engine : Engine} {deposit : Deposit} {now : Timestamp}
    {rival : Delivery.Rival} (quiet : rival = .absent ∨ rival = .phantom)
    (unanswered : ∀ attribution,
      (engine.deliverDeposit deposit now rival).result ≠ .ok (some attribution)) :
    engine.store.OnlyObserved deposit.txHash
        (engine.deliverDeposit deposit now rival).engine.store ∧
      (engine.deliverDeposit deposit now rival).engine.counters = engine.counters := by
  have run := Delivery.run_onlyObserved ⟨engine.settings.matching, deposit, now⟩ quiet
    Delivery.mostSteps ⟨.lookUp, engine.store, []⟩
  unfold deliverDeposit Delivery.process at unanswered ⊢
  dsimp only at run unanswered ⊢
  generalize Delivery.run ⟨engine.settings.matching, deposit, now⟩ Delivery.mostSteps rival
    ⟨.lookUp, engine.store, []⟩ = progress at run unanswered ⊢
  have notRecorded : ∀ attribution, progress.stage.ending ≠ .attributed attribution := by
    intro attribution ended
    rw [ended] at unanswered
    exact unanswered attribution rfl
  refine ⟨?_, ?_⟩
  · rcases run with kept | ⟨attribution, ended⟩
    · exact kept
    · exact absurd (by rw [ended]; rfl) (notRecorded attribution)
  · split
    · rename_i attribution ended
      exact absurd ended (notRecorded attribution)
    · rfl

/-- Without a rival a declaration fails and changes nothing, or it adds the intent as pending. -/
theorem register_cases (store : Store) (intent : Intent) :
    (∃ fault, register store intent false = (.error fault, store)) ∨
      ∃ row after, row.status = .pending ∧ store.insertIntent row = .ok after ∧
        register store intent false = (.ok row, after) := by
  unfold register
  split
  · exact Or.inl ⟨_, rfl⟩
  · dsimp only
    split
    · exact Or.inl ⟨_, rfl⟩
    · rename_i after done
      exact Or.inr ⟨_, after, rfl, done, rfl⟩

theorem declare_eq_error {engine : Engine} {payload : Json} {now : Timestamp} {fault : Fault}
    (failed : (engine.declare payload now false).result = .error fault) :
    (engine.declare payload now false).engine.store = engine.store ∧
      (engine.declare payload now false).engine.counters = engine.counters := by
  unfold declare at failed ⊢
  dsimp only at failed ⊢
  split at failed
  · exact ⟨rfl, rfl⟩
  · rename_i intent _
    split at failed
    · rename_i fault store result
      rcases register_cases engine.store intent with ⟨_, refused⟩ | ⟨row, after, -, -, added⟩
      · rw [refused] at result
        cases result
        exact ⟨rfl, rfl⟩
      · rw [added] at result
        cases result
    · cases failed

theorem orphan_eq_error {engine : Engine} {id : String} {fault : Fault}
    (failed : (engine.orphan id).result = .error fault) : (engine.orphan id).engine = engine := by
  unfold orphan at failed ⊢
  split at failed
  · rfl
  · cases failed

/-- Deliveries that fail or return no attribution, and declarations and orphan requests that fail,
leave the intents, the attributions and both counters as they were. A delivery may have observed
its own deposit by then, and no other. -/
theorem fruitless_call_keeps_tables (engine : Engine) (now : Timestamp) :
    (∀ (deposit : Deposit) (rival : Delivery.Rival), rival = .absent ∨ rival = .phantom →
      (∀ attribution,
        (engine.deliverDeposit deposit now rival).result ≠ .ok (some attribution)) →
      engine.store.OnlyObserved deposit.txHash
        (engine.deliverDeposit deposit now rival).engine.store ∧
      (engine.deliverDeposit deposit now rival).engine.counters = engine.counters) ∧
    (∀ (payload : Json) (rival : Delivery.Rival), rival = .absent ∨ rival = .phantom →
      (∀ attribution, (engine.deliver payload now rival).result ≠ .ok (some attribution)) →
      ((engine.deliver payload now rival).engine.store = engine.store ∨
        ∃ deposit, Payload.Delivery.read payload = .ok deposit ∧
          engine.store.OnlyObserved deposit.txHash
            (engine.deliver payload now rival).engine.store) ∧
      (engine.deliver payload now rival).engine.counters = engine.counters) ∧
    (∀ (payload : Json) (fault : Fault),
      (engine.declare payload now false).result = .error fault →
      (engine.declare payload now false).engine.store = engine.store ∧
      (engine.declare payload now false).engine.counters = engine.counters) ∧
    (∀ (id : String) (fault : Fault), (engine.orphan id).result = .error fault →
      (engine.orphan id).engine = engine) := by
  refine ⟨?_, ?_, ?_, ?_⟩
  · intro deposit rival quiet unanswered
    exact deliverDeposit_onlyObserved quiet unanswered
  · intro payload rival quiet unanswered
    unfold deliver at unanswered ⊢
    split at unanswered
    · exact ⟨Or.inl rfl, rfl⟩
    · rename_i deposit read
      obtain ⟨kept, counted⟩ := deliverDeposit_onlyObserved quiet unanswered
      exact ⟨Or.inr ⟨deposit, read, kept⟩, counted⟩
  · intro payload fault failed
    exact declare_eq_error failed
  · intro id fault failed
    exact orphan_eq_error failed

def fitting : Deposit :=
  { txHash := "t", bucket := ⟨"v", 1, "r"⟩, amount := .one, shares := .one, confirmed := .utc 0,
    tag := none }

def awaiting : Engine :=
  { start .usual with
    store :=
      { intents := [⟨"i", "acme", fitting.bucket, .one, .utc 0, .utc 60000000, [], .pending⟩]
        observed := [⟨fitting, .utc 0⟩]
        attributions := [] } }

/-- The delivery claims the intent and fails after that, since no column takes a clock without a
zone; the intent is pending again. The other hypotheses are met by a delivery that is no object,
by a declaration that is none, and by an intent that does not exist. -/
theorem fruitless_call_keeps_tables_naive_clock :
    ((awaiting.deliverDeposit fitting ⟨0, none⟩ .absent).events.any fun
      | .moved id status => id == "i" && status == .matched
      | _ => false) = true ∧
    (awaiting.deliverDeposit fitting ⟨0, none⟩ .absent).engine.store.intents =
      awaiting.store.intents ∧
    (awaiting.deliver .null ⟨0, none⟩ .phantom).engine.counters = awaiting.counters ∧
    (awaiting.declare .null ⟨0, none⟩ false).engine.store = awaiting.store ∧
    (awaiting.orphan "j").engine = awaiting := by
  obtain ⟨deposit, payload, declare, orphan⟩ := fruitless_call_keeps_tables awaiting ⟨0, none⟩
  have failed : (awaiting.deliverDeposit fitting ⟨0, none⟩ .absent).result.toOption = none := by
    decide +kernel
  refine ⟨by decide +kernel, ?_, ?_, ?_, ?_⟩
  · refine (deposit fitting .absent (Or.inl rfl) ?_).1.intents
    intro attribution answered
    rw [answered] at failed
    cases failed
  · refine (payload .null .phantom (Or.inr rfl) ?_).2
    intro attribution answered
    cases answered
  · exact (declare .null (.notAnObject .declaration "NoneType") rfl).1
  · exact orphan "j" (.intentNotFound "j") (by rfl)

end Engine

end Reconcile
