import Reconcile.Delivery.Run
import Reconcile.Proofs.Delivery.Faults
import Reconcile.Proofs.Store.Writes

set_option autoImplicit false

/-
Where a step of a delivery may lead. The relation says of every stage what the tables were found
to hold and what is left of them, so that a property of deliveries is a case for each of its
rules. Deliveries end: each step leaves fewer steps to take.
-/
namespace Reconcile.Delivery

inductive Stage.Decides (deposit : Deposit) : Stage → Decision → Prop
  | linked (partner intent : String) (rest : List String) :
      Decides deposit (.claimExact partner (intent :: rest))
        (.explicit deposit partner (some intent))
  | unlinked (partner : String) :
      Decides deposit (.record partner) (.explicit deposit partner none)
  | inferred (attempt : Nat) (lost : List String) (selection : Matching.Selection) :
      Decides deposit (.claim attempt lost selection)
        (.inferred deposit selection.winner.intent selection.confidence)

namespace Task

/-- The stages at which a delivery first looks for intents. -/
inductive Looks (task : Task) : Stage → Prop
  | tagged {partner : String} (named : task.deposit.partner? = some partner) :
      Looks task (.queryExact partner)
  | untagged (nameless : task.deposit.partner? = none) : Looks task (.query 1 [])

theorem firstQuery_looks (task : Task) : task.Looks task.firstQuery := by
  unfold firstQuery
  split
  · rename_i named
    exact .tagged named
  · rename_i nameless
    exact .untagged nameless

/-- Where a step leads from a stage and what the tables hold then. A blind claim takes an intent
for claimed without looking. -/
inductive Leads (task : Task) (blind : Bool) (store : Store) : Stage → Stage → Store → Prop
  | found {stored : Attribution}
      (present : store.attribution? task.deposit.txHash = some stored) :
      Leads task blind store .lookUp (.done (.redelivered stored)) store
  | missing (absent : store.attribution? task.deposit.txHash = none) :
      Leads task blind store .lookUp .checkObserved store
  | known {next : Stage} (present : (store.observed? task.deposit.txHash).isSome)
      (looks : task.Looks next) : Leads task blind store .checkObserved next store
  | unknown : Leads task blind store .checkObserved .insertObserved store
  | observed {next : Stage} {after : Store}
      (done : store.insertObserved task.deposit task.now = .ok (some after))
      (looks : task.Looks next) : Leads task blind store .insertObserved next after
  | observedTwice {next : Stage} (present : (store.observed? task.deposit.txHash).isSome)
      (looks : task.Looks next) : Leads task blind store .insertObserved next store
  | exact (partner : String) {intents : List String} (few : intents.length ≤ maxAttempts) :
      Leads task blind store (.queryExact partner) (.claimExact partner intents) store
  | noExact (partner : String) :
      Leads task blind store (.queryExact partner) (.record partner) store
  | exactLost (partner intent next : String) (rest : List String) :
      Leads task blind store (.claimExact partner (intent :: next :: rest))
        (.claimExact partner (next :: rest)) store
  | allLost (partner : String) {intents : List String} (last : intents.length ≤ 1) :
      Leads task blind store (.claimExact partner intents) (.record partner) store
  | chosen (attempt : Nat) (lost : List String) (selection : Matching.Selection) :
      Leads task blind store (.query attempt lost) (.claim attempt lost selection) store
  | noneFits (attempt : Nat) (lost : List String) :
      Leads task blind store (.query attempt lost) (.done .leftOpen) store
  | again {attempt : Nat} (lost : List String) (selection : Matching.Selection)
      (first : attempt < maxAttempts) :
      Leads task blind store (.claim attempt lost selection)
        (.query (attempt + 1) (selection.winner.intent.id :: lost)) store
  | givenUp (attempt : Nat) (lost : List String) (selection : Matching.Selection) :
      Leads task blind store (.claim attempt lost selection) (.done .leftOpen) store
  | recorded {stage : Stage} {decision : Decision} {claimed after : Store}
      {attribution : Attribution} (decides : stage.Decides task.deposit decision)
      (claims : blind = true ∨ store.Claims claimed decision.intent)
      (done : claimed.commit task.deposit.txHash decision task.now = .ok (attribution, after)) :
      Leads task blind store stage (.done (.attributed attribution)) after
  | rivalled {stage : Stage} {decision : Decision}
      (decides : stage.Decides task.deposit decision) :
      Leads task blind store stage .reread store
  | conflicted {stage : Stage} {decision : Decision} (intent : String)
      (decides : stage.Decides task.deposit decision) :
      Leads task blind store stage (.done (.conflicted intent)) store
  | reread :
      Leads task blind store .reread
        (.done (.absorbed (store.attribution? task.deposit.txHash))) store
  | failed (stage : Stage) {fault : Fault} (other : fault.isConflict = false) :
      Leads task blind store stage (.done (.failed fault)) store
  | ended (ending : Ending) : Leads task blind store (.done ending) (.done ending) store

/-- A record is made as a whole or leaves the tables as they were before the claim. -/
theorem record_leads {task : Task} {blind : Bool} {store claimed : Store} {stage : Stage}
    {decision : Decision} (events : List Journal.Event)
    (decides : stage.Decides task.deposit decision)
    (claims : blind = true ∨ store.Claims claimed decision.intent) :
    Leads task blind store stage (task.record store claimed events decision).stage
      (task.record store claimed events decision).store := by
  unfold record
  split
  · rename_i done
    exact .recorded decides claims done
  · exact .rivalled decides
  · exact .conflicted _ decides
  · -- The two conflicts are taken by the cases above, so this failure is neither.
    rename_i fault notDuplicate notConflict _
    refine .failed stage ?_
    cases fault with
    | duplicateAttribution txHash => exact absurd rfl (notDuplicate txHash)
    | claimConflict intent => exact absurd rfl (notConflict intent)
    | _ => rfl

theorem take_claims {blind : Bool} {store claimed : Store} {intent : String}
    {events : List Journal.Event} (taken : take blind store intent = (true, claimed, events)) :
    blind = true ∨ store.Claims claimed (some intent) := by
  unfold take at taken
  split at taken
  · rename_i seen
    exact Or.inl seen
  · have moved := congrArg Prod.fst taken
    have after := congrArg (fun result => result.2.1) taken
    rw [Store.move_fst] at moved
    exact Or.inr ⟨moved, after.symm⟩

theorem queryExact_leads (task : Task) (blind : Bool) (partner : String) (store : Store) :
    Leads task blind store (.queryExact partner) (task.queryExact partner store).stage
      (task.queryExact partner store).store := by
  unfold queryExact
  dsimp only
  split
  · rename_i fault failed
    exact .failed _ (store.exactCandidates_unrivalled _ _ _ _ fault failed)
  · exact .noExact partner
  · exact .exact partner (by simp [maxAttempts])

theorem claimExact_leads (task : Task) (blind : Bool) (partner : String) (intents : List String)
    (store : Store) :
    Leads task blind store (.claimExact partner intents)
      (task.claimExact blind partner intents store).stage
      (task.claimExact blind partner intents store).store := by
  cases intents with
  | nil => exact .allLost partner (by simp)
  | cons intent rest =>
    unfold claimExact
    dsimp only
    split
    · rename_i claimed events taken
      exact record_leads events (.linked partner intent rest) (take_claims taken)
    · cases rest with
      | nil => exact .allLost partner (by simp)
      | cons next rest => exact .exactLost partner intent next rest

theorem query_leads (task : Task) (blind : Bool) (attempt : Nat) (lost : List String)
    (store : Store) :
    Leads task blind store (.query attempt lost) (task.query attempt lost store).stage
      (task.query attempt lost store).store := by
  unfold query
  dsimp only
  split
  · rename_i fault failed
    exact .failed _ (store.candidates_unrivalled _ _ fault failed)
  · split
    · exact .noneFits attempt lost
    · split
      · rename_i fault failed
        exact .failed _ (Matching.choose_unrivalled _ _ _ fault failed)
      · exact .noneFits attempt lost
      · exact .chosen attempt lost _

theorem claim_leads (task : Task) (blind : Bool) (attempt : Nat) (lost : List String)
    (selection : Matching.Selection) (store : Store) :
    Leads task blind store (.claim attempt lost selection)
      (task.claim blind attempt lost selection store).stage
      (task.claim blind attempt lost selection store).store := by
  unfold claim
  dsimp only
  split
  · rename_i claimed events taken
    exact record_leads _ (.inferred attempt lost selection) (take_claims taken)
  · split
    · rename_i first
      exact .again lost selection first
    · exact .givenUp attempt lost selection

theorem insertObserved_leads (task : Task) (blind : Bool) (store : Store) :
    Leads task blind store .insertObserved (task.step blind .insertObserved store).stage
      (task.step blind .insertObserved store).store := by
  cases result : store.insertObserved task.deposit task.now with
  | error fault =>
    simp only [step, result]
    exact .failed _ (store.insertObserved_unrivalled _ _ fault result)
  | ok after =>
    cases after with
    | none =>
      simp only [step, result]
      exact .observedTwice (Store.insertObserved_eq_none result) task.firstQuery_looks
    | some after =>
      simp only [step, result]
      exact .observed result task.firstQuery_looks

theorem step_leads (task : Task) (blind : Bool) (stage : Stage) (store : Store) :
    Leads task blind store stage (task.step blind stage store).stage
      (task.step blind stage store).store := by
  cases stage with
  | lookUp =>
    simp only [step]
    split
    · rename_i stored present
      exact .found present
    · rename_i absent
      exact .missing absent
  | checkObserved =>
    simp only [step]
    split
    · rename_i present
      have looks := task.firstQuery_looks
      dsimp only
      generalize task.firstQuery = next at looks ⊢
      exact .known present looks
    · exact .unknown
  | insertObserved => exact insertObserved_leads task blind store
  | queryExact partner => exact queryExact_leads task blind partner store
  | claimExact partner intents => exact claimExact_leads task blind partner intents store
  | query attempt lost => exact query_leads task blind attempt lost store
  | claim attempt lost selection => exact claim_leads task blind attempt lost selection store
  | record partner => exact record_leads [] (.unlinked partner) (Or.inr rfl)
  | reread => exact .reread
  | done ending => exact .ended ending

end Task

def Stage.left : Stage → Nat
  | .lookUp => 8
  | .checkObserved => 7
  | .insertObserved => 6
  | .queryExact _ => 5
  | .claimExact _ intents => 3 + (intents.length - 1)
  | .query attempt _ => 3 + 2 * (maxAttempts - attempt)
  | .claim attempt _ _ => 2 + 2 * (maxAttempts - attempt)
  | .record _ => 2
  | .reread => 1
  | .done _ => 0

theorem Stage.left_pos {stage : Stage} (going : ∀ ending, stage = .done ending → False) :
    0 < stage.left := by
  cases stage with
  | done ending => exact absurd rfl (going ending)
  | _ => simp [Stage.left]

theorem Stage.Decides.left {deposit : Deposit} {stage : Stage} {decision : Decision}
    (decides : stage.Decides deposit decision) : 2 ≤ stage.left := by
  cases decides <;> simp only [Stage.left] <;> omega

theorem Task.Looks.left {task : Task} {stage : Stage} (looks : task.Looks stage) :
    stage.left = 5 := by
  cases looks <;> rfl

theorem Task.Leads.left {task : Task} {blind : Bool} {store after : Store} {stage next : Stage}
    (leads : Leads task blind store stage next after) (going : 0 < stage.left) :
    next.left < stage.left := by
  cases leads with
  | found | missing | unknown | reread => simp [Stage.left]
  | failed | recorded | conflicted => exact going
  | known present looks | observedTwice present looks | observed done looks =>
    rw [looks.left]
    simp [Stage.left]
  | exact partner few =>
    simp only [Stage.left, maxAttempts] at few ⊢
    omega
  | exactLost partner intent next rest => simp [Stage.left]
  | allLost partner last | noneFits | givenUp | noExact =>
    simp only [Stage.left]
    omega
  | chosen attempt lost selection => simp [Stage.left]
  | again lost selection first =>
    simp only [Stage.left]
    omega
  | rivalled decides => exact decides.left
  | ended => simp [Stage.left] at going

/-- These rivals write nothing of their own. -/
theorem Rival.act_eq_self {rival : Rival} (quiet : rival = .absent ∨ rival = .phantom)
    (task : Task) (stage : Stage) (store : Store) :
    rival.act task stage store = (rival, store, []) := by
  rcases quiet with rfl | rfl <;> rfl

theorem run_of_done (task : Task) (fuel : Nat) (rival : Rival) (ending : Ending) (store : Store)
    (events : List Journal.Event) :
    run task fuel rival ⟨.done ending, store, events⟩ = ⟨.done ending, store, events⟩ := by
  cases fuel with
  | zero => rfl
  | succ fuel => simp only [run]

/-- A delivery that has not ended takes one step, and goes on from there. -/
theorem run_succ (task : Task) (fuel : Nat) {progress : Progress}
    (going : ∀ ending, progress.stage = .done ending → False) :
    run task (fuel + 1) .absent progress =
      run task fuel .absent
        { task.step false progress.stage progress.store with
          events := progress.events ++
            (task.step false progress.stage progress.store).events } := by
  conv_lhs => unfold run
  split
  · rename_i ending ended
    exact (going ending ended).elim
  · simp only [Rival.act_eq_self (Or.inl rfl), List.append_nil, Rival.blinds]

/-- What every step of a delivery keeps holds when an undisturbed delivery stops. -/
theorem run_invariant (task : Task) {invariant : Stage → Store → Prop}
    (stepped : ∀ stage store, invariant stage store →
      invariant (task.step false stage store).stage (task.step false stage store).store)
    (fuel : Nat) (progress : Progress) (start : invariant progress.stage progress.store) :
    invariant (run task fuel .absent progress).stage (run task fuel .absent progress).store := by
  induction fuel generalizing progress with
  | zero => exact start
  | succ fuel ih =>
    by_cases ended : ∃ ending, progress.stage = .done ending
    · obtain ⟨stage, store, events⟩ := progress
      obtain ⟨ending, rfl⟩ := ended
      rw [run_of_done]
      exact start
    · rw [run_succ task fuel fun ending same => ended ⟨ending, same⟩]
      exact ih _ (stepped progress.stage progress.store start)

/-- A delivery ends, whatever the rival does. -/
theorem run_done (task : Task) (fuel : Nat) (rival : Rival) (progress : Progress)
    (enough : progress.stage.left ≤ fuel) :
    ∃ ending, (run task fuel rival progress).stage = .done ending := by
  induction fuel generalizing rival progress with
  | zero =>
    obtain ⟨stage, store, events⟩ := progress
    cases stage <;> simp [Stage.left] at enough
    exact ⟨_, rfl⟩
  | succ fuel ih =>
    unfold run
    split
    · rename_i ending ended
      exact ⟨ending, ended⟩
    · rename_i going
      apply ih
      have leads := task.step_leads (rival.act task progress.stage progress.store).1.blinds
        progress.stage (rival.act task progress.stage progress.store).2.1
      have fewer := leads.left (Stage.left_pos going)
      exact Nat.le_of_lt_succ (fewer.trans_le enough)

end Reconcile.Delivery
