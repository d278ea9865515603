import Reconcile.Proofs.Store.Columns
import Reconcile.Proofs.Traffic.Steps

set_option autoImplicit false

/-
Observed deposits. A deposit is observed before anything is recorded for it, by its delivery or by
a sweep, and a sweep marks only what was observed, has no attribution and is past the grace period.
-/
namespace Reconcile

open Relation (ReflTransGen)

namespace Store

/-- A sweep that looks for deposits now finds this one: it was first delivered at least the grace
period ago and has no attribution. -/
def Overdue (store : Store) (rule : SweepRule) (now : Timestamp) (txHash : String) : Prop :=
  store.attribution? txHash = none ∧ ∃ row ∈ store.observed, row.deposit.txHash = txHash ∧
    row.observed.instant + rule.graceSeconds * Timestamp.second ≤ now.instant

theorem cutoff_eq {rule : SweepRule} {now shifted cutoff : Timestamp} {grace : Duration}
    (length : rule.grace = .ok grace) (before : now.shift? (-grace.micros) = .ok shifted)
    (kept : Column.moment shifted = .ok cutoff) :
    cutoff.instant + rule.graceSeconds * Timestamp.second = now.instant := by
  have micros : grace.micros = rule.graceSeconds * Timestamp.second := by
    simp only [SweepRule.grace, Duration.ofSeconds?] at length
    split at length
    · rw [← Except.ok.inj length]
    · cases length
  have earlier : shifted.instant = now.instant - grace.micros := by
    unfold Timestamp.shift? at before
    split at before
    · rw [← Except.ok.inj before]
      simp only [Timestamp.instant]
      omega
    · cases before
  have same := Column.moment_instant kept
  omega

/-- What a sweep finds was observed, has no attribution and is past the grace period. -/
theorem exists_observed_of_stale {store : Store} {rule : SweepRule} {now : Timestamp}
    {deposits : List Deposit} (found : store.stale rule now = .ok deposits) {deposit : Deposit}
    (member : deposit ∈ deposits) :
    store.attribution? deposit.txHash = none ∧ ∃ row ∈ store.observed, row.deposit = deposit ∧
      row.observed.instant + rule.graceSeconds * Timestamp.second ≤ now.instant := by
  obtain ⟨grace, length, found⟩ := bind_eq_ok.mp found
  obtain ⟨shifted, before, found⟩ := bind_eq_ok.mp found
  obtain ⟨cutoff, kept, found⟩ := bind_eq_ok.mp found
  obtain ⟨limit, -, found⟩ := bind_eq_ok.mp found
  have cut := cutoff_eq (liftClock_eq_ok.mp length) (liftClock_eq_ok.mp before) kept
  cases found
  obtain ⟨row, inside, rfl⟩ := List.mem_map.mp member
  have listed := List.mem_mergeSort.mp (Table.mem_of_mem_upTo inside)
  obtain ⟨observed, stale⟩ := List.mem_filter.mp listed
  simp only [isStale, Bool.and_eq_true, decide_eq_true_eq, Option.isNone_iff_eq_none] at stale
  exact ⟨stale.1, row, observed, rfl, by omega⟩

theorem mem_stale {store : Store} {rule : SweepRule} {now : Timestamp} {deposits : List Deposit}
    (found : store.stale rule now = .ok deposits) {deposit : Deposit}
    (member : deposit ∈ deposits) :
    store.Overdue rule now deposit.txHash := by
  obtain ⟨absent, row, inside, same, past⟩ := exists_observed_of_stale found member
  exact ⟨absent, row, inside, congrArg (·.txHash) same, past⟩

theorem observed?_of_mem {store : Store} {row : Observed} (member : row ∈ store.observed) :
    (store.observed? row.deposit.txHash).isSome := by
  by_contra absent
  have missing : store.observed? row.deposit.txHash = none := by simpa using absent
  exact (Table.find?_eq_none_iff _).mp missing row member rfl

theorem Change.keeps_observed {store after : Store} (change : Change store after)
    {txHash : String} (present : (store.observed? txHash).isSome) :
    (after.observed? txHash).isSome := by
  cases change with
  | @observed deposit now after done =>
    obtain ⟨absent, row, same, rfl⟩ := insertObserved_eq_ok done
    rw [observed?, Table.find?_insert]
    · split
      · rfl
      · exact present
    · rw [same]
      exact (Table.find?_eq_none_iff _).mp absent
  | declared pending done =>
    obtain ⟨-, row, -, -, rfl⟩ := insertIntent_eq_ok done
    exact present
  | moved id other => rwa [observed?, move_observed]
  | recorded claims done =>
    obtain ⟨-, -, -, row, -, rfl⟩ := commit_eq_ok done
    rwa [observed?, claims.observed]

theorem changes_keep_observed {store after : Store} (changes : ReflTransGen Change store after)
    {txHash : String} (present : (store.observed? txHash).isSome) :
    (after.observed? txHash).isSome := by
  induction changes with
  | refl => exact present
  | tail _ change ih => exact change.keeps_observed ih

/-- Every attribution is one of an observed deposit. -/
def Grounded (store : Store) : Prop :=
  ∀ row ∈ store.attributions, (store.observed? row.txHash).isSome

theorem empty_grounded : Grounded empty := by
  intro row member
  cases member

theorem Grounded.commit {store claimed after : Store} {txHash : String} {decision : Decision}
    {now : Timestamp} {attribution : Attribution} (grounded : Grounded store)
    (claims : store.Claims claimed decision.intent) (present : (store.observed? txHash).isSome)
    (done : claimed.commit txHash decision now = .ok (attribution, after)) : Grounded after := by
  obtain ⟨-, rfl, -, row, made, rfl⟩ := commit_eq_ok done
  intro other member
  change (claimed.observed? other.txHash).isSome
  rw [observed?, claims.observed]
  rcases (Table.mem_insert Attribution.txHash).mp member with rfl | member
  · rw [(attributionRow_eq_ok made).1]
    exact present
  · rw [claims.attributions] at member
    exact grounded other member

theorem expireAll_tables (store : Store) (ids : List String) :
    (store.expireAll ids).2.observed = store.observed ∧
      (store.expireAll ids).2.attributions = store.attributions := by
  induction ids generalizing store with
  | nil => exact ⟨rfl, rfl⟩
  | cons id rest ih =>
    obtain ⟨observed, attributions⟩ := ih (store.move id .expired).2
    exact ⟨observed.trans (move_observed _ _ _), attributions.trans (move_attributions _ _ _)⟩

end Store

namespace Traffic

/-- Calls that may record something do so for deposits that were observed. -/
def Seen (store : Store) : Activity → Prop
  | .delivery _ .lookUp => True
  | .delivery _ .checkObserved => True
  | .delivery _ .insertObserved => True
  | .delivery _ (.done _) => True
  | .delivery task _ => (store.observed? task.deposit.txHash).isSome
  | .sweep _ _ (.mark _ _ deposits) =>
    ∀ deposit ∈ deposits, (store.observed? deposit.txHash).isSome
  | _ => True

theorem Seen.changes {store after : Store} {call : Activity}
    (changes : ReflTransGen Store.Change store after) (seen : Seen store call) :
    Seen after call := by
  cases call with
  | delivery task stage =>
    cases stage with
    | lookUp | checkObserved | insertObserved | done => exact True.intro
    | _ => exact Store.changes_keep_observed changes seen
  | refused fault => exact True.intro
  | sweep rule now stage =>
    cases stage with
    | mark expired flagged deposits =>
      intro deposit member
      exact Store.changes_keep_observed changes (seen deposit member)
    | _ => exact True.intro

theorem Seen.looks {store : Store} {task : Delivery.Task} {stage : Delivery.Stage}
    (looks : task.Looks stage) (present : (store.observed? task.deposit.txHash).isSome) :
    Seen store (.delivery task stage) := by
  cases looks
  · exact present
  · exact present

theorem Seen.ofDecides {store : Store} {task : Delivery.Task} {stage : Delivery.Stage}
    {decision : Decision} (decides : stage.Decides task.deposit decision)
    (seen : Seen store (.delivery task stage)) : (store.observed? task.deposit.txHash).isSome := by
  cases decides <;> exact seen

theorem Seen.ofLeads {task : Delivery.Task} {store after : Store} {stage next : Delivery.Stage}
    (leads : task.Leads false store stage next after) (grounded : store.Grounded)
    (seen : Seen store (.delivery task stage)) :
    after.Grounded ∧ Seen after (.delivery task next) := by
  cases leads with
  | found | missing | unknown | noneFits | givenUp | conflicted | reread | failed | ended =>
    exact ⟨grounded, True.intro⟩
  | known present looks | observedTwice present looks => exact ⟨grounded, .looks looks present⟩
  | observed done looks =>
    obtain ⟨-, row, same, rfl⟩ := Store.insertObserved_eq_ok done
    refine ⟨?_, .looks looks ?_⟩
    · intro other member
      exact (Store.Change.observed done).keeps_observed (grounded other member)
    · rw [← same]
      exact Store.observed?_of_mem ((Table.mem_insert _).mpr (Or.inl rfl))
  | recorded decides claims done =>
    have present := seen.ofDecides decides
    exact ⟨grounded.commit (claims.resolve_left Bool.false_ne_true) present done, True.intro⟩
  | rivalled decides => exact ⟨grounded, seen.ofDecides decides⟩
  | exact | noExact | exactLost | allLost | chosen | again => exact ⟨grounded, seen⟩

theorem Seen.ofSweep {rule : SweepRule} {now : Timestamp} {store after : Store}
    {stage next : SweepStage} (leads : stage.Leads rule now store next after)
    (grounded : store.Grounded) (seen : Seen store (.sweep rule now stage)) :
    after.Grounded ∧ Seen after (.sweep rule now next) := by
  cases leads with
  | expired due expired =>
    obtain ⟨observed, attributions⟩ := store.expireAll_tables due
    refine ⟨?_, True.intro⟩
    intro row member
    rw [attributions] at member
    rw [Store.observed?, observed]
    exact grounded row member
  | found expired stale =>
    refine ⟨grounded, ?_⟩
    intro deposit member
    obtain ⟨-, row, inside, same, -⟩ := Store.mem_stale stale member
    rw [← same]
    exact Store.observed?_of_mem inside
  | @marked _ _ deposit rest _ _ done =>
    have present := seen deposit List.mem_cons_self
    have nothing := store.claims_unattributed deposit
    refine ⟨grounded.commit nothing present done, ?_⟩
    intro other member
    have change : Store.Change store after := .recorded nothing done
    exact change.keeps_observed (seen other (List.mem_cons_of_mem deposit member))
  | passed expired flagged deposit rest =>
    exact ⟨grounded, fun other member => seen other (List.mem_cons_of_mem deposit member)⟩
  | ended => exact ⟨grounded, True.intro⟩

theorem run_grounded (schedule : List Move) : ((on .empty).run schedule).store.Grounded := by
  have start : Holds Store.Grounded Seen (on .empty) := .on Store.empty_grounded
  refine (start.run schedule ?_ ?_ ?_ ?_ ?_).store
  · intro policy parcel now _ store
    unfold Activity.ofParcel
    split <;> exact True.intro
  · exact fun _ _ _ => True.intro
  · intro first rest n call next after _ _ leads grounded seen
    cases leads with
    | delivery leads => exact Seen.ofLeads leads grounded seen
    | refused fault => exact ⟨grounded, True.intro⟩
    | sweep leads => exact Seen.ofSweep leads grounded seen
  · exact fun _ _ _ changes seen => seen.changes changes
  · intro store after observed attributions grounded row member
    rw [attributions] at member
    rw [Store.observed?, observed]
    exact grounded row member

end Traffic

end Reconcile
