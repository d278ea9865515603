import Reconcile.Proofs.Delivery.Recording
import Reconcile.Proofs.Traffic.Taxonomy

set_option autoImplicit false

/-
The course of a delivery that nobody disturbs, under a regular policy and on tables in order. It
comes to a result, unless the deposit is too great for an intent that it finds, or the clock that
was handed in has no form in a column.
-/
namespace Reconcile.Delivery

/-- How a delivery that nobody disturbs ends from a stage on, and what it leaves. -/
inductive Task.Comes (task : Task) : Stage → Store → Ending → Store → Prop
  | ended (ending : Ending) (store : Store) : Comes task (.done ending) store ending store
  | next {stage : Stage} {store after : Store} {ending : Ending}
      (rest : Comes task (task.step false stage store).stage (task.step false stage store).store
        ending after) : Comes task stage store ending after

theorem Task.Comes.run {task : Task} {stage : Stage} {store after : Store} {ending : Ending}
    (comes : task.Comes stage store ending after) (fuel : Nat) (enough : stage.left ≤ fuel)
    (events : List Journal.Event) :
    (Delivery.run task fuel .absent ⟨stage, store, events⟩).stage = .done ending ∧
      (Delivery.run task fuel .absent ⟨stage, store, events⟩).store = after := by
  induction comes generalizing fuel events with
  | ended ending store =>
    rw [run_of_done]
    exact ⟨rfl, rfl⟩
  | @next stage store after ending rest ih =>
    by_cases last : ∃ ending, stage = .done ending
    · obtain ⟨ending, rfl⟩ := last
      exact ih fuel enough events
    · have going : ∀ ending, stage = .done ending → False :=
        fun ending same => last ⟨ending, same⟩
      have fewer := (task.step_leads false stage store).left (Stage.left_pos going)
      cases fuel with
      | zero => omega
      | succ fuel =>
        rw [run_succ task fuel going]
        exact ih fuel (by omega) _

/-- The delivery ends with a result, or it fails since the clock has no form in a column. -/
def Ending.Settles (now : Timestamp) (ending : Ending) : Prop :=
  (∃ found, ending.result = .ok found) ∨
    ending.result = .error .unstorable ∧ Column.moment now = .error .unstorable

/-- From a stage on a delivery comes to such an end. -/
def Task.Settles (task : Task) (stage : Stage) (store : Store) : Prop :=
  ∃ ending after, task.Comes stage store ending after ∧ ending.Settles task.now

namespace Task

variable {task : Task} {stage : Stage} {store : Store}

theorem Comes.of_step (next : Stage) (after : Store) {last : Store} {ending : Ending}
    (stage_eq : (task.step false stage store).stage = next)
    (store_eq : (task.step false stage store).store = after)
    (rest : task.Comes next after ending last) : task.Comes stage store ending last := by
  subst stage_eq
  subst store_eq
  exact .next rest

theorem Settles.of_step (next : Stage) (after : Store)
    (stage_eq : (task.step false stage store).stage = next)
    (store_eq : (task.step false stage store).store = after) (rest : task.Settles next after) :
    task.Settles stage store := by
  obtain ⟨ending, last, comes, settles⟩ := rest
  exact ⟨ending, last, .of_step _ _ stage_eq store_eq comes, settles⟩

theorem settles_done {ending : Ending} {found : Option Attribution}
    (result : ending.result = .ok found) : task.Settles (.done ending) store :=
  ⟨ending, store, .ended ending store, Or.inl ⟨found, result⟩⟩

theorem take_of_pending {id : String} (pending : store.isPending id = true) :
    take false store id = (true, (store.move id .matched).2, [.moved id .matched]) := by
  simp [take, pending]

/-- A decision that the tables speak for is recorded, if the clock has a form in a column. -/
theorem record_of_backs {policy : Policy} {claimed : Store} {decision : Decision}
    (events : List Journal.Event) (capped : policy.Capped) (sound : store.Sound)
    (ready : task.deposit.Ready) (fresh : store.attribution? task.deposit.txHash = none)
    (backs : store.Backs policy task.deposit decision)
    (claims : store.Claims claimed decision.intent) {kept : Timestamp}
    (timed : Column.moment task.now = .ok kept) :
    ∃ row, Store.attributionRow (.ofDecision task.deposit.txHash decision task.now) = .ok row ∧
      (task.record store claimed events decision).stage =
        .done (.attributed (.ofDecision task.deposit.txHash decision task.now)) ∧
      (task.record store claimed events decision).store = { claimed with
        attributions := Table.insert Attribution.txHash row claimed.attributions } := by
  rcases Store.commit_cases capped sound ready backs (backs.check capped) claims fresh
    task.now with ⟨⟨attribution, after⟩, done⟩ | ⟨-, unkept⟩
  · obtain ⟨-, rfl, -, row, made, rfl⟩ := Store.commit_eq_ok done
    refine ⟨row, made, ?_, ?_⟩ <;> simp only [record, done, finish]
  · rw [unkept] at timed
    cases timed

/-- A delivery that names a partner takes the first of the intents that fit exactly, and without one
it records the partner alone. -/
theorem comes_of_exact {partner : String} {line : List Intent} (sound : store.Sound)
    (ready : task.deposit.Ready) (fresh : store.attribution? task.deposit.txHash = none)
    (named : task.deposit.partner? = some partner)
    (queried : store.exactCandidates partner task.deposit.bucket task.deposit.amount
      task.deposit.confirmed = .ok line)
    (pending : ∀ intent ∈ line, store.isPending intent.id = true) {kept : Timestamp}
    (timed : Column.moment task.now = .ok kept) :
    ∃ claimed row, store.Claims claimed (line.head?.map (·.id)) ∧
      Store.attributionRow (.ofDecision task.deposit.txHash
        (.explicit task.deposit partner (line.head?.map (·.id))) task.now) = .ok row ∧
      task.Comes task.firstQuery store
        (.attributed (.ofDecision task.deposit.txHash
          (.explicit task.deposit partner (line.head?.map (·.id))) task.now))
        { claimed with
          attributions := Table.insert Attribution.txHash row claimed.attributions } := by
  have opened : task.firstQuery = .queryExact partner := by
    simp only [firstQuery, named]
  rw [opened]
  cases line with
  | nil =>
    have queries : task.step false (.queryExact partner) store = ⟨.record partner, store, []⟩ := by
      simp only [step, queryExact, queried]
    obtain ⟨row, made, ended, left⟩ := record_of_backs [] Policy.usual_regular.capped sound ready
      fresh (.named named) rfl timed
    have last : task.Comes (.record partner) store _ _ := .of_step _ _ ended left (.ended _ _)
    refine ⟨store, row, rfl, made, .of_step (.record partner) store ?_ ?_ last⟩
    · rw [queries]
    · rw [queries]
  | cons intent others =>
    have holds := pending intent List.mem_cons_self
    have queries : task.step false (.queryExact partner) store =
        ⟨.claimExact partner (((intent :: others).take maxAttempts).map (·.id)), store, []⟩ := by
      simp only [step, queryExact, queried]
    have claims : task.step false
        (.claimExact partner (((intent :: others).take maxAttempts).map (·.id))) store =
          task.record store (store.move intent.id .matched).2 [.moved intent.id .matched]
            (.explicit task.deposit partner (some intent.id)) := by
      simp only [step, claimExact, maxAttempts, List.take_succ_cons, List.map_cons,
        take_of_pending holds]
    obtain ⟨row, made, ended, left⟩ := record_of_backs [.moved intent.id .matched]
      Policy.usual_regular.capped sound ready fresh
      (.exact named (Store.mem_exactCandidates queried List.mem_cons_self)) ⟨holds, rfl⟩ timed
    rw [← claims] at ended left
    refine ⟨_, row, ⟨holds, rfl⟩, made, .of_step _ store ?_ ?_
      (.of_step _ _ ended left (.ended _ _))⟩
    · rw [queries]
    · rw [queries]

section Decisions

variable (capped : task.policy.Capped) (orderly : store.Orderly) (ready : task.deposit.Ready)
  (fresh : store.attribution? task.deposit.txHash = none)
include capped orderly ready fresh

/-- A decision that the tables speak for ends the delivery. -/
theorem settles_of_record {claimed : Store} {decision : Decision} (events : List Journal.Event)
    (backs : store.Backs task.policy task.deposit decision)
    (claims : store.Claims claimed decision.intent)
    (stage_eq : (task.step false stage store).stage =
      (task.record store claimed events decision).stage)
    (store_eq : (task.step false stage store).store =
      (task.record store claimed events decision).store) : task.Settles stage store := by
  have passes := backs.check capped
  rcases Store.commit_cases capped orderly.sound ready backs passes claims fresh task.now with
    ⟨⟨attribution, after⟩, done⟩ | ⟨failed, unkept⟩
  · simp only [record, done] at stage_eq store_eq
    exact .of_step _ _ stage_eq store_eq (settles_done rfl)
  · simp only [record, failed] at stage_eq store_eq
    exact .of_step _ _ stage_eq store_eq ⟨_, _, .ended _ _, Or.inr ⟨rfl, unkept⟩⟩

theorem settles_record {partner : String} (named : task.deposit.partner? = some partner) :
    task.Settles (.record partner) store :=
  settles_of_record capped orderly ready fresh [] (.named named) rfl rfl rfl

/-- The first of the intents that fit exactly is pending, so the delivery takes it. -/
theorem settles_queryExact {partner : String} (named : task.deposit.partner? = some partner) :
    task.Settles (.queryExact partner) store := by
  obtain ⟨exactly, queried, pending⟩ := Store.exactCandidates_eq_ok orderly ready partner
  have opened : task.step false (.queryExact partner) store = task.queryExact partner store := rfl
  cases exactly with
  | nil =>
    refine .of_step _ _ ?_ ?_ (settles_record capped orderly ready fresh named) <;>
      simp only [opened, queryExact, queried]
  | cons intent others =>
    have backs := Store.mem_exactCandidates queried List.mem_cons_self
    have holds := pending intent List.mem_cons_self
    refine .of_step (.claimExact partner (((intent :: others).take maxAttempts).map (·.id))) store
      ?_ ?_ ?_
    · simp only [opened, queryExact, queried]
    · simp only [opened, queryExact, queried]
    · have taken := take_of_pending holds
      refine settles_of_record capped orderly ready fresh [.moved intent.id .matched]
        (.exact named backs) ⟨holds, rfl⟩ ?_ ?_ <;>
      · simp only [step, claimExact, maxAttempts, List.take_succ_cons, List.map_cons, taken]

theorem settles_claim {attempt : Nat} {lost : List String} {selection : Matching.Selection}
    (nameless : task.deposit.partner? = none)
    (expects : store.Expects task.deposit selection.winner.intent)
    (justified : Matching.Justified task.policy task.deposit selection)
    (holds : store.isPending selection.winner.intent.id = true) :
    task.Settles (.claim attempt lost selection) store := by
  have taken := take_of_pending holds
  refine settles_of_record capped orderly ready fresh
    ([.moved selection.winner.intent.id .matched] ++
      [.candidateClaimed task.deposit.txHash selection])
    (.chosen nameless expects justified) ⟨holds, rfl⟩ ?_ ?_ <;>
  · simp only [step, claim, taken]

end Decisions

section Query

variable {found : List Intent}
  (queried : store.candidates task.deposit.bucket task.deposit.confirmed = .ok found)
include queried

/-- The first query leaves out none of the intents that it finds. -/
theorem query_of_found :
    task.step false (.query 1 []) store =
      match found with
      | [] => task.leaveOpen store [.noCandidate task.deposit.txHash 1]
      | found =>
        match Matching.choose task.policy task.deposit found with
        | .error fault => fail fault store
        | .ok none => task.leaveOpen store [.noEligible task.deposit.txHash found.length 1]
        | .ok (some selection) => ⟨.claim 1 [] selection, store, []⟩ := by
  have all : found.filter (fun intent => !([] : List String).contains intent.id) = found :=
    List.filter_eq_self.mpr fun _ _ => rfl
  change task.query 1 [] store = _
  simp only [query, queried, all]
  cases found with
  | nil => rfl
  | cons first rest => rfl

/-- A choice that fails is the end of the delivery. -/
theorem comes_of_failed {fault : Fault}
    (failed : Matching.choose task.policy task.deposit found = .error fault) :
    task.Comes (.query 1 []) store (.failed fault) store := by
  have opened := query_of_found queried
  cases found with
  | nil => cases failed
  | cons first rest =>
    simp only [failed, fail, finish] at opened
    refine .of_step _ _ ?_ ?_ (.ended _ store) <;> rw [opened]

theorem comes_of_none
    (nothing : Matching.choose task.policy task.deposit found = .ok none) :
    task.Comes (.query 1 []) store .leftOpen store := by
  have opened := query_of_found queried
  cases found with
  | nil =>
    simp only [leaveOpen, finish] at opened
    refine .of_step _ _ ?_ ?_ (.ended _ store) <;> rw [opened]
  | cons first rest =>
    simp only [nothing, leaveOpen, finish] at opened
    refine .of_step _ _ ?_ ?_ (.ended _ store) <;> rw [opened]

theorem step_of_chosen {selection : Matching.Selection}
    (chosen : Matching.choose task.policy task.deposit found = .ok (some selection)) :
    task.step false (.query 1 []) store = ⟨.claim 1 [] selection, store, []⟩ := by
  rw [query_of_found queried]
  cases found with
  | nil => cases chosen
  | cons first rest => simp only [chosen]

end Query

section Outcome

variable (regular : task.policy.Regular) (orderly : store.Orderly) (ready : task.deposit.Ready)
  (fresh : store.attribution? task.deposit.txHash = none)
include regular orderly ready fresh

/-- The first query fails exactly if the deposit is too great for one of the intents that it
finds. -/
theorem query_cases (nameless : task.deposit.partner? = none) :
    (store.Blocks task.deposit ∧
      ∃ fault, task.Comes (.query 1 []) store (.failed (.decimal fault)) store) ∨
    (¬ store.Blocks task.deposit ∧ task.Settles (.query 1 []) store) := by
  obtain ⟨found, queried, members⟩ := store.candidates_eq_ok ready
  have blocks_iff : store.Blocks task.deposit ↔
      ∃ intent ∈ found, intent.Outgrown task.deposit := by
    constructor
    · rintro ⟨-, intent, inside, waits, great⟩
      exact ⟨intent, (members intent).mpr ⟨inside, waits⟩, great⟩
    · rintro ⟨intent, member, great⟩
      obtain ⟨inside, waits⟩ := (members intent).mp member
      exact ⟨nameless, intent, inside, waits, great⟩
  rcases Matching.choose_cases regular ready.amount ready.canonical.confirmed
    (fun intent member => orderly.kept intent ((members intent).mp member).1) with
    ⟨great, fault, failed⟩ | ⟨small, choice, chosen⟩
  · exact Or.inl ⟨blocks_iff.mpr great, fault, comes_of_failed queried failed⟩
  · refine Or.inr ⟨fun blocks => ?_, ?_⟩
    · obtain ⟨intent, member, great⟩ := blocks_iff.mp blocks
      exact small intent member great
    · cases choice with
      | none => exact ⟨_, _, comes_of_none queried chosen, Or.inl ⟨none, rfl⟩⟩
      | some selection =>
        obtain ⟨inside, justified⟩ := Matching.choose_eq_ok chosen
        obtain ⟨listed, waits⟩ := (members _).mp inside
        refine .of_step (.claim 1 [] selection) store ?_ ?_
          (settles_claim regular.capped orderly ready fresh nameless
            (Store.mem_candidates queried inside) justified
            (Store.isPending_of_awaits orderly.keyed listed waits)) <;>
        rw [step_of_chosen queried chosen]

/-- What follows once the deposit is observed. -/
theorem firstQuery_cases :
    (store.Blocks task.deposit ∧
      ∃ fault, task.Comes task.firstQuery store (.failed (.decimal fault)) store) ∨
    (¬ store.Blocks task.deposit ∧ task.Settles task.firstQuery store) := by
  unfold firstQuery
  split
  · rename_i partner named
    refine Or.inr ⟨?_, settles_queryExact regular.capped orderly ready fresh named⟩
    rintro ⟨nameless, -⟩
    rw [named] at nameless
    cases nameless
  · rename_i nameless
    exact query_cases regular orderly ready fresh nameless

end Outcome

end Task

end Reconcile.Delivery
