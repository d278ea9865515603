import Reconcile.Proofs.Delivery.Leads
import Reconcile.Proofs.Matching.Confidence
import Reconcile.Proofs.Store.Frame

set_option autoImplicit false

/-
What a delivery goes by. Its deposit, the tables at the time of a query and the choice among the
intents that were found then are the evidence for what it decides later. The tables may change in
between, but they keep what the evidence rests on.
-/
namespace Reconcile

open Relation (ReflTransGen)

namespace Store

/-- The tables hold an intent that expects deposits of this bucket at this time. -/
structure Expects (store : Store) (deposit : Deposit) (intent : Intent) : Prop where
  lists : store.Lists intent
  bucket : intent.bucket = deposit.bucket
  live : deposit.confirmed.instant < intent.expires.instant

theorem Expects.changes {store after : Store} {deposit : Deposit} {intent : Intent}
    (expects : store.Expects deposit intent) (changes : ReflTransGen Change store after) :
    after.Expects deposit intent :=
  ⟨expects.lists.changes changes, expects.bucket, expects.live⟩

/-- The tables hold an intent of this partner for exactly this deposit. -/
structure ExpectsExactly (store : Store) (deposit : Deposit) (partner : String) (intent : Intent) :
    Prop where
  expects : store.Expects deposit intent
  owner : intent.partner = partner
  amount : intent.amount.same? deposit.amount = .ok true

theorem ExpectsExactly.changes {store after : Store} {deposit : Deposit} {partner : String}
    {intent : Intent} (exactly : store.ExpectsExactly deposit partner intent)
    (changes : ReflTransGen Change store after) : after.ExpectsExactly deposit partner intent :=
  ⟨exactly.expects.changes changes, exactly.owner, exactly.amount⟩

theorem mem_candidates {store : Store} {deposit : Deposit} {found : List Intent}
    (done : store.candidates deposit.bucket deposit.confirmed = .ok found) {intent : Intent}
    (member : intent ∈ found) : store.Expects deposit intent := by
  obtain ⟨asOf, kept, done⟩ := bind_eq_ok.mp done
  obtain ⟨chain, -, done⟩ := bind_eq_ok.mp done
  cases done
  obtain ⟨inside, awaits⟩ := List.mem_filter.mp (List.mem_mergeSort.mp member)
  simp only [Store.awaits, Bool.and_eq_true, decide_eq_true_eq] at awaits
  exact ⟨⟨intent.status, inside⟩, awaits.1.1, Column.moment_instant kept ▸ awaits.2⟩

theorem mem_exactCandidates {store : Store} {deposit : Deposit} {partner : String}
    {found : List Intent}
    (done : store.exactCandidates partner deposit.bucket deposit.amount deposit.confirmed =
      .ok found) {intent : Intent} (member : intent ∈ found) :
    store.ExpectsExactly deposit partner intent := by
  obtain ⟨candidates, queried, done⟩ := bind_eq_ok.mp done
  obtain ⟨candidate, inside, kept⟩ :=
    exists_of_mem_filterMapM (liftDecimal_eq_ok.mp done) member
  split at kept
  · rename_i owner
    obtain ⟨same, compared, kept⟩ := bind_eq_ok.mp kept
    cases same with
    | false => cases kept
    | true =>
      cases kept
      exact ⟨mem_candidates queried inside, owner, compared⟩
  · cases kept

/-- What speaks for a decision on a deposit. -/
inductive Backs (policy : Policy) (store : Store) (deposit : Deposit) : Decision → Prop
  | named {partner : String} (named : deposit.partner? = some partner) :
      Backs policy store deposit (.explicit deposit partner none)
  | exact {partner : String} {intent : Intent} (named : deposit.partner? = some partner)
      (exactly : store.ExpectsExactly deposit partner intent) :
      Backs policy store deposit (.explicit deposit partner (some intent.id))
  | chosen {selection : Matching.Selection} (nameless : deposit.partner? = none)
      (expects : store.Expects deposit selection.winner.intent)
      (justified : Matching.Justified policy deposit selection) :
      Backs policy store deposit (.inferred deposit selection.winner.intent selection.confidence)
  | nobody : Backs policy store deposit (.unattributed deposit)

theorem Backs.changes {policy : Policy} {store after : Store} {deposit : Deposit}
    {decision : Decision} (backs : store.Backs policy deposit decision)
    (changes : ReflTransGen Change store after) : after.Backs policy deposit decision := by
  cases backs with
  | named named => exact .named named
  | exact named exactly => exact .exact named (exactly.changes changes)
  | chosen nameless expects justified => exact .chosen nameless (expects.changes changes) justified
  | nobody => exact .nobody

theorem Backs.amounts {policy : Policy} {store : Store} {deposit : Deposit} {decision : Decision}
    (backs : store.Backs policy deposit decision) :
    decision.assets = deposit.amount ∧ decision.shares = deposit.shares := by
  cases backs <;> exact ⟨rfl, rfl⟩

end Store

namespace Delivery

/-- What a delivery knows when it stands at a stage. -/
inductive Task.Knows (task : Task) (store : Store) : Stage → Prop
  | lookUp : Knows task store .lookUp
  | checkObserved : Knows task store .checkObserved
  | insertObserved : Knows task store .insertObserved
  | queryExact {partner : String} (named : task.deposit.partner? = some partner) :
      Knows task store (.queryExact partner)
  | claimExact {partner : String} {intents : List String}
      (named : task.deposit.partner? = some partner)
      (each : ∀ id ∈ intents, ∃ intent, intent.id = id ∧
        store.ExpectsExactly task.deposit partner intent) :
      Knows task store (.claimExact partner intents)
  | record {partner : String} (named : task.deposit.partner? = some partner) :
      Knows task store (.record partner)
  | query (attempt : Nat) (lost : List String) (nameless : task.deposit.partner? = none) :
      Knows task store (.query attempt lost)
  | claim (attempt : Nat) (lost : List String) {selection : Matching.Selection}
      (nameless : task.deposit.partner? = none)
      (expects : store.Expects task.deposit selection.winner.intent)
      (justified : Matching.Justified task.policy task.deposit selection) :
      Knows task store (.claim attempt lost selection)
  | reread : Knows task store .reread
  | done (ending : Ending) : Knows task store (.done ending)

namespace Task.Knows

variable {task : Task} {store after : Store} {stage : Stage}

theorem changes (knows : task.Knows store stage) (changes : ReflTransGen Store.Change store after) :
    task.Knows after stage := by
  cases knows with
  | lookUp => exact .lookUp
  | checkObserved => exact .checkObserved
  | insertObserved => exact .insertObserved
  | queryExact named => exact .queryExact named
  | claimExact named each =>
    refine .claimExact named ?_
    intro id member
    obtain ⟨intent, same, exactly⟩ := each id member
    exact ⟨intent, same, exactly.changes changes⟩
  | record named => exact .record named
  | query attempt lost nameless => exact .query attempt lost nameless
  | claim attempt lost nameless expects justified =>
    exact .claim attempt lost nameless (expects.changes changes) justified
  | reread => exact .reread
  | done ending => exact .done ending

theorem looks (looks : task.Looks stage) : task.Knows store stage := by
  cases looks with
  | tagged named => exact .queryExact named
  | untagged nameless => exact .query 1 [] nameless

theorem backs {decision : Decision} (knows : task.Knows store stage)
    (decides : stage.Decides task.deposit decision) :
    store.Backs task.policy task.deposit decision := by
  cases decides with
  | linked partner id rest =>
    cases knows with
    | claimExact named each =>
      obtain ⟨intent, rfl, exactly⟩ := each id List.mem_cons_self
      exact .exact named exactly
  | unlinked partner =>
    cases knows with
    | record named => exact .named named
  | inferred attempt lost selection =>
    cases knows with
    | claim _ _ nameless expects justified => exact .chosen nameless expects justified

theorem ofRecord (before claimed : Store) (events : List Journal.Event) (decision : Decision) :
    task.Knows (task.record before claimed events decision).store
      (task.record before claimed events decision).stage := by
  unfold Task.record
  split
  · exact .done _
  · exact .reread
  · exact .done _
  · exact .done _

theorem ofQueryExact {partner : String} (named : task.deposit.partner? = some partner) :
    task.Knows (task.queryExact partner store).store (task.queryExact partner store).stage := by
  unfold Task.queryExact
  dsimp only
  split
  · exact .done _
  · exact .record named
  · rename_i found _ queried
    refine .claimExact named ?_
    intro id member
    obtain ⟨intent, inside, rfl⟩ := List.mem_map.mp member
    exact ⟨intent, rfl, Store.mem_exactCandidates queried (List.mem_of_mem_take inside)⟩

theorem ofClaimExact {partner : String} {intents : List String} (blind : Bool)
    (named : task.deposit.partner? = some partner)
    (each : ∀ id ∈ intents, ∃ intent, intent.id = id ∧
      store.ExpectsExactly task.deposit partner intent) :
    task.Knows (task.claimExact blind partner intents store).store
      (task.claimExact blind partner intents store).stage := by
  cases intents with
  | nil => exact .record named
  | cons intent rest =>
    unfold Task.claimExact
    dsimp only
    split
    · exact ofRecord _ _ _ _
    · cases rest with
      | nil => exact .record named
      | cons next rest =>
        exact .claimExact named fun id member => each id (List.mem_cons_of_mem intent member)

theorem ofQuery {attempt : Nat} {lost : List String} (nameless : task.deposit.partner? = none) :
    task.Knows (task.query attempt lost store).store (task.query attempt lost store).stage := by
  unfold Task.query
  dsimp only
  split
  · exact .done _
  · rename_i found queried
    split
    · exact .done _
    · split
      · exact .done _
      · exact .done _
      · rename_i selection chosen
        obtain ⟨inside, justified⟩ := Matching.choose_eq_ok chosen
        have expects := Store.mem_candidates queried (List.mem_of_mem_filter inside)
        exact .claim attempt lost nameless expects justified

theorem ofClaim {attempt : Nat} {lost : List String} {selection : Matching.Selection}
    (blind : Bool) (nameless : task.deposit.partner? = none) :
    task.Knows (task.claim blind attempt lost selection store).store
      (task.claim blind attempt lost selection store).stage := by
  unfold Task.claim
  dsimp only
  split
  · exact ofRecord _ _ _ _
  · split
    · exact .query _ _ nameless
    · exact .done _

theorem step (knows : task.Knows store stage) (blind : Bool) :
    task.Knows (task.step blind stage store).store (task.step blind stage store).stage := by
  cases knows with
  | lookUp =>
    unfold Task.step
    dsimp only
    split
    · exact .done _
    · exact .checkObserved
  | checkObserved =>
    unfold Task.step
    dsimp only
    split
    · dsimp only
      exact looks task.firstQuery_looks
    · exact .insertObserved
  | insertObserved =>
    unfold Task.step
    dsimp only
    split
    · exact .done _
    · dsimp only
      exact looks task.firstQuery_looks
    · dsimp only
      exact looks task.firstQuery_looks
  | queryExact named => exact ofQueryExact named
  | claimExact named each => exact ofClaimExact blind named each
  | record named => exact ofRecord _ _ _ _
  | query attempt lost nameless => exact ofQuery nameless
  | claim attempt lost nameless expects justified => exact ofClaim blind nameless
  | reread => exact .done _
  | done ending => exact .done ending

end Task.Knows

end Delivery

end Reconcile
