import Reconcile.Proofs.Delivery.Evidence
import Reconcile.Proofs.Matching.Choosing
import Reconcile.Proofs.Store.Reached

set_option autoImplicit false

/-
Queries and records on tables in order. A query for a deposit with amounts in canonical form finds
what awaits it, and what the tables speak for is recorded, unless the clock that was handed in has
no form in a column.
-/
namespace Reconcile

namespace Column

theorem moment_cases (t : Timestamp) :
    (∃ kept, moment t = .ok kept) ∨ moment t = .error .unstorable := by
  unfold moment
  split
  · exact Or.inr rfl
  · split
    · exact Or.inl ⟨_, rfl⟩
    · exact Or.inr rfl

theorem decimal_of_inRange (s : Bool) {c : Nat} {e : Int} (inRange : Decimal.InRange c e) :
    ∃ kept, decimal (.finite s c e) = .ok kept := by
  obtain ⟨kept, made, -, -⟩ := Decimal.normalize_of_inRange s inRange
  exact ⟨kept, decimal_eq_ok.mpr made⟩

end Column

/-- A deposit whose columns can be written as it is. -/
structure Deposit.Ready (deposit : Deposit) : Prop where
  canonical : deposit.Canonical
  amount : deposit.amount.Amount
  chain : Column.word deposit.bucket.chain = .ok deposit.bucket.chain

namespace Store

/-- Tables with unique keys and links, and with intents as declarations leave them. -/
structure Orderly (store : Store) : Prop where
  keyed : store.Keyed
  sound : store.Sound
  kept : ∀ intent ∈ store.intents, intent.Kept

/-- The deposit names no partner, and it is too great for one of the intents that await it. -/
def Blocks (store : Store) (deposit : Deposit) : Prop :=
  deposit.partner? = none ∧ ∃ intent ∈ store.intents,
    awaits deposit.bucket deposit.confirmed intent = true ∧ intent.Outgrown deposit

theorem candidates_eq (store : Store) {deposit : Deposit} (ready : deposit.Ready) :
    store.candidates deposit.bucket deposit.confirmed =
      .ok (Table.byTime Intent.created Intent.id
        (store.intents.filter (awaits deposit.bucket deposit.confirmed))) :=
  (bind_of_ok ready.canonical.confirmed).trans (bind_of_ok ready.chain)

/-- The intents that await a deposit are found, and no others. -/
theorem candidates_eq_ok (store : Store) {deposit : Deposit} (ready : deposit.Ready) :
    ∃ found, store.candidates deposit.bucket deposit.confirmed = .ok found ∧
      ∀ intent, intent ∈ found ↔
        intent ∈ store.intents ∧ awaits deposit.bucket deposit.confirmed intent = true := by
  refine ⟨_, store.candidates_eq ready, ?_⟩
  intro intent
  rw [Table.byTime, List.mem_mergeSort, List.mem_filter]

theorem isPending_of_awaits {store : Store} {bucket : Bucket} {asOf : Timestamp} {intent : Intent}
    (keyed : store.Keyed) (member : intent ∈ store.intents)
    (waits : awaits bucket asOf intent = true) : store.isPending intent.id = true := by
  have found : store.intent? intent.id = some intent :=
    intent?_of_mem keyed.intents member
  simp only [awaits, Bool.and_eq_true] at waits
  rw [isPending, found]
  exact waits.1.2

/-- A query for the intents of a partner keeps those of the candidates with the deposit's amount, if
no amount in the tables is a signal. -/
theorem exactCandidates_eq_filter (store : Store) {deposit : Deposit} (ready : deposit.Ready)
    (quiet : ∀ intent ∈ store.intents, intent.amount.isSignaling = false) (partner : String) :
    store.exactCandidates partner deposit.bucket deposit.amount deposit.confirmed =
      .ok ((Table.byTime Intent.created Intent.id
        (store.intents.filter (awaits deposit.bucket deposit.confirmed))).filter fun intent =>
          intent.partner = partner && (intent.amount.isFinite &&
            decide (intent.amount.toRat = deposit.amount.toRat))) := by
  apply (bind_of_ok (store.candidates_eq ready)).trans
  apply liftDecimal_eq_ok.mpr
  apply filterMapM_eq_filter
  intro intent member
  have inside : intent ∈ store.intents :=
    List.mem_of_mem_filter (List.mem_mergeSort.mp member)
  have compared := Decimal.same?_of_quiet (quiet intent inside) ready.amount.fits.isFinite
  by_cases owner : intent.partner = partner
  · simp only [if_pos owner, compared, decide_eq_true owner, Bool.true_and]
    rfl
  · simp only [if_neg owner, decide_eq_false owner, Bool.false_and, Bool.false_eq_true, if_false]
    rfl

theorem exactCandidates_eq_ok {store : Store} {deposit : Deposit} (orderly : store.Orderly)
    (ready : deposit.Ready) (partner : String) :
    ∃ exactly, store.exactCandidates partner deposit.bucket deposit.amount deposit.confirmed =
        .ok exactly ∧ ∀ intent ∈ exactly, store.isPending intent.id = true := by
  refine ⟨_, store.exactCandidates_eq_filter ready ?_ partner, ?_⟩
  · intro intent member
    exact Decimal.isSignaling_of_isFinite (orderly.kept intent member).amount.fits.isFinite
  · intro intent member
    have waiting := List.mem_mergeSort.mp (List.mem_of_mem_filter member)
    rw [List.mem_filter] at waiting
    exact isPending_of_awaits orderly.keyed waiting.1 waiting.2

section Record

variable {policy : Policy} {store claimed : Store} {deposit : Deposit} {decision : Decision}

/-- What was claimed for a decision is matched, so that the decision may be recorded. -/
theorem permits_of_claims (claims : store.Claims claimed decision.intent)
    (passes : decision.check = .ok ()) {txHash : String}
    (fresh : store.attribution? txHash = none) : claimed.permits txHash decision = .ok () := by
  have absent : claimed.attribution? txHash = none := by
    rw [attribution?, claims.attributions]
    exact fresh
  have known : ¬ (claimed.attribution? txHash).isSome := by
    rw [absent]
    exact Bool.false_ne_true
  refine (bind_of_ok passes).trans ((if_neg known).trans ?_)
  cases linked : decision.intent with
  | none => rfl
  | some id =>
    rw [linked] at claims
    obtain ⟨pending, rfl⟩ := claims
    cases found : store.intent? id with
    | none => simp [isPending, found] at pending
    | some intent =>
      have holds : intent.isPending := by simpa [isPending, found] using pending
      have matched : (store.move id .matched).2.intent? id =
          some { intent with status := .matched } := by
        rw [intent?_move, found, Option.map_some, if_pos ⟨rfl, holds⟩]
      simp only [matched]
      rfl

/-- No attribution links an intent that could be claimed. -/
theorem linkTaken_of_claims (sound : store.Sound) (claims : store.Claims claimed decision.intent)
    (txHash : String) (now : Timestamp) :
    claimed.linkTaken (.ofDecision txHash decision now) = false := by
  simp only [linkTaken, Attribution.ofDecision]
  cases linked : decision.intent with
  | none => rfl
  | some id =>
    rw [linked] at claims
    obtain ⟨pending, rfl⟩ := claims
    simp only [linking?, move_attributions]
    refine Option.isSome_eq_false_iff.mpr (Option.isNone_iff_eq_none.mpr ?_)
    refine List.find?_eq_none.mpr ?_
    intro row member same
    obtain ⟨intent, found, matched⟩ := sound.matched row member id (of_decide_eq_true same)
    simp [isPending, found, Intent.isPending, matched] at pending

theorem Backs.confidence_eq_ok (capped : policy.Capped)
    (backs : store.Backs policy deposit decision) :
    ∃ kept, Column.decimal decision.confidence = .ok kept := by
  cases backs with
  | named | exact => exact ⟨.one, rfl⟩
  | nobody => exact ⟨.zero, rfl⟩
  | chosen nameless expects justified =>
    obtain ⟨within, -⟩ := justified.confidence_within capped
    rcases justified.confidence_shape with nan | ⟨s, c, shape, inRange⟩
    · obtain ⟨s, c, e, finite⟩ := Decimal.eq_finite_of_isFinite within.isFinite
      rw [finite] at nan
      cases nan
    · simp only [Decision.inferred, shape]
      exact Column.decimal_of_inRange s inRange

/-- What the tables speak for is recorded, unless the clock has no form in a column. -/
theorem commit_cases (capped : policy.Capped) (sound : store.Sound) (ready : deposit.Ready)
    (backs : store.Backs policy deposit decision) (passes : decision.check = .ok ())
    (claims : store.Claims claimed decision.intent)
    (fresh : store.attribution? deposit.txHash = none) (now : Timestamp) :
    (∃ result, claimed.commit deposit.txHash decision now = .ok result) ∨
      claimed.commit deposit.txHash decision now = .error .unstorable ∧
        Column.moment now = .error .unstorable := by
  have permitted := permits_of_claims claims passes fresh
  have free := linkTaken_of_claims sound claims deposit.txHash now
  obtain ⟨assets, shares⟩ := backs.amounts
  obtain ⟨confidence, keptConfidence⟩ := backs.confidence_eq_ok capped
  have keptAssets : Column.decimal decision.assets = .ok deposit.amount := by
    rw [assets]
    exact ready.canonical.amount
  have keptShares : Column.decimal? decision.shares = .ok (some deposit.shares) := by
    rw [shares]
    exact ready.canonical.someShares
  rcases Column.moment_cases now with ⟨created, keptTime⟩ | failed
  · obtain ⟨row, made⟩ : ∃ row,
        attributionRow (.ofDecision deposit.txHash decision now) = .ok row :=
      ⟨_, (bind_of_ok keptConfidence).trans ((bind_of_ok keptAssets).trans
        ((bind_of_ok keptShares).trans (bind_of_ok keptTime)))⟩
    have allowed : ¬ claimed.linkTaken (.ofDecision deposit.txHash decision now) = true := by
      rw [free]
      exact Bool.false_ne_true
    exact Or.inl ⟨_, (bind_of_ok permitted).trans ((bind_of_ok made).trans (if_neg allowed))⟩
  · have unmade : attributionRow (.ofDecision deposit.txHash decision now) = .error .unstorable :=
      (bind_of_ok keptConfidence).trans ((bind_of_ok keptAssets).trans
        ((bind_of_ok keptShares).trans (bind_of_error failed)))
    exact Or.inr ⟨(bind_of_ok permitted).trans (bind_of_error unmade), failed⟩

end Record

end Store

end Reconcile
