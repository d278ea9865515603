import Reconcile.Proofs.Store.Entries
import Reconcile.Proofs.Table.Queue

set_option autoImplicit false

/-
Tables that agree on some intents and on one transaction. A delivery looks at no more than the
intents that await its deposit, the rows of its transaction and the links to those intents; where
tables agree on these, every look-up gives the same and every write makes the same entries.
-/
namespace Reconcile

namespace Store

/-- The tables hold the same of certain intents, of a transaction and of the attributions that link
these intents. -/
structure AgreeOn (concerned : Intent → Prop) (txHash : String) (store other : Store) : Prop where
  intents : ∀ intent, concerned intent → (intent ∈ store.intents ↔ intent ∈ other.intents)
  observed : ∀ row, row.deposit.txHash = txHash → (row ∈ store.observed ↔ row ∈ other.observed)
  attributions : ∀ row, row.txHash = txHash →
    (row ∈ store.attributions ↔ row ∈ other.attributions)
  links : ∀ intent ∈ store.intents, concerned intent → ∀ row, row.intent = some intent.id →
    (row ∈ store.attributions ↔ row ∈ other.attributions)

theorem AgreeOn.refl (concerned : Intent → Prop) (txHash : String) (store : Store) :
    AgreeOn concerned txHash store store :=
  ⟨fun _ _ => Iff.rfl, fun _ _ => Iff.rfl, fun _ _ => Iff.rfl, fun _ _ _ _ _ => Iff.rfl⟩

theorem AgreeOn.mono {concerned fewer : Intent → Prop} {txHash : String} {store other : Store}
    (agree : AgreeOn concerned txHash store other)
    (among : ∀ intent, fewer intent → concerned intent) : AgreeOn fewer txHash store other :=
  ⟨fun intent one => agree.intents intent (among intent one), agree.observed, agree.attributions,
    fun intent member one => agree.links intent member (among intent one)⟩

/-- The tables agree on all that a delivery of this deposit looks at. -/
abbrev Alike (deposit : Deposit) (store other : Store) : Prop :=
  AgreeOn (fun intent => awaits deposit.bucket deposit.confirmed intent = true) deposit.txHash
    store other

/-- An intent of this id awaits the deposit. -/
def Awaited (store : Store) (deposit : Deposit) (id : String) : Prop :=
  ∃ intent ∈ store.intents, intent.id = id ∧
    awaits deposit.bucket deposit.confirmed intent = true

theorem awaits_pending {bucket : Bucket} {asOf : Timestamp} {intent : Intent}
    (waits : awaits bucket asOf intent = true) : intent.isPending = true := by
  simp only [awaits, Bool.and_eq_true] at waits
  exact waits.1.2

theorem awaits_bucket {bucket : Bucket} {asOf : Timestamp} {intent : Intent}
    (waits : awaits bucket asOf intent = true) : intent.bucket = bucket := by
  simp only [awaits, Bool.and_eq_true, decide_eq_true_eq] at waits
  exact waits.1.1

theorem awaits_live {bucket : Bucket} {asOf : Timestamp} {intent : Intent}
    (waits : awaits bucket asOf intent = true) : asOf.instant < intent.expires.instant := by
  simp only [awaits, Bool.and_eq_true, decide_eq_true_eq] at waits
  exact waits.2

theorem Awaited.move {store : Store} {deposit : Deposit} {id : String} (keyed : store.Keyed)
    (awaited : store.Awaited deposit id) :
    store.move id .matched = (true, store.enter (.matched id)) := by
  obtain ⟨intent, member, rfl, waits⟩ := awaited
  have pending : store.isPending intent.id = true := by
    rw [isPending, intent?_of_mem keyed.intents member]
    exact awaits_pending waits
  unfold Store.move
  rw [if_pos pending]
  simp only [enter, Table.update]
  congr 2
  apply List.map_congr_left
  intro other _
  simp [Intent.matchIn]

theorem candidates_awaits {store : Store} {bucket : Bucket} {asOf : Timestamp}
    {found : List Intent} (listed : store.candidates bucket asOf = .ok found) {intent : Intent}
    (member : intent ∈ found) : intent ∈ store.intents ∧ awaits bucket asOf intent = true := by
  obtain ⟨instant, kept, listed⟩ := bind_eq_ok.mp listed
  obtain ⟨chain, -, listed⟩ := bind_eq_ok.mp listed
  cases listed
  rw [Table.byTime, List.mem_mergeSort, List.mem_filter] at member
  refine ⟨member.1, ?_⟩
  rw [awaits, ← Column.moment_instant kept]
  exact member.2

theorem candidates_awaited {store : Store} {deposit : Deposit} {found : List Intent}
    (listed : store.candidates deposit.bucket deposit.confirmed = .ok found) {intent : Intent}
    (member : intent ∈ found) : store.Awaited deposit intent.id := by
  obtain ⟨inside, waits⟩ := candidates_awaits listed member
  exact ⟨intent, inside, rfl, waits⟩

theorem exactCandidates_awaited {store : Store} {deposit : Deposit} {partner : String}
    {found : List Intent}
    (listed : store.exactCandidates partner deposit.bucket deposit.amount deposit.confirmed =
      .ok found) {intent : Intent} (member : intent ∈ found) :
    store.Awaited deposit intent.id := by
  obtain ⟨all, candidates, listed⟩ := bind_eq_ok.mp listed
  obtain ⟨other, inside, kept⟩ := exists_of_mem_filterMapM (liftDecimal_eq_ok.mp listed) member
  split at kept
  · obtain ⟨same, -, kept⟩ := bind_eq_ok.mp kept
    split at kept
    · cases kept
      exact candidates_awaited candidates inside
    · cases kept
  · cases kept

def observedRow (deposit : Deposit) (now : Timestamp) : Except Fault Observed := do
  let amount ← Column.decimal deposit.amount
  let shares ← Column.decimal deposit.shares
  let confirmed ← Column.moment deposit.confirmed
  let observed ← Column.moment now
  let chain ← Column.word deposit.bucket.chain
  return ⟨{ deposit with amount, shares, confirmed, bucket.chain := chain }, observed⟩

theorem observedRow_txHash {deposit : Deposit} {now : Timestamp} {row : Observed}
    (made : observedRow deposit now = .ok row) : row.deposit.txHash = deposit.txHash := by
  obtain ⟨amount, -, made⟩ := bind_eq_ok.mp made
  obtain ⟨shares, -, made⟩ := bind_eq_ok.mp made
  obtain ⟨confirmed, -, made⟩ := bind_eq_ok.mp made
  obtain ⟨observed, -, made⟩ := bind_eq_ok.mp made
  obtain ⟨chain, -, made⟩ := bind_eq_ok.mp made
  cases made
  rfl

theorem insertObserved_eq (store : Store) (deposit : Deposit) (now : Timestamp) :
    store.insertObserved deposit now = (do
      let row ← observedRow deposit now
      if (store.observed? deposit.txHash).isSome then return none
      return some (store.enter (.observed row))) := by
  simp only [insertObserved, observedRow, bind_assoc, pure_bind, enter]

@[simp] theorem enterAll_ofClaim_attributions (store : Store) (intent : Option String) :
    (store.enterAll (Entry.ofClaim intent)).attributions = store.attributions := by
  cases intent <;> rfl

/-- What a record comes to where the same speaks for it and against it. -/
theorem commit_congr {claimed others : Store} {txHash : String} {decision : Decision}
    (permits : claimed.permits txHash decision = others.permits txHash decision)
    (now : Timestamp)
    (taken : claimed.linkTaken (.ofDecision txHash decision now) =
      others.linkTaken (.ofDecision txHash decision now)) :
    (∃ fault, claimed.commit txHash decision now = .error fault ∧
      others.commit txHash decision now = .error fault) ∨
    ∃ row, row.txHash = txHash ∧ row.intent = decision.intent ∧
      claimed.commit txHash decision now =
        .ok (.ofDecision txHash decision now, claimed.enter (.recorded row)) ∧
      others.commit txHash decision now =
        .ok (.ofDecision txHash decision now, others.enter (.recorded row)) := by
  unfold commit
  rw [permits]
  cases others.permits txHash decision with
  | error fault => exact Or.inl ⟨fault, rfl, rfl⟩
  | ok permitted =>
    cases made : attributionRow (.ofDecision txHash decision now) with
    | error fault =>
      simp only [bind_of_ok rfl, made]
      exact Or.inl ⟨fault, rfl, rfl⟩
    | ok row =>
      obtain ⟨hash, intent, -⟩ := attributionRow_eq_ok made
      simp only [bind_of_ok rfl, made, taken]
      cases others.linkTaken (.ofDecision txHash decision now) with
      | true => exact Or.inl ⟨_, rfl, rfl⟩
      | false => exact Or.inr ⟨row, hash, intent, rfl, rfl⟩

namespace AgreeOn

variable {store other : Store} {deposit : Deposit} (keyed : store.Keyed) (also : other.Keyed)
  (alike : Alike deposit store other)
include alike

/-- An intent that awaits the deposit is linked on both or on none. -/
theorem linkTaken (decision : Decision)
    (awaited : ∀ id, decision.intent = some id → store.Awaited deposit id) (now : Timestamp) :
    (store.enterAll (Entry.ofClaim decision.intent)).linkTaken
        (.ofDecision deposit.txHash decision now) =
      (other.enterAll (Entry.ofClaim decision.intent)).linkTaken
        (.ofDecision deposit.txHash decision now) := by
  cases linked : decision.intent with
  | none => simp only [Store.linkTaken, Attribution.ofDecision, linked]
  | some id =>
    obtain ⟨intent, member, rfl, waits⟩ := awaited id linked
    have links := alike.links intent member waits
    simp only [Store.linkTaken, Attribution.ofDecision, linked, linking?,
      enterAll_ofClaim_attributions]
    rw [Bool.eq_iff_iff, List.find?_isSome, List.find?_isSome]
    constructor
    · rintro ⟨row, inside, links_it⟩
      exact ⟨row, (links row (of_decide_eq_true links_it)).mp inside, links_it⟩
    · rintro ⟨row, inside, links_it⟩
      exact ⟨row, (links row (of_decide_eq_true links_it)).mpr inside, links_it⟩

section

include also

theorem attribution? : store.attribution? deposit.txHash = other.attribution? deposit.txHash :=
  Table.find?_congr Attribution.txHash also.attributions alike.attributions

theorem observed? : store.observed? deposit.txHash = other.observed? deposit.txHash :=
  Table.find?_congr (fun row : Observed => row.deposit.txHash) also.observed alike.observed

theorem insertObserved (now : Timestamp) :
    (∃ fault, store.insertObserved deposit now = .error fault ∧
      other.insertObserved deposit now = .error fault) ∨
    (store.insertObserved deposit now = .ok none ∧
      other.insertObserved deposit now = .ok none) ∨
    ∃ row : Observed, row.deposit.txHash = deposit.txHash ∧
      store.insertObserved deposit now = .ok (some (store.enter (.observed row))) ∧
      other.insertObserved deposit now = .ok (some (other.enter (.observed row))) := by
  rw [insertObserved_eq, insertObserved_eq, alike.observed? also]
  cases made : observedRow deposit now with
  | error fault => exact Or.inl ⟨fault, rfl, rfl⟩
  | ok row =>
    cases (other.observed? deposit.txHash).isSome with
    | true => exact Or.inr (Or.inl ⟨rfl, rfl⟩)
    | false => exact Or.inr (Or.inr ⟨row, observedRow_txHash made, rfl, rfl⟩)

end

section

include keyed also

theorem intent? {id : String} (awaited : store.Awaited deposit id) :
    ∃ intent, store.intent? id = some intent ∧ other.intent? id = some intent := by
  obtain ⟨intent, member, rfl, waits⟩ := awaited
  have there := (alike.intents intent waits).mp member
  exact ⟨intent, intent?_of_mem keyed.intents member, intent?_of_mem also.intents there⟩

/-- The same intents await the deposit, in the same order. -/
theorem candidates :
    store.candidates deposit.bucket deposit.confirmed =
      other.candidates deposit.bucket deposit.confirmed := by
  unfold Store.candidates
  cases kept : Column.moment deposit.confirmed with
  | error fault => rfl
  | ok asOf =>
    cases Column.word deposit.bucket.chain with
    | error fault => rfl
    | ok chain =>
      simp only [bind_of_ok rfl]
      congr 1
      apply Table.byTime_filter_congr keyed.intents also.intents
      intro intent waits
      apply alike.intents
      -- The column keeps the instant, and that is all that counts.
      rwa [awaits, Column.moment_instant kept] at waits

theorem exactCandidates (partner : String) :
    store.exactCandidates partner deposit.bucket deposit.amount deposit.confirmed =
      other.exactCandidates partner deposit.bucket deposit.amount deposit.confirmed := by
  unfold Store.exactCandidates
  rw [alike.candidates keyed also]

theorem permits (decision : Decision)
    (awaited : ∀ id, decision.intent = some id → store.Awaited deposit id) :
    (store.enterAll (Entry.ofClaim decision.intent)).permits deposit.txHash decision =
      (other.enterAll (Entry.ofClaim decision.intent)).permits deposit.txHash decision := by
  have absent : (store.enterAll (Entry.ofClaim decision.intent)).attribution? deposit.txHash =
      (other.enterAll (Entry.ofClaim decision.intent)).attribution? deposit.txHash := by
    simp only [Store.attribution?, enterAll_ofClaim_attributions]
    exact alike.attribution? also
  unfold Store.permits
  rw [absent]
  cases linked : decision.intent with
  | none => rfl
  | some id =>
    obtain ⟨intent, here, there⟩ := alike.intent? keyed also (awaited id linked)
    simp only [intent?_enterAll, here, there]

end

end AgreeOn

end Store

end Reconcile
