import Reconcile.Proofs.Payload.Delivery
import Reconcile.Proofs.Traffic.Evidence

set_option autoImplicit false

/-
What attributions rest on. If every delivery of a transaction reports the same, then the three
tables agree: an attribution has the amounts of the observed deposit, and the intent that it links
expected that deposit.
-/
namespace Reconcile

/-- The intent that a row links expected the deposit of the row: it is of the same bucket, had not
expired when the deposit was confirmed and is of the partner that the row credits. What its amount
has to do with the deposit's depends on the source. -/
structure Attribution.Fits (policy : Policy) (deposit : Deposit) (row : Attribution)
    (intent : Intent) : Prop where
  bucket : intent.bucket = deposit.bucket
  live : deposit.confirmed.instant < intent.expires.instant
  owner : row.partner = some intent.partner
  exact : row.source = .explicit → intent.amount.same? deposit.amount = .ok true
  near : row.source = .inferred →
    Matching.withinTolerance policy intent.amount deposit.amount = .ok true

namespace Store

/-- What an attribution rests on: the deposit that was observed, and the intent that it links. -/
structure Supports (policy : Policy) (store : Store) (deposit : Deposit) (row : Attribution) :
    Prop where
  txHash : row.txHash = deposit.txHash
  assets : row.assets = deposit.amount
  shares : row.shares = some deposit.shares
  linked : ∀ id, row.intent = some id →
    ∃ intent, store.intent? id = some intent ∧ row.Fits policy deposit intent
  named : row.source = .explicit → deposit.partner? ≠ none ∧ row.partner = deposit.partner?
  nameless : row.source = .inferred → row.intent ≠ none → deposit.partner? = none

variable {policy : Policy} {store : Store} {deposit : Deposit} {decision : Decision}
  {now : Timestamp} {row : Attribution}

/-- The intent that the tables hold is the one that was expected, at whatever status. -/
theorem Expects.linked {intent : Intent} (expects : store.Expects deposit intent)
    (keyed : (store.intents.map (·.id)).Nodup) :
    ∃ found, store.intent? intent.id = some found ∧ found.bucket = deposit.bucket ∧
      deposit.confirmed.instant < found.expires.instant ∧ found.partner = intent.partner ∧
      found.amount = intent.amount := by
  obtain ⟨status, found⟩ := expects.lists.intent? keyed
  exact ⟨_, found, expects.bucket, expects.live, rfl, rfl⟩

theorem Backs.supports (canonical : deposit.Canonical) (keyed : (store.intents.map (·.id)).Nodup)
    (backs : store.Backs policy deposit decision)
    (made : attributionRow (.ofDecision deposit.txHash decision now) = .ok row) :
    store.Supports policy deposit row := by
  obtain ⟨txHash, intent, partner, source, -⟩ := attributionRow_eq_ok made
  obtain ⟨-, keptAssets, keptShares, -, -⟩ := attributionRow_passes made
  simp only [Attribution.ofDecision] at txHash intent partner source keptAssets keptShares
  rw [backs.amounts.1, canonical.amount] at keptAssets
  rw [backs.amounts.2, canonical.someShares] at keptShares
  have assets : row.assets = deposit.amount := (Except.ok.inj keptAssets).symm
  have shares : row.shares = some deposit.shares := (Except.ok.inj keptShares).symm
  have notInferred : decision.source = .explicit → row.source ≠ .inferred := by
    intro explicit
    rw [source, explicit]
    decide
  have notExplicit : decision.source = .inferred → row.source ≠ .explicit := by
    intro inferred
    rw [source, inferred]
    decide
  have unlinked : decision.intent = none → ∀ id, row.intent ≠ some id := by
    intro nothing id
    rw [intent, nothing]
    exact (Option.some_ne_none id).symm
  cases backs with
  | named named =>
    refine ⟨txHash, assets, shares, ?_, ?_, ?_⟩
    · exact fun id linked => absurd linked (unlinked rfl id)
    · exact fun _ => named ▸ ⟨Option.some_ne_none _, partner⟩
    · exact fun inferred => absurd inferred (notInferred rfl)
  | @exact owner expected named exactly =>
    refine ⟨txHash, assets, shares, ?_, ?_, ?_⟩
    · intro id linked
      obtain rfl : expected.id = id := Option.some.inj (intent.symm.trans linked)
      obtain ⟨found, present, bucket, live, samePartner, sameAmount⟩ :=
        exactly.expects.linked keyed
      refine ⟨found, present, bucket, live, ?_, fun _ => sameAmount ▸ exactly.amount, ?_⟩
      · rw [samePartner, exactly.owner]
        exact partner
      · exact fun inferred => absurd inferred (notInferred rfl)
    · exact fun _ => named ▸ ⟨Option.some_ne_none _, partner⟩
    · exact fun inferred => absurd inferred (notInferred rfl)
  | @chosen selection nameless expects justified =>
    refine ⟨txHash, assets, shares, ?_, ?_, fun _ _ => nameless⟩
    · intro id linked
      obtain rfl : selection.winner.intent.id = id := Option.some.inj (intent.symm.trans linked)
      obtain ⟨found, present, bucket, live, samePartner, sameAmount⟩ := expects.linked keyed
      refine ⟨found, present, bucket, live, ?_, ?_, fun _ => sameAmount ▸ justified.tolerated⟩
      · rw [samePartner]
        exact partner
      · exact fun explicit => absurd explicit (notExplicit rfl)
    · exact fun explicit => absurd explicit (notExplicit rfl)
  | nobody =>
    refine ⟨txHash, assets, shares, ?_, ?_, ?_⟩
    · exact fun id linked => absurd linked (unlinked rfl id)
    · exact fun explicit => absurd explicit (notExplicit rfl)
    · exact fun _ linked => absurd intent linked

end Store

namespace Traffic

/-- The deposits of a schedule are what payloads report, and each transaction has only one. -/
structure Consistent (schedule : List Move) : Prop where
  validated : ∀ deposit, Delivered schedule deposit →
    ∃ payload, Payload.Delivery.read payload = .ok deposit
  alike : ∀ first second, Delivered schedule first → Delivered schedule second →
    first.txHash = second.txHash → first = second

/-- However deliveries, sweeps and the other operations come between each other: if deliveries go
by one policy and those of one transaction report the same, every attribution rests on an observed
deposit. -/
theorem attributions_rest_on_deposits (policy : Policy) (schedule : List Move)
    (goes : GoesBy policy schedule) (consistent : Consistent schedule) :
    ∀ row ∈ ((on .empty).run schedule).store.attributions,
      ∃ observed ∈ ((on .empty).run schedule).store.observed,
        ((on .empty).run schedule).store.Supports policy observed.deposit row := by
  have canonical : ∀ deposit, Delivered schedule deposit → deposit.Canonical := by
    intro deposit delivered
    obtain ⟨payload, read⟩ := consistent.validated deposit delivered
    exact Payload.Delivery.read_canonical read
  have returns : Store.Returns (Delivered schedule) := by
    intro store after deposit now delivered done row member
    obtain ⟨added, same, rfl⟩ := Store.insertObserved_canonical (canonical deposit delivered) done
    rcases (Table.mem_insert _).mp member with rfl | old
    · exact Or.inr (same ▸ delivered)
    · exact Or.inl old
  have nothing : ∀ row ∈ Store.empty.observed, Delivered schedule row.deposit := by
    intro row member
    cases member
  have evident := (run_evident nothing returns schedule goes fun _ => id).store
  intro row member
  obtain old | ⟨deposit, decision, now, delivered, backs, made⟩ := evident.attributions row member
  · cases old
  · obtain ⟨observed, found⟩ := Option.isSome_iff_exists.mp (run_grounded schedule row member)
    obtain ⟨inside, same⟩ := Table.mem_of_find? _ found
    -- The deposit that was decided on and the one that was observed are of one transaction.
    have one : observed.deposit = deposit := by
      refine consistent.alike _ _ (evident.observed observed inside) delivered ?_
      rw [same, (Store.attributionRow_eq_ok made).1]
      rfl
    have keyed := (run_sound schedule).intents.nodup
    rw [← one] at backs made delivered
    exact ⟨observed, inside, backs.supports (canonical _ delivered) keyed made⟩

/-- A delivery without a tag, and an intent that expects it. -/
def Sample.untagged : Json :=
  .object
    [("txHash", .string "0xAB"), ("vaultId", .string "v"), ("chainId", .int 1),
      ("receiver", .string "0x1"), ("assets", .int 1),
      ("confirmedAt", .string "1970-01-01T00:00:00Z")]

def Sample.awaited : Intent :=
  { Sample.intent with
    bucket := ⟨"v", 1, "0x" ++ String.ofList (Address.padded ['1'])⟩ }

def matched : List Move :=
  [.declare Sample.awaited, .deliver .usual (.payload Sample.untagged) (.utc 0)] ++
    List.replicate 5 (.advance 0)

theorem matched_deliver {policy : Policy} {parcel : Parcel} {now : Timestamp}
    (began : .deliver policy parcel now ∈ matched) :
    policy = .usual ∧ parcel = .payload Sample.untagged := by
  simp [matched] at began
  exact ⟨began.1, began.2.1⟩

theorem matched_consistent : Consistent matched := by
  have read : ∀ deposit, Delivered matched deposit →
      Payload.Delivery.read Sample.untagged = .ok deposit := by
    rintro deposit ⟨policy, parcel, now, began, read⟩
    rwa [(matched_deliver began).2] at read
  refine ⟨fun deposit delivered => ⟨_, read deposit delivered⟩, ?_⟩
  intro first second one other _
  exact Except.ok.inj ((read first one).symm.trans (read second other))

theorem attributions_rest_on_deposits_matched :
    ∃ row ∈ ((on .empty).run matched).store.attributions,
      row.intent = some "i" ∧ row.source = .inferred ∧
      ∃ observed ∈ ((on .empty).run matched).store.observed,
        ((on .empty).run matched).store.Supports .usual observed.deposit row := by
  have recorded : ((on .empty).run matched).store.attributions.any
      fun row => row.intent = some "i" ∧ row.source = .inferred := by
    decide +kernel
  obtain ⟨row, member, linked⟩ := List.any_eq_true.mp recorded
  obtain ⟨linked, inferred⟩ := of_decide_eq_true linked
  exact ⟨row, member, linked, inferred, attributions_rest_on_deposits .usual matched
    (fun _ _ _ began => (matched_deliver began).1) matched_consistent row member⟩

end Traffic

end Reconcile
