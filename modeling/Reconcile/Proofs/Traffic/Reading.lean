import Reconcile.Proofs.Store.Listing
import Reconcile.Proofs.Traffic.Links
import Reconcile.Proofs.Traffic.Taxonomy

set_option autoImplicit false

/-
What readers see. Attributions are read by their transactions, by the intents that they link and by
the partners that they credit, and the three ways agree on tables that operations have left.
-/
namespace Reconcile

theorem Delivery.Stage.Decides.credits {deposit : Deposit} {stage : Delivery.Stage}
    {decision : Decision} (decides : stage.Decides deposit decision) :
    decision.partner ≠ none := by
  cases decides <;> exact Option.some_ne_none _

namespace Store

variable {store claimed after : Store}

/-- The attributions without a partner are the records of deposits that nobody gets. -/
def Credited (store : Store) : Prop :=
  ∀ row ∈ store.attributions, row.isTerminal = true ↔ row.partner = none

theorem Credited.congr (credited : store.Credited)
    (same : after.attributions = store.attributions) : after.Credited := by
  rw [Credited, same]
  exact credited

theorem Credited.record {txHash : String} {decision : Decision} {now : Timestamp}
    {attribution : Attribution} (credited : store.Credited)
    (claims : store.Claims claimed decision.intent)
    (done : claimed.commit txHash decision now = .ok (attribution, after))
    (fits : ∀ row, attributionRow (.ofDecision txHash decision now) = .ok row →
      (row.isTerminal = true ↔ row.partner = none)) : after.Credited := by
  obtain ⟨-, rfl, -, row, made, rfl⟩ := commit_eq_ok done
  intro other member
  rcases (Table.mem_insert Attribution.txHash).mp member with rfl | old
  · exact fits other made
  · rw [claims.attributions] at old
    exact credited other old

/-- What a delivery decides credits a partner. -/
theorem Credited.deliver {deposit : Deposit} {stage : Delivery.Stage} {decision : Decision}
    {now : Timestamp} {attribution : Attribution} (credited : store.Credited)
    (decides : stage.Decides deposit decision) (claims : store.Claims claimed decision.intent)
    (done : claimed.commit deposit.txHash decision now = .ok (attribution, after)) :
    after.Credited := by
  refine credited.record claims done ?_
  intro row made
  have credits : row.partner ≠ none := by
    rw [(attributionRow_eq_ok made).2.2.1]
    exact decides.credits
  constructor
  · intro terminal
    exact (Attribution.isTerminal_iff.mp terminal).1
  · intro nobody
    exact absurd nobody credits

/-- What a sweep marks is credited to nobody. -/
theorem Credited.mark {deposit : Deposit} {now : Timestamp} {attribution : Attribution}
    (credited : store.Credited)
    (done : store.markUnattributed deposit now = .ok (attribution, after)) : after.Credited := by
  refine credited.record (store.claims_unattributed deposit) done ?_
  intro row made
  have terminal := unattributed_row made
  exact iff_of_true terminal (Attribution.isTerminal_iff.mp terminal).1

theorem Credited.leads {call next : Activity} (credited : store.Credited)
    (leads : Activity.Leads store call next after) : after.Credited := by
  cases leads with
  | delivery leads =>
    cases leads with
    | observed done =>
      obtain ⟨-, row, -, rfl⟩ := insertObserved_eq_ok done
      exact credited
    | recorded decides claims done =>
      exact credited.deliver decides (claims.resolve_left Bool.false_ne_true) done
    | _ => exact credited
  | refused fault => exact credited
  | sweep leads =>
    cases leads with
    | expired due expired => exact credited.congr (store.expireAll_tables due).2
    | marked expired flagged rest done => exact credited.mark done
    | _ => exact credited

end Store

namespace Traffic

theorem run_credited (schedule : List Move) : ((on .empty).run schedule).store.Credited := by
  have start : Holds Store.Credited (fun _ _ => True) (on .empty) :=
    Holds.on fun row member => absurd member List.not_mem_nil
  refine (start.run schedule ?_ ?_ ?_ ?_ ?_).store
  · exact fun _ _ _ _ _ => True.intro
  · exact fun _ _ _ => True.intro
  · exact fun _ _ _ _ _ _ _ _ leads credited _ => ⟨credited.leads leads, True.intro⟩
  · exact fun _ _ _ _ _ => True.intro
  · exact fun _ _ _ same credited => credited.congr same

end Traffic

namespace Store

variable {store : Store}

theorem Sound.attribution?_of_mem (sound : store.Sound) {row : Attribution}
    (member : row ∈ store.attributions) : store.attribution? row.txHash = some row :=
  sound.attributions.find?_of_mem Attribution.txHash member

/-- No other row links the intent of a row, so the row is the one that is found. -/
theorem Sound.linking?_of_mem (sound : store.Sound) {row : Attribution} {id : String}
    (member : row ∈ store.attributions) (linked : row.intent = some id) :
    store.linking? id = some row := by
  have found : (store.linking? id).isSome := by
    rw [linking?, List.find?_isSome]
    exact ⟨row, member, decide_eq_true linked⟩
  obtain ⟨other, here⟩ := Option.isSome_iff_exists.mp found
  have also : other.intent = some id := by simpa using List.find?_some here
  rw [here, sound.eq_of_linked member linked (List.mem_of_find?_eq_some here) also]

theorem linking?_of_unlinked {id : String}
    (unlinked : ∀ row ∈ store.attributions, row.intent ≠ some id) : store.linking? id = none := by
  rw [linking?, List.find?_eq_none]
  intro row member
  simpa using unlinked row member

theorem view_of_found {id : String} {intent : Intent} (found : store.intent? id = some intent) :
    store.view id = .ok ⟨intent, store.linking? id⟩ := by
  simp only [view, getIntent, found]
  rfl

/-- A row that credits a partner is in the listing of this partner alone. -/
theorem mem_listing_iff (keyed : (store.attributions.map (·.txHash)).Nodup) {row : Attribution}
    (member : row ∈ store.attributions) (partner : String) :
    row ∈ store.listing partner ↔ row.partner = some partner := by
  rw [(listing_isListing keyed partner).mem_iff]
  exact and_iff_right member

end Store

namespace Engine

def Shows (engine : Engine) (partner : String) (row : Attribution) : Prop :=
  ∃ listing, (engine.listPartner partner none).result = .ok listing ∧ row ∈ listing

theorem shows_iff {engine : Engine} (keyed : (engine.store.attributions.map (·.txHash)).Nodup)
    {row : Attribution} (member : row ∈ engine.store.attributions) (partner : String) :
    engine.Shows partner row ↔ row.partner = some partner := by
  rw [← Store.mem_listing_iff keyed member]
  constructor
  · rintro ⟨listing, listed, inside⟩
    cases listed
    exact inside
  · intro inside
    exact ⟨_, rfl, inside⟩

/-- On tables that any schedule of operations has left: an attribution is the one that is read for
its transaction, however the hash is written, and for the intent that it links, which is matched
then; an intent that no row links is read without an attribution; and what is listed for a partner
up to a limit of 64 bits are the first of all rows that credit it, the latest first. So an
attribution is in the listing of exactly one partner, or of none if nobody gets the deposit. -/
theorem reads_agree (engine : Engine) (schedule : List Move)
    (reached : engine.store = ((Traffic.on .empty).run schedule).store) :
    (∀ row ∈ engine.store.attributions,
      engine.store.attribution? row.txHash = some row ∧
      (∀ written, Text.lowercase (Text.strip written) = row.txHash →
        (engine.getAttribution written).result = .ok (some row)) ∧
      (∀ id, row.intent = some id → ∃ intent, intent.id = id ∧ intent.status = .matched ∧
        (engine.getIntent id).result = .ok ⟨intent, some row⟩) ∧
      (row.isTerminal = false → ∃! partner, engine.Shows partner row) ∧
      (row.isTerminal = true → ∀ partner, ¬ engine.Shows partner row)) ∧
    (∀ intent ∈ engine.store.intents,
      (∀ row ∈ engine.store.attributions, row.intent ≠ some intent.id) →
      (engine.getIntent intent.id).result = .ok ⟨intent, none⟩) ∧
    ∀ partner, ∃ listing, engine.store.IsListing partner listing ∧
      (engine.listPartner partner none).result = .ok listing ∧
      ∀ n : Nat, (engine.listPartner partner (some n)).result =
        if (n : Int) < Column.wordLimit then .ok (listing.take n) else .error .outOfRange := by
  have sound : engine.store.Sound := reached ▸ Traffic.run_sound schedule
  have credited : engine.store.Credited := reached ▸ Traffic.run_credited schedule
  have keyed := sound.attributions.nodup
  refine ⟨?_, ?_, ?_⟩
  · intro row member
    have found := sound.attribution?_of_mem member
    refine ⟨found, ?_, ?_, ?_, ?_⟩
    · intro written same
      rw [← same] at found
      exact congrArg Except.ok found
    · intro id linked
      obtain ⟨intent, present, matched⟩ := sound.matched row member id linked
      refine ⟨intent, (Table.mem_of_find? Intent.id present).2, matched, ?_⟩
      rw [← sound.linking?_of_mem member linked]
      exact Store.view_of_found present
    · intro going
      have credits : row.partner ≠ none := by
        rw [Ne, ← credited row member, going]
        exact Bool.false_ne_true
      obtain ⟨partner, named⟩ := Option.ne_none_iff_exists'.mp credits
      refine ⟨partner, (shows_iff keyed member partner).mpr named, ?_⟩
      intro other shown
      rw [shows_iff keyed member, named] at shown
      exact (Option.some.inj shown).symm
    · intro terminal partner shown
      rw [shows_iff keyed member, (credited row member).mp terminal] at shown
      cases shown
  · intro intent member unlinked
    rw [← Store.linking?_of_unlinked unlinked]
    exact Store.view_of_found (sound.intents.find?_of_mem Intent.id member)
  · intro partner
    refine ⟨_, Store.listing_isListing keyed partner, rfl, ?_⟩
    intro n
    split
    · rename_i fits
      exact Store.ofPartner_of_fits _ _ fits
    · rename_i wide
      exact Store.ofPartner_of_wide _ _ (not_lt.mp wide)

def Reading.engine : Engine :=
  { start .usual with store := ((Traffic.on .empty).run Traffic.delivered).store }

/-- The row is read for its transaction in capitals, for its intent and for its partner. -/
theorem reads_agree_delivered :
    ∃ row ∈ Reading.engine.store.attributions, row.intent = some "i" ∧ row.txHash = "t" ∧
      (Reading.engine.getAttribution " T").result = .ok (some row) ∧
      (∃ intent, intent.status = .matched ∧
        (Reading.engine.getIntent "i").result = .ok ⟨intent, some row⟩) ∧
      (∃! partner, Reading.engine.Shows partner row) ∧
      ∃ listing, Reading.engine.store.IsListing "acme" listing ∧
        (Reading.engine.listPartner "acme" (some (1 : Nat))).result = .ok (listing.take 1) := by
  obtain ⟨rows, -, listings⟩ := reads_agree Reading.engine Traffic.delivered rfl
  have matched : Reading.engine.store.attributions.any
      fun row => row.intent = some "i" ∧ row.txHash = "t" ∧ row.isTerminal = false := by
    decide +kernel
  obtain ⟨row, member, fits⟩ := List.any_eq_true.mp matched
  obtain ⟨linked, hash, going⟩ := of_decide_eq_true fits
  obtain ⟨-, byHash, byIntent, listed, -⟩ := rows row member
  obtain ⟨intent, -, status, viewed⟩ := byIntent "i" linked
  obtain ⟨listing, complete, -, limited⟩ := listings "acme"
  refine ⟨row, member, linked, hash, ?_, ⟨intent, status, viewed⟩, listed going, listing,
    complete, ?_⟩
  · apply byHash
    rw [hash]
    decide +kernel
  · rw [limited 1, if_pos (by decide)]

/-- A listing with a limit that does not fit into 64 bits fails, on empty tables too. -/
theorem listing_fails_on_huge_limit :
    ¬ ∀ (engine : Engine) (schedule : List Move),
      engine.store = ((Traffic.on .empty).run schedule).store → ∀ (partner : String) (n : Nat),
      ∃ listing, engine.store.IsListing partner listing ∧
        (engine.listPartner partner (some n)).result = .ok (listing.take n) := by
  intro claim
  obtain ⟨listing, -, listed⟩ := claim (start .usual) [] rfl "acme" Column.wordLimit.toNat
  rw [listPartner, Engine.query, Store.ofPartner_of_wide _ _ (by decide)] at listed
  cases listed

end Engine

end Reconcile
