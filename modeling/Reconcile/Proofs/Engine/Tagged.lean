import Reconcile.Proofs.Engine.Inferring

set_option autoImplicit false

/-
What a delivery with a partner's name on it comes to, if nobody disturbs it. It is always credited
to that partner. The intent that it links is the oldest of those that the partner declared for
exactly this deposit, and no other intent counts.
-/
namespace Reconcile

open Relation (ReflTransGen)

/-- An intent of a partner awaits exactly this deposit. -/
structure Deposit.MetBy (deposit : Deposit) (partner : String) (intent : Intent) : Prop
    extends deposit.AwaitedBy intent where
  owner : intent.partner = partner
  number : intent.amount.isFinite
  amount : intent.amount.toRat = deposit.amount.toRat

theorem Decimal.isSignaling_of_normalize {a kept : Decimal} (made : a.normalize = .ok kept) :
    kept.isSignaling = false := by
  cases a with
  | finite s c e =>
    obtain ⟨d, f, rfl⟩ := normalize_sign made
    rfl
  | infinite s =>
    cases made
    rfl
  | nan s signaling payload =>
    cases signaling with
    | false =>
      cases made
      rfl
    | true => cases made

namespace Store

/-- The oldest of the intents of a partner that await exactly this deposit, if there is one. -/
inductive Oldest (store : Store) (deposit : Deposit) (partner : String) : Option Intent → Prop
  | nobody (unmet : ∀ intent ∈ store.intents, ¬ deposit.MetBy partner intent) :
      Oldest store deposit partner none
  | first {intent : Intent} (member : intent ∈ store.intents)
      (met : deposit.MetBy partner intent)
      (least : ∀ other ∈ store.intents, deposit.MetBy partner other → other ≠ intent →
        Table.Before Intent.created Intent.id intent other) :
      Oldest store deposit partner (some intent)

theorem oldest_of_queue {store : Store} {deposit : Deposit} {partner : String} {line : List Intent}
    (lined : Table.Queue Intent.created Intent.id (deposit.MetBy partner) store.intents line) :
    store.Oldest deposit partner line.head? := by
  have members := lined.mem_iff
  cases line with
  | nil =>
    apply Oldest.nobody
    intro intent member met
    exact List.not_mem_nil ((members intent).mpr ⟨member, met⟩)
  | cons intent others =>
    obtain ⟨member, met⟩ := (members intent).mp List.mem_cons_self
    apply Oldest.first member met
    intro other inside also different
    rcases List.mem_cons.mp ((members other).mpr ⟨inside, also⟩) with same | later
    · exact absurd same different
    · exact List.rel_of_pairwise_cons lined.ordered later

/-- No amount in tables that operations lead to is a signal. -/
theorem Reached.quiet {store : Store} (reached : store.Reached) :
    ∀ intent ∈ store.intents, intent.amount.isSignaling = false := by
  apply @reached.forall_intents fun intent => intent.amount.isSignaling = false
  · intro intent row made
    exact Decimal.isSignaling_of_normalize (Column.decimal_eq_ok.mp (intentRow_passes made).amount)
  · intro intent quiet status
    exact quiet

/-- A query for the intents of a partner finds those that await exactly the deposit, the oldest
first. -/
theorem exactCandidates_queue {store : Store} {deposit : Deposit} (reached : store.Reached)
    (ready : deposit.Ready) (partner : String) :
    ∃ line,
      Table.Queue Intent.created Intent.id (deposit.MetBy partner) store.intents line ∧
      store.exactCandidates partner deposit.bucket deposit.amount deposit.confirmed = .ok line := by
  refine ⟨_, ?_, store.exactCandidates_eq_filter ready reached.quiet partner⟩
  have waiting : Table.Queue Intent.created Intent.id deposit.AwaitedBy store.intents
      (Table.byTime Intent.created Intent.id
        (store.intents.filter (awaits deposit.bucket deposit.confirmed))) :=
    (Table.byTime_queue reached.keyed.intents).congr fun intent => awaits_iff
  refine ⟨?_, waiting.ordered.sublist List.filter_sublist⟩
  intro intent
  rw [List.mem_filter, waiting.mem_iff]
  simp only [Bool.and_eq_true, decide_eq_true_eq]
  constructor
  · rintro ⟨⟨member, awaited⟩, owner, number, amount⟩
    exact ⟨member, awaited, owner, number, amount⟩
  · rintro ⟨member, awaited, owner, number, amount⟩
    exact ⟨⟨member, awaited⟩, owner, number, amount⟩

def matching (store : Store) : Option Intent → List Intent
  | none => store.intents
  | some intent =>
    Table.update Intent.id intent.id (fun row => { row with status := .matched }) store.intents

theorem matching_congr {store after : Store} (same : after.intents = store.intents)
    (first : Option Intent) : after.matching first = store.matching first := by
  cases first with
  | none => exact same
  | some intent => rw [matching, matching, same]

theorem Claims.intents_eq {store claimed : Store} {first : Option Intent}
    (claims : store.Claims claimed (first.map (·.id))) :
    claimed.intents = store.matching first := by
  cases first with
  | none => rw [claims, matching]
  | some intent =>
    obtain ⟨pending, rfl⟩ := claims
    rw [move_of_pending pending, matching]

end Store

namespace Engine

section

variable {engine : Engine} {deposit : Deposit} {now : Timestamp} {partner : String}

/-- A delivery has credited its deposit to a partner for certain, with this intent if there is one,
which it has matched. -/
structure Credits (engine : Engine) (deposit : Deposit) (now : Timestamp) (partner : String)
    (first : Option Intent) (outcome : Outcome (Option Attribution)) : Prop where
  result : outcome.result = .ok (some (.ofDecision deposit.txHash
    (.explicit deposit partner (first.map (·.id))) now))
  intents : outcome.engine.store.intents = engine.store.matching first
  attributions : ∃ row, Store.attributionRow (.ofDecision deposit.txHash
    (.explicit deposit partner (first.map (·.id))) now) = .ok row ∧
      outcome.engine.store.attributions =
        Table.insert Attribution.txHash row engine.store.attributions

theorem deliverDeposit_credits (reached : engine.store.Reached) (ready : deposit.Ready)
    (named : deposit.partner? = some partner)
    (fresh : engine.store.attribution? deposit.txHash = none) {kept : Timestamp}
    (timed : Column.moment now = .ok kept) :
    ∃ first, engine.store.Oldest deposit partner first ∧
      engine.Credits deposit now partner first (engine.deliverDeposit deposit now .absent) := by
  let task : Delivery.Task := ⟨engine.settings.matching, deposit, now⟩
  rcases Store.entered_cases ready fresh now with ⟨-, entered, entering⟩ | ⟨-, -, -, unkept⟩
  swap
  · rw [unkept] at timed
    cases timed
  have still : entered.Reached := reached.changes entering.changes
  obtain ⟨line, lined, queried⟩ := Store.exactCandidates_queue still ready partner
  have pending : ∀ intent ∈ line, entered.isPending intent.id = true := by
    intro intent member
    obtain ⟨inside, met⟩ := (lined.mem_iff intent).mp member
    exact Store.isPending_of_awaits still.keyed inside
      (Store.awaits_iff.mpr met.toAwaitedBy)
  obtain ⟨claimed, row, claims, made, comes⟩ := @Delivery.Task.comes_of_exact task entered partner
    line still.sound ready entering.fresh named queried pending kept timed
  obtain ⟨result, left⟩ :=
    deliverDeposit_of_comes (task.comes_of_firstQuery fresh entering comes)
  rw [entering.intents] at lined
  refine ⟨line.head?, Store.oldest_of_queue lined, result, ?_, row, made, ?_⟩
  · rw [left, ← Store.matching_congr entering.intents]
    exact claims.intents_eq
  · rw [left, claims.attributions, entering.attributions]

/-- On tables that calls have led to, at one time or one after the other, a delivery that is alone
and has a name on its deposit is credited to that partner for certain. It links the oldest of the
partner's intents that await exactly this deposit, if there is one, and no other intent
changes. -/
theorem tagged_delivery_links_oldest (engine : Engine) (schedule : List Move)
    (reached : engine.store = ((Traffic.on .empty).run schedule).store) {payload : Json}
    (read : Payload.Delivery.read payload = .ok deposit)
    (fits : deposit.bucket.chain < Column.wordLimit) {tag : String}
    (tagged : deposit.tag = some tag) (names : (Text.strip tag).isEmpty = false)
    (fresh : engine.store.attribution? deposit.txHash = none) {kept : Timestamp}
    (timed : Column.moment now = .ok kept) :
    ∃ first, engine.store.Oldest deposit (Text.strip tag) first ∧
      engine.Credits deposit now (Text.strip tag) first (engine.deliver payload now .absent) := by
  have tables : engine.store.Reached := reached ▸ Traffic.run_changes (Traffic.on .empty) schedule
  have named : deposit.partner? = some (Text.strip tag) := by
    simp only [Deposit.partner?, partnerOfTag, tagged, Option.getD_some, names, Bool.false_eq_true,
      if_false]
  have alone : engine.deliver payload now .absent = engine.deliverDeposit deposit now .absent := by
    simp only [deliver, read]
  rw [alone]
  exact deliverDeposit_credits tables (ready_of_read read fits) named fresh timed

end

namespace Tagged

def delivery : Json :=
  .object [("txHash", .string "0xab"), ("vaultId", .string "v"), ("chainId", .int 1),
    ("receiver", .string "0x1"), ("amount", .int 1), ("shares", .int 1),
    ("confirmedAt", .string "1970-01-01T00:01:00Z"), ("explicitPartnerTag", .string " acme ")]

def deposit : Deposit := (Payload.Delivery.read delivery).toOption.getD default

def intent (id partner : String) (created : Int) : Intent :=
  ⟨id, partner, deposit.bucket, .one, .utc created, .utc 3600000000, [], .pending⟩

/-- An engine with two intents that the deposit meets, and an older one of another partner. -/
def declared : List Move :=
  [.declare (intent "late" "acme" 30000000), .declare (intent "early" "acme" 20000000),
    .declare (intent "other" "beta" 0)]

def engine : Engine :=
  { start .usual with store := ((Traffic.on .empty).run declared).store }

theorem read_delivery : Payload.Delivery.read delivery = .ok deposit :=
  eq_ok_getD (by decide +kernel)

end Tagged

/-- The delivery links the older of the two intents that it meets. -/
theorem tagged_delivery_links_oldest_early :
    Tagged.engine.Credits Tagged.deposit (.utc 0) "acme"
      (some (Tagged.intent "early" "acme" 20000000))
      (Tagged.engine.deliver Tagged.delivery (.utc 0) .absent) := by
  obtain ⟨first, oldest, credits⟩ := tagged_delivery_links_oldest Tagged.engine Tagged.declared rfl
    Tagged.read_delivery (by decide +kernel) (by decide +kernel : Tagged.deposit.tag = some "acme")
    (by decide +kernel) (by decide +kernel) (@Column.moment_utc 0 (by decide))
  have stripped : Text.strip "acme" = "acme" := by decide +kernel
  rw [stripped] at oldest credits
  have rows : Tagged.engine.store.intents = [Tagged.intent "early" "acme" 20000000,
      Tagged.intent "late" "acme" 30000000, Tagged.intent "other" "beta" 0] := by
    rfl
  have early : Tagged.intent "early" "acme" 20000000 ∈ Tagged.engine.store.intents := by
    rw [rows]
    exact List.mem_cons_self
  have met : Tagged.deposit.MetBy "acme" (Tagged.intent "early" "acme" 20000000) := by
    have same : Tagged.deposit.amount = .one := by decide +kernel
    exact ⟨⟨rfl, rfl, by decide +kernel⟩, rfl, rfl, by rw [same]; rfl⟩
  cases oldest with
  | nobody unmet => exact absurd met (unmet _ early)
  | @first intent member also least =>
    rw [rows] at member
    simp only [List.mem_cons, List.not_mem_nil, or_false] at member
    rcases member with rfl | rfl | rfl
    · exact credits
    · have other : Tagged.intent "early" "acme" 20000000 ≠ Tagged.intent "late" "acme" 30000000 :=
        fun same => absurd (congrArg Intent.id same) (by decide)
      exact absurd (least _ early met other) (by decide +kernel)
    · exact absurd also.owner (by decide)

end Engine

end Reconcile
