import Reconcile.Proofs.Delivery.Abreast
import Reconcile.Proofs.Engine.Failures
import Reconcile.Proofs.Engine.Operations
import Reconcile.Proofs.Store.Reached

set_option autoImplicit false

/-
Buckets do not interfere. What a delivery does depends only on the intents of its own bucket, the
rows of its own transaction and the links to those intents; the rest of the tables may be anything.
So two deliveries of different transactions to different buckets can be made in either order.
-/
namespace Reconcile

open Store (AgreeOn Alike)

namespace Store

variable {store : Store} {deposit : Deposit} {entries : List Entry}

/-- An intent of another bucket does not await the deposit. -/
theorem Awaited.not_of_bucket (keyed : store.Keyed) {intent : Intent}
    (member : intent ∈ store.intents) (apart : intent.bucket ≠ deposit.bucket) :
    ¬ store.Awaited deposit intent.id := by
  rintro ⟨other, inside, named, waits⟩
  have found := intent?_of_mem keyed.intents inside
  rw [named, intent?_of_mem keyed.intents member] at found
  cases found
  exact apart (awaits_bucket waits)

theorem Awaited.of_entered (concern : ∀ entry ∈ entries, entry.Concerns store deposit)
    {id : String} (taken : id ∈ entries.filterMap Entry.intent?) : store.Awaited deposit id := by
  obtain ⟨entry, member, takes⟩ := List.mem_filterMap.mp taken
  have concerns := concern entry member
  cases entry with
  | matched taken =>
    cases takes
    exact concerns
  | _ => cases takes

/-- Entries about one deposit leave alone what another looks at that has neither its transaction
nor its bucket. -/
theorem agreeOn_enterAll (keyed : store.Keyed)
    (concern : ∀ entry ∈ entries, entry.Concerns store deposit) {other : Deposit}
    (hashes : deposit.txHash ≠ other.txHash) (buckets : deposit.bucket ≠ other.bucket) :
    AgreeOn (fun intent => intent.bucket = other.bucket) other.txHash store
      (store.enterAll entries) := by
  have untaken : ∀ intent ∈ store.intents, intent.bucket = other.bucket →
      intent.matchIn (entries.filterMap Entry.intent?) = intent := by
    intro intent member same
    refine if_neg fun taken => ?_
    exact Awaited.not_of_bucket keyed member (fun equal => buckets (equal.symm.trans same))
      (.of_entered concern taken)
  refine ⟨?_, ?_, ?_, ?_⟩
  · intro intent same
    rw [enterAll_intents, List.mem_map]
    constructor
    · intro member
      exact ⟨intent, member, untaken intent member same⟩
    · rintro ⟨old, member, rfl⟩
      rw [Intent.matchIn_bucket] at same
      rwa [untaken old member same]
  · intro row same
    rw [mem_enterAll_observed]
    refine ⟨Or.inl, fun member => member.resolve_right fun entered => ?_⟩
    exact hashes ((concern _ entered).symm.trans same)
  · intro row same
    rw [mem_enterAll_attributions]
    refine ⟨Or.inl, fun member => member.resolve_right fun entered => ?_⟩
    exact hashes ((concern _ entered).1.symm.trans same)
  · intro intent member same row linked
    rw [mem_enterAll_attributions]
    refine ⟨Or.inl, fun present => present.resolve_right fun entered => ?_⟩
    exact Awaited.not_of_bucket keyed member (fun equal => buckets (equal.symm.trans same))
      ((concern _ entered).2 intent.id linked)

end Store

namespace Engine

variable {engine other : Engine} {parcel : Parcel} {deposit : Deposit} {now : Timestamp}

/-- A delivery does the same on two engines: it returns, reports and counts the same, and makes the
same entries in both tables, each of them about its deposit. -/
structure ReceiveAlike (engine other : Engine) (parcel : Parcel) (deposit : Deposit)
    (now : Timestamp) : Prop where
  result : (other.receive parcel now).result = (engine.receive parcel now).result
  events : (other.receive parcel now).events = (engine.receive parcel now).events
  counters : other.counters = engine.counters →
    (other.receive parcel now).engine.counters = (engine.receive parcel now).engine.counters
  entries : ∃ entries : List Entry, (∀ entry ∈ entries, entry.Concerns engine.store deposit) ∧
    (engine.receive parcel now).engine.store = engine.store.enterAll entries ∧
    (other.receive parcel now).engine.store = other.store.enterAll entries

/-- The intents that await the deposit, its rows and the links are all that counts. -/
theorem receive_alike (settings : other.settings = engine.settings) (keyed : engine.store.Keyed)
    (also : other.store.Keyed) (read : parcel.read = .ok deposit)
    (alike : Alike deposit engine.store other.store) (now : Timestamp) :
    ReceiveAlike engine other parcel deposit now := by
  have ready : Delivery.Ready ⟨engine.settings.matching, deposit, now⟩ .lookUp engine.store
      other.store := ⟨keyed, also, alike, List.forall_mem_nil _⟩
  have abreast := Delivery.run_abreast Delivery.mostSteps (.idle [] ready)
  obtain ⟨entries, here, there, concern⟩ := abreast.entries
  refine ⟨?_, ?_, ?_, entries, concern, ?_, ?_⟩ <;>
    simp only [receive_of_read _ read, deliverDeposit, Delivery.process, settings]
  · rw [abreast.stage]
  · exact abreast.events
  · intro counters
    rw [abreast.stage, counters]
  · exact here
  · exact there

/-- A delivery leaves alone what another looks at that has neither its transaction nor its
bucket. -/
theorem receive_agreeOn (keyed : engine.store.Keyed) (read : parcel.read = .ok deposit)
    (now : Timestamp) {further : Deposit} (hashes : deposit.txHash ≠ further.txHash)
    (buckets : deposit.bucket ≠ further.bucket) :
    AgreeOn (fun intent => intent.bucket = further.bucket) further.txHash engine.store
      (engine.receive parcel now).engine.store := by
  have itself : Alike deposit engine.store engine.store := .refl _ _ _
  obtain ⟨entries, concern, here, -⟩ := (receive_alike rfl keyed keyed read itself now).entries
  rw [here]
  exact Store.agreeOn_enterAll keyed concern hashes buckets

theorem receive_keyed (keyed : engine.store.Keyed) (parcel : Parcel) (now : Timestamp) :
    (engine.receive parcel now).engine.store.Keyed :=
  keyed.changes (act_changes engine (.deliver parcel now))

/-- What a delivery does is the same before and after another of another transaction to another
bucket. -/
theorem receive_alike_after (keyed : engine.store.Keyed) (read : parcel.read = .ok deposit)
    {earlier : Parcel} {before : Deposit} (readEarlier : earlier.read = .ok before)
    (hashes : before.txHash ≠ deposit.txHash) (buckets : before.bucket ≠ deposit.bucket)
    (now past : Timestamp) :
    ReceiveAlike engine (engine.receive earlier past).engine parcel deposit now :=
  receive_alike (receive_settings engine earlier past) keyed (receive_keyed keyed earlier past)
    read
    ((receive_agreeOn keyed readEarlier past hashes buckets).mono
      fun _ waits => Store.awaits_bucket waits) now

/-- Two deliveries can be made in either order: each returns the same, and in the end the tables are
the same. -/
structure Commute (engine : Engine) (one two : Parcel) (now later : Timestamp) : Prop where
  resultOne : ((engine.receive two later).engine.receive one now).result =
    (engine.receive one now).result
  resultTwo : ((engine.receive one now).engine.receive two later).result =
    (engine.receive two later).result
  store : ((engine.receive one now).engine.receive two later).engine.store =
    ((engine.receive two later).engine.receive one now).engine.store

theorem receive_commute (keyed : engine.store.Keyed) {one two : Parcel} {first second : Deposit}
    (readOne : one.read = .ok first) (readTwo : two.read = .ok second)
    (hashes : first.txHash ≠ second.txHash) (buckets : first.bucket ≠ second.bucket)
    (now later : Timestamp) : Commute engine one two now later := by
  have early := receive_alike_after keyed readOne readTwo hashes.symm buckets.symm now later
  have late := receive_alike_after keyed readTwo readOne hashes buckets later now
  refine ⟨early.result, late.result, ?_⟩
  obtain ⟨these, concern, here, after⟩ := early.entries
  obtain ⟨those, concernLate, there, afterLate⟩ := late.entries
  rw [afterLate, here, after, there]
  exact Store.enterAll_comm (fun entry member => (concern entry member).isOf)
    (fun entry member => (concernLate entry member).isOf) hashes engine.store

/-- A delivery does the same on any tables that agree on the intents of its bucket, on the rows of
its transaction and on the links to those intents. On tables that operations have led to, two
deliveries of different transactions to different buckets therefore commute. -/
theorem buckets_do_not_interfere :
    (∀ (engine other : Engine) (parcel : Parcel) (deposit : Deposit) (now : Timestamp),
      other.settings = engine.settings → engine.store.Keyed → other.store.Keyed →
      parcel.read = .ok deposit →
      AgreeOn (fun intent => intent.bucket = deposit.bucket) deposit.txHash engine.store
        other.store →
      ReceiveAlike engine other parcel deposit now) ∧
    ∀ (engine : Engine) (one two : Parcel) (first second : Deposit) (now later : Timestamp),
      engine.store.Reached → one.read = .ok first → two.read = .ok second →
      first.txHash ≠ second.txHash → first.bucket ≠ second.bucket →
      Commute engine one two now later := by
  refine ⟨?_, ?_⟩
  · intro engine other parcel deposit now settings keyed also read agree
    exact receive_alike settings keyed also read
      (agree.mono fun _ waits => Store.awaits_bucket waits) now
  · intro engine one two first second now later reached readOne readTwo hashes buckets
    exact receive_commute reached.keyed readOne readTwo hashes buckets now later

def Vaults.crowded : Engine :=
  { awaiting with
    store.intents := awaiting.store.intents ++
      [⟨"j", "acme", ⟨"w", 1, "r"⟩, .one, .utc 0, .utc 60000000, [], .pending⟩] }

def Vaults.receiver : String :=
  "0x0000000000000000000000000000000000000000000000000000000000000001"

def Vaults.declaration (id vault : String) : Json :=
  .object [("id", .string id), ("partnerId", .string "acme"), ("vaultId", .string vault),
    ("chainId", .int 1), ("receiver", .string receiver), ("amount", .int 1)]

def Vaults.into (txHash vault : String) : Deposit :=
  { fitting with txHash, bucket := ⟨vault, 1, receiver⟩ }

/-- An engine that holds an intent for each of two vaults. -/
def Vaults.holding : Engine :=
  (start .usual).run
    [.declare (declaration "i" "v") (.utc 0), .declare (declaration "j" "w") (.utc 0)]

def Vaults.matched (outcome : Outcome (Option Attribution)) : Option String :=
  outcome.result.toOption.join.bind (·.intent)

/-- The intent of another vault makes no difference, and of two deliveries each is matched with the
intent for its own vault, in either order. -/
theorem buckets_do_not_interfere_two_vaults :
    ReceiveAlike awaiting Vaults.crowded (.parsed fitting) fitting (.utc 0) ∧
    Commute Vaults.holding (.parsed (Vaults.into "t" "v"))
      (.parsed (Vaults.into "s" "w")) (.utc 0) (.utc 1) ∧
    Vaults.matched (Vaults.holding.receive (.parsed (Vaults.into "t" "v")) (.utc 0)) =
      some "i" ∧
    Vaults.matched (Vaults.holding.receive (.parsed (Vaults.into "s" "w")) (.utc 1)) =
      some "j" := by
  obtain ⟨alike, commute⟩ := buckets_do_not_interfere
  refine ⟨?_, ?_, by decide +kernel, by decide +kernel⟩
  · apply alike awaiting Vaults.crowded (.parsed fitting) fitting (.utc 0) rfl
      ⟨by decide, by decide, by decide⟩ ⟨by decide, by decide, by decide⟩ rfl
    refine ⟨?_, fun _ _ => Iff.rfl, fun _ _ => Iff.rfl, fun _ _ _ _ _ => Iff.rfl⟩
    intro intent same
    rw [Vaults.crowded, List.mem_append]
    refine ⟨Or.inl, fun member => member.resolve_right fun added => ?_⟩
    cases List.mem_singleton.mp added
    exact absurd same (by decide)
  · have reached : Vaults.holding.store.Reached := run_changes (start .usual) _
    exact commute Vaults.holding _ _ _ _ (.utc 0) (.utc 1) reached rfl rfl (by decide)
      (by decide)

end Engine

end Reconcile
