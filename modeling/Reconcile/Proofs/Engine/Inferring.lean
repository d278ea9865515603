import Reconcile.Proofs.Engine.Blocking

set_option autoImplicit false

/-
What a delivery without a partner comes to, if nobody disturbs it: the choice among the intents that
await it, the oldest first. Of intents and attributions only what was chosen changes. The choice
itself can fail, but not under a regular policy with amounts that are far from the limits of
arithmetic.
-/
namespace Reconcile

open Decimal (limit)

namespace Decimal

/-- A number that is far from the ends of the range of arithmetic. -/
structure Moderate (a : Decimal) : Prop where
  low : (10 : ℚ) ^ (-1000 : ℤ) ≤ a.toRat
  high : a.toRat ≤ 10 ^ (1000 : ℤ)

theorem isFinite_of_toRat_ne_zero {a : Decimal} (some : a.toRat ≠ 0) : a.isFinite := by
  cases a with
  | finite => rfl
  | infinite => exact absurd rfl some
  | nan => exact absurd rfl some

theorem Moderate.amount {a : Decimal} (moderate : a.Moderate)
    (kept : Column.decimal a = .ok a) : a.Amount := by
  have above : 0 < a.toRat := (ten_pos (-1000)).trans_le moderate.low
  have finite := isFinite_of_toRat_ne_zero above.ne'
  exact (rounds_of_normalize finite (Column.decimal_eq_ok.mp kept)).amount above.le

end Decimal

/-- No moderate amount is too great for another. -/
theorem Intent.not_outgrown {intent : Intent} {deposit : Deposit}
    (declared : intent.amount.Moderate) (actual : deposit.amount.Moderate) :
    ¬ intent.Outgrown deposit := by
  have low : (10 : ℚ) ^ (-1001 : ℤ) ≤ intent.amount.toRat :=
    (Decimal.ten_mono (by decide)).trans declared.low
  have high : deposit.amount.toRat ≤ 10 ^ (1001 : ℤ) :=
    actual.high.trans (Decimal.ten_mono (by decide))
  exact not_le.mpr (Decimal.lt_limit_mul low high)

/-- An intent is pending, for the bucket of the deposit, and outlives its confirmation. -/
structure Deposit.AwaitedBy (deposit : Deposit) (intent : Intent) : Prop where
  pending : intent.status = .pending
  bucket : intent.bucket = deposit.bucket
  live : deposit.confirmed.instant < intent.expires.instant

namespace Store

/-- Tables that operations lead to are in order, if the amounts of the intents are moderate. -/
theorem Reached.orderly {store : Store} (reached : store.Reached)
    (moderate : ∀ intent ∈ store.intents, intent.amount.Moderate) : store.Orderly := by
  have columns : ∀ intent ∈ store.intents, Column.decimal intent.amount = .ok intent.amount ∧
      Column.moment intent.created = .ok intent.created ∧
      Column.moment intent.expires = .ok intent.expires := by
    refine reached.forall_intents ?_ fun kept _ => kept
    intro intent row made
    have passes := intentRow_passes made
    exact ⟨Column.decimal_idem passes.amount, Column.moment_idem passes.created,
      Column.moment_idem passes.expires⟩
  refine ⟨reached.keyed, reached.sound, fun intent member => ?_⟩
  obtain ⟨amount, created, expires⟩ := columns intent member
  exact ⟨(moderate intent member).amount amount, created, expires⟩

theorem awaits_iff {deposit : Deposit} {intent : Intent} :
    awaits deposit.bucket deposit.confirmed intent = true ↔
      deposit.AwaitedBy intent := by
  simp only [awaits, Bool.and_eq_true, decide_eq_true_eq, Intent.isPending_iff]
  constructor
  · rintro ⟨⟨bucket, pending⟩, live⟩
    exact ⟨pending, bucket, live⟩
  · rintro ⟨pending, bucket, live⟩
    exact ⟨⟨bucket, pending⟩, live⟩

/-- The intents that await a deposit, the oldest first. -/
def Line (store : Store) (deposit : Deposit) (line : List Intent) : Prop :=
  Table.Queue Intent.created Intent.id deposit.AwaitedBy store.intents line

theorem candidates_line {store : Store} {deposit : Deposit} (keyed : store.Keyed)
    (ready : deposit.Ready) :
    ∃ line, store.Line deposit line ∧
      store.candidates deposit.bucket deposit.confirmed = .ok line := by
  refine ⟨_, ?_, store.candidates_eq ready⟩
  exact (Table.byTime_queue keyed.intents).congr fun intent => awaits_iff

theorem move_of_pending {store : Store} {id : String} {status : Status}
    (pending : store.isPending id = true) :
    (store.move id status).2 = { store with
      intents := Table.update Intent.id id (fun intent => { intent with status })
        store.intents } := by
  rw [move, if_pos pending]

end Store

namespace Delivery.Task

variable {task : Task} {store : Store} {line : List Intent}

theorem comes_of_chosen {selection : Matching.Selection} (capped : task.policy.Capped)
    (orderly : store.Orderly) (ready : task.deposit.Ready)
    (fresh : store.attribution? task.deposit.txHash = none)
    (nameless : task.deposit.partner? = none) {kept : Timestamp}
    (timed : Column.moment task.now = .ok kept)
    (queried : store.candidates task.deposit.bucket task.deposit.confirmed = .ok line)
    (chosen : Matching.choose task.policy task.deposit line = .ok (some selection)) :
    ∃ row, Store.attributionRow (.ofDecision task.deposit.txHash
        (.inferred task.deposit selection.winner.intent selection.confidence) task.now) = .ok row ∧
      task.Comes (.query 1 []) store
        (.attributed (.ofDecision task.deposit.txHash
          (.inferred task.deposit selection.winner.intent selection.confidence) task.now))
        { store with
          intents := Table.update Intent.id selection.winner.intent.id
            (fun intent => { intent with status := .matched }) store.intents
          attributions := Table.insert Attribution.txHash row store.attributions } := by
  obtain ⟨inside, justified⟩ := Matching.choose_eq_ok chosen
  obtain ⟨found, again, members⟩ := store.candidates_eq_ok ready
  obtain rfl := Except.ok.inj (queried.symm.trans again)
  obtain ⟨listed, waits⟩ := (members _).mp inside
  have pending := Store.isPending_of_awaits orderly.keyed listed waits
  have backs : store.Backs task.policy task.deposit
      (.inferred task.deposit selection.winner.intent selection.confidence) :=
    .chosen nameless (Store.mem_candidates queried inside) justified
  obtain ⟨row, made, ended, left⟩ := record_of_backs
    ([.moved selection.winner.intent.id .matched] ++
      [.candidateClaimed task.deposit.txHash selection])
    capped orderly.sound ready fresh backs ⟨pending, rfl⟩ timed
  have claims : task.step false (.claim 1 [] selection) store = task.record store
      (store.move selection.winner.intent.id .matched).2
      ([.moved selection.winner.intent.id .matched] ++
        [.candidateClaimed task.deposit.txHash selection])
      (.inferred task.deposit selection.winner.intent selection.confidence) := by
    simp only [step, claim, take_of_pending pending]
  refine ⟨row, made, .of_step (.claim 1 [] selection) store ?_ ?_
    (.of_step _ _ (claims ▸ ended) ?_ (.ended _ _))⟩
  · rw [step_of_chosen queried chosen]
  · rw [step_of_chosen queried chosen]
  · rw [claims, left, Store.move_of_pending pending]

end Delivery.Task

namespace Engine

section

variable {engine : Engine} {deposit : Deposit} {now : Timestamp} {line : List Intent}

/-- A delivery left intents and attributions as they were. -/
structure Untouched (engine : Engine) (outcome : Outcome (Option Attribution)) : Prop where
  intents : outcome.engine.store.intents = engine.store.intents
  attributions : outcome.engine.store.attributions = engine.store.attributions

/-- A delivery has recorded this attribution, and matched the intent that it links. -/
structure Attributes (engine : Engine) (outcome : Outcome (Option Attribution))
    (attribution : Attribution) (id : String) : Prop where
  result : outcome.result = .ok (some attribution)
  intents : outcome.engine.store.intents = Table.update Intent.id id
    (fun intent => { intent with status := .matched }) engine.store.intents
  attributions : ∃ row, Store.attributionRow attribution = .ok row ∧
    outcome.engine.store.attributions =
      Table.insert Attribution.txHash row engine.store.attributions

/-- A delivery comes to the choice among these intents. -/
structure Infers (engine : Engine) (deposit : Deposit) (now : Timestamp) (line : List Intent)
    (outcome : Outcome (Option Attribution)) : Prop where
  failed : ∀ fault, Matching.choose engine.settings.matching deposit line = .error fault →
    outcome.result = .error fault ∧ engine.Untouched outcome
  unchosen : Matching.choose engine.settings.matching deposit line = .ok none →
    outcome.result = .ok none ∧ engine.Untouched outcome
  chosen : ∀ selection,
    Matching.choose engine.settings.matching deposit line = .ok (some selection) →
    engine.Attributes outcome (.ofDecision deposit.txHash
      (.inferred deposit selection.winner.intent selection.confidence) now)
      selection.winner.intent.id

theorem deliverDeposit_infers (capped : engine.settings.matching.Capped)
    (orderly : engine.store.Orderly) (ready : deposit.Ready) (nameless : deposit.partner? = none)
    (fresh : engine.store.attribution? deposit.txHash = none) {kept : Timestamp}
    (timed : Column.moment now = .ok kept) (lined : engine.store.Line deposit line) :
    engine.Infers deposit now line (engine.deliverDeposit deposit now .absent) := by
  let task : Delivery.Task := ⟨engine.settings.matching, deposit, now⟩
  rcases Store.entered_cases ready fresh now with
    ⟨-, entered, entering⟩ | ⟨-, -, -, unkept⟩
  swap
  · rw [unkept] at timed
    cases timed
  obtain ⟨same, listed, queried⟩ := Store.candidates_line (entering.orderly orderly).keyed ready
  rw [Store.Line, entering.intents] at listed
  obtain rfl := lined.unique listed
  have first : task.firstQuery = .query 1 [] := by
    simp only [Delivery.Task.firstQuery, task, nameless]
  have told : ∀ {ending after}, task.Comes (.query 1 []) entered ending after →
      (engine.deliverDeposit deposit now .absent).result = ending.result ∧
        (engine.deliverDeposit deposit now .absent).engine.store = after := fun comes =>
    deliverDeposit_of_comes (task.comes_of_firstQuery fresh entering (first ▸ comes))
  generalize engine.deliverDeposit deposit now .absent = outcome at told ⊢
  have untouched : ∀ {ending}, task.Comes (.query 1 []) entered ending entered →
      outcome.result = ending.result ∧ engine.Untouched outcome := by
    intro ending comes
    obtain ⟨result, left⟩ := told comes
    refine ⟨result, ?_, ?_⟩ <;> rw [left]
    · exact entering.intents
    · exact entering.attributions
  refine ⟨?_, ?_, ?_⟩
  · intro fault failed
    exact untouched (Delivery.Task.comes_of_failed queried failed)
  · intro nothing
    exact untouched (Delivery.Task.comes_of_none queried nothing)
  · intro selection chosen
    obtain ⟨row, made, comes⟩ := @Delivery.Task.comes_of_chosen task entered line selection capped
      (entering.orderly orderly) ready
      entering.fresh nameless kept timed queried chosen
    obtain ⟨result, left⟩ := told comes
    refine ⟨result, ?_, row, made, ?_⟩ <;> rw [left]
    · exact congrArg _ entering.intents
    · exact congrArg _ entering.attributions

/-- On tables that calls have led to, at one time or one after the other, a delivery that is alone
comes to the choice among the intents that await its deposit. It then matches none exactly if no
amount is within tolerance. Under a regular policy there always is a choice. -/
theorem delivery_infers_choice (engine : Engine) (schedule : List Move)
    (reached : engine.store = ((Traffic.on .empty).run schedule).store)
    (accepted : engine.settings.matching.check = .ok ())
    (declared : ∀ intent ∈ engine.store.intents, intent.amount.Moderate) {payload : Json}
    (read : Payload.Delivery.read payload = .ok deposit) (delivered : deposit.amount.Moderate)
    (fits : deposit.bucket.chain < Column.wordLimit) (nameless : deposit.partner? = none)
    (fresh : engine.store.attribution? deposit.txHash = none) {kept : Timestamp}
    (timed : Column.moment now = .ok kept) :
    ∃ line, engine.store.Line deposit line ∧
      engine.Infers deposit now line (engine.deliver payload now .absent) ∧
      (∀ choice, Matching.choose engine.settings.matching deposit line = .ok choice →
        ((engine.deliver payload now .absent).result = .ok none ↔ ∀ intent ∈ line,
          Matching.withinTolerance engine.settings.matching intent.amount deposit.amount =
            .ok false)) ∧
      (engine.settings.matching.Regular → ∃ choice,
        Matching.choose engine.settings.matching deposit line = .ok choice) := by
  have tables : engine.store.Reached := reached ▸ Traffic.run_changes (Traffic.on .empty) schedule
  have orderly := tables.orderly declared
  have ready := ready_of_read read fits
  have capped := Policy.capped_of_check accepted
  have alone : engine.deliver payload now .absent = engine.deliverDeposit deposit now .absent := by
    simp only [deliver, read]
  obtain ⟨line, lined, -⟩ := Store.candidates_line orderly.keyed ready
  have infers := deliverDeposit_infers capped orderly ready nameless fresh timed lined
  rw [alone]
  refine ⟨line, lined, infers, ?_, ?_⟩
  · intro choice chosen
    rw [← Matching.choose_eq_none_iff capped chosen]
    cases choice with
    | none => exact iff_of_true (infers.unchosen chosen).1 rfl
    | some selection =>
      rw [(infers.chosen selection chosen).result]
      refine iff_of_false (fun same => ?_) (Option.some_ne_none selection)
      cases same
  · intro regular
    have inside : ∀ intent ∈ line, intent ∈ engine.store.intents := fun intent member =>
      ((lined.mem_iff intent).mp member).1
    rcases Matching.choose_cases regular ready.amount ready.canonical.confirmed
      (fun intent member => orderly.kept intent (inside intent member)) with
      ⟨⟨intent, member, outgrown⟩, -⟩ | ⟨-, choice⟩
    · exact absurd outgrown (Intent.not_outgrown (declared intent (inside intent member)) delivered)
    · exact choice

end

namespace Inferring

def delivery : Json :=
  .object [("txHash", .string "0xab"), ("vaultId", .string "v"), ("chainId", .int 1),
    ("receiver", .string "0x1"), ("amount", .int 1), ("shares", .int 1),
    ("confirmedAt", .string "1970-01-01T00:00:00Z")]

def deposit : Deposit := (Payload.Delivery.read delivery).toOption.getD default

def intent (amount : Decimal) : Intent :=
  ⟨"i", "acme", deposit.bucket, amount, .utc 0, .utc 60000000, [], .pending⟩

def engine (policy : Policy) (amount : Decimal) : Engine :=
  { start { Settings.usual with matching := policy } with
    store := ((Traffic.on .empty).run [.declare (intent amount)]).store }

theorem read_delivery : Payload.Delivery.read delivery = .ok deposit :=
  eq_ok_getD (by decide +kernel)

theorem moderate_power {e : ℤ} (low : -1000 ≤ e) (high : e ≤ 1000) :
    (Decimal.finite false 1 e).Moderate := by
  have value : (Decimal.finite false 1 e).toRat = 10 ^ e := by
    rw [Decimal.toRat_false, Nat.cast_one, one_mul]
  exact ⟨value ▸ Decimal.ten_mono low, value ▸ Decimal.ten_mono high⟩

theorem moderate_deposit : deposit.amount.Moderate := by
  have one : deposit.amount = .finite false 1 0 := by decide +kernel
  exact one ▸ moderate_power (by decide) (by decide)

theorem moderate_engine {policy : Policy} {amount : Decimal} {e : ℤ}
    (stored : (engine policy amount).store.intents.map (·.amount) = [.finite false 1 e])
    (low : -1000 ≤ e) (high : e ≤ 1000) :
    ∀ intent ∈ (engine policy amount).store.intents, intent.amount.Moderate := by
  intro intent member
  have same : intent.amount ∈ (engine policy amount).store.intents.map (·.amount) :=
    List.mem_map_of_mem member
  rw [stored, List.mem_singleton] at same
  exact same ▸ moderate_power low high

/-- The usual policy, but for a weight that is infinite. -/
def weighty : Policy := { Policy.usual with amountWeight := .infinite false }

end Inferring

/-- The delivery of one takes the intent of that amount. -/
theorem delivery_infers_choice_taken :
    ∃ line selection, (Inferring.engine .usual .one).store.Line Inferring.deposit line ∧
      Matching.choose .usual Inferring.deposit line = .ok (some selection) ∧
      (Inferring.engine .usual .one).Attributes
        ((Inferring.engine .usual .one).deliver Inferring.delivery (.utc 0) .absent)
        (.ofDecision Inferring.deposit.txHash (.inferred Inferring.deposit
          selection.winner.intent selection.confidence) (.utc 0)) selection.winner.intent.id := by
  have declared := @Inferring.moderate_engine .usual .one 0 (by decide +kernel) (by decide)
    (by decide)
  obtain ⟨line, lined, infers, -, settled⟩ := delivery_infers_choice
    (Inferring.engine .usual .one) [.declare (Inferring.intent .one)] rfl rfl declared
    Inferring.read_delivery Inferring.moderate_deposit (by decide +kernel) (by decide +kernel)
    (by decide +kernel) (@Column.moment_utc 0 (by decide))
  obtain ⟨choice, chosen⟩ := settled Policy.usual_regular
  have answered : ((Inferring.engine .usual .one).deliver Inferring.delivery (.utc 0)
      .absent).result.toOption.join.isSome := by
    decide +kernel
  cases choice with
  | none =>
    rw [(infers.unchosen chosen).1] at answered
    cases answered
  | some selection => exact ⟨line, selection, lined, chosen, infers.chosen selection chosen⟩

/-- With a weight that is infinite the choice fails, although no amount is within tolerance. -/
theorem delivery_fails_on_infinite_weight :
    ¬ ∀ (engine : Engine) (schedule : List Move) (payload : Json) (deposit : Deposit)
      (now kept : Timestamp) (line : List Intent),
      engine.store = ((Traffic.on .empty).run schedule).store →
      engine.settings.matching.check = .ok () →
      (∀ intent ∈ engine.store.intents, intent.amount.Moderate) →
      Payload.Delivery.read payload = .ok deposit → deposit.amount.Moderate →
      deposit.bucket.chain < Column.wordLimit → deposit.partner? = none →
      engine.store.attribution? deposit.txHash = none → Column.moment now = .ok kept →
      engine.store.Line deposit line →
      ((engine.deliver payload now .absent).result = .ok none ↔ ∀ intent ∈ line,
        Matching.withinTolerance engine.settings.matching intent.amount deposit.amount =
          .ok false) := by
  intro claim
  have declared := @Inferring.moderate_engine Inferring.weighty (.finite false 1 1) 1
    (by decide +kernel) (by decide) (by decide)
  have keyed := Store.empty_keyed.changes (Traffic.run_changes (Traffic.on .empty)
    [.declare (Inferring.intent (.finite false 1 1))])
  obtain ⟨line, lined, -⟩ := Store.candidates_line keyed
    (ready_of_read Inferring.read_delivery (by decide +kernel))
  have none_iff := claim (Inferring.engine Inferring.weighty (.finite false 1 1))
    [.declare (Inferring.intent (.finite false 1 1))] Inferring.delivery Inferring.deposit (.utc 0)
    (.utc 0) line rfl rfl declared Inferring.read_delivery Inferring.moderate_deposit
    (by decide +kernel) (by decide +kernel) (by decide +kernel) (@Column.moment_utc 0 (by decide))
    lined
  have outside : (Inferring.engine Inferring.weighty (.finite false 1 1)).store.intents.all
      fun intent => (Matching.withinTolerance Inferring.weighty intent.amount
        Inferring.deposit.amount).toOption = some false := by
    decide +kernel
  have failed : Blocking.failsOnNumber ((Inferring.engine Inferring.weighty
      (.finite false 1 1)).deliver Inferring.delivery (.utc 0) .absent).result = true := by
    decide +kernel
  obtain ⟨fault, failed⟩ := Blocking.failsOnNumber_iff.mp failed
  have none := none_iff.mpr fun intent member => toOption_eq_some.mp (of_decide_eq_true
    (List.all_eq_true.mp outside intent ((lined.mem_iff intent).mp member).1))
  rw [failed] at none
  cases none

end Engine

end Reconcile
