import Reconcile.Proofs.Delivery.Course
import Reconcile.Proofs.Engine.Origins
import Reconcile.Proofs.Engine.Redelivery
import Reconcile.Proofs.Engine.Sweeping

set_option autoImplicit false

/-
Deliveries that an intent blocks. The amount of an intent may have been rounded down to zero, or be
far smaller than what is delivered; then the gap between the amounts has no value, and every
delivery that looks at the intent fails. No other delivery fails on a number.
-/
namespace Reconcile

open Decimal (Rounds limit)
open Relation (ReflTransGen)

namespace Store

variable {store : Store} {deposit : Deposit}

theorem Blocks.congr {after : Store} (same : after.intents = store.intents) :
    after.Blocks deposit ↔ store.Blocks deposit := by
  rw [Blocks, Blocks, same]

/-- A new deposit is observed, unless the clock has no form in a column. -/
theorem insertObserved_cases (ready : deposit.Ready) (new : store.observed? deposit.txHash = none)
    (now : Timestamp) :
    ((∃ after, store.insertObserved deposit now = .ok (some after)) ∧
        ∃ kept, Column.moment now = .ok kept) ∨
      store.insertObserved deposit now = .error .unstorable ∧
        Column.moment now = .error .unstorable := by
  have unknown : ¬ (store.observed? deposit.txHash).isSome := by
    rw [new]
    exact Bool.false_ne_true
  have first := bind_of_ok (f := fun amount => do
    let shares ← Column.decimal deposit.shares
    let confirmed ← Column.moment deposit.confirmed
    let observed ← Column.moment now
    let chain ← Column.word deposit.bucket.chain
    if (store.observed? deposit.txHash).isSome then return none
    let row : Observed :=
      ⟨{ deposit with amount, shares, confirmed, bucket.chain := chain }, observed⟩
    return some { store with
      observed := Table.insert (·.deposit.txHash) row store.observed }) ready.canonical.amount
  rcases Column.moment_cases now with ⟨observed, kept⟩ | failed
  · exact Or.inl ⟨⟨_, first.trans ((bind_of_ok ready.canonical.shares).trans
      ((bind_of_ok ready.canonical.confirmed).trans ((bind_of_ok kept).trans
        ((bind_of_ok ready.chain).trans (if_neg unknown)))))⟩, observed, kept⟩
  · exact Or.inr ⟨first.trans ((bind_of_ok ready.canonical.shares).trans
      ((bind_of_ok ready.canonical.confirmed).trans (bind_of_error failed))), failed⟩

/-- The tables with a new deposit observed, be it now or before. -/
structure Entered (store : Store) (deposit : Deposit) (now : Timestamp) (entered : Store) :
    Prop where
  intents : entered.intents = store.intents
  fresh : entered.attribution? deposit.txHash = none
  observed : (store.observed? deposit.txHash).isSome = true ∧ entered = store ∨
    store.observed? deposit.txHash = none ∧
      store.insertObserved deposit now = .ok (some entered)

namespace Entered

variable {entered : Store} {now : Timestamp} (entering : store.Entered deposit now entered)
include entering

theorem changes : ReflTransGen Change store entered := by
  rcases entering.observed with ⟨-, rfl⟩ | ⟨-, done⟩
  · exact .refl
  · exact .single (.observed done)

theorem orderly (orderly : store.Orderly) : entered.Orderly := by
  refine ⟨orderly.keyed.changes entering.changes, orderly.sound.changes entering.changes, ?_⟩
  rw [entering.intents]
  exact orderly.kept

theorem attributions : entered.attributions = store.attributions := by
  rcases entering.observed with ⟨-, rfl⟩ | ⟨-, done⟩
  · rfl
  · obtain ⟨-, row, -, rfl⟩ := insertObserved_eq_ok done
    rfl

end Entered

/-- Whether a deposit was observed before or can be observed now. -/
def Observable (store : Store) (deposit : Deposit) (now : Timestamp) : Prop :=
  (store.observed? deposit.txHash).isSome = true ∨ ∃ kept, Column.moment now = .ok kept

theorem entered_cases (ready : deposit.Ready)
    (fresh : store.attribution? deposit.txHash = none) (now : Timestamp) :
    (store.Observable deposit now ∧ ∃ entered, store.Entered deposit now entered) ∨
      (¬ store.Observable deposit now ∧ store.observed? deposit.txHash = none ∧
        store.insertObserved deposit now = .error .unstorable ∧
        Column.moment now = .error .unstorable) := by
  cases seen : store.observed? deposit.txHash with
  | some row =>
    have known : (store.observed? deposit.txHash).isSome = true := by
      rw [seen]
      rfl
    exact Or.inl ⟨Or.inl known, store, rfl, fresh, Or.inl ⟨known, rfl⟩⟩
  | none =>
    rcases insertObserved_cases ready seen now with ⟨⟨entered, done⟩, kept⟩ | ⟨failed, unkept⟩
    · obtain ⟨-, row, -, placed⟩ := insertObserved_eq_ok done
      refine Or.inl ⟨Or.inr kept, entered, ?_, ?_, Or.inr ⟨seen, done⟩⟩
      · rw [placed]
      · rw [placed]
        exact fresh
    · refine Or.inr ⟨?_, rfl, failed, unkept⟩
      rintro (known | ⟨kept, found⟩)
      · rw [seen] at known
        cases known
      · rw [unkept] at found
        cases found

end Store

namespace Delivery.Task

variable (task : Task) {store after : Store} {ending : Ending}

theorem comes_of_known (fresh : store.attribution? task.deposit.txHash = none)
    (known : (store.observed? task.deposit.txHash).isSome = true)
    (rest : task.Comes task.firstQuery store ending after) :
    task.Comes .lookUp store ending after := by
  refine .of_step .checkObserved store ?_ ?_ (.of_step task.firstQuery store ?_ ?_ rest) <;>
    simp only [step, fresh, if_pos known]

theorem comes_of_unknown (fresh : store.attribution? task.deposit.txHash = none)
    (new : store.observed? task.deposit.txHash = none)
    (rest : task.Comes .insertObserved store ending after) :
    task.Comes .lookUp store ending after := by
  have unknown : ¬ (store.observed? task.deposit.txHash).isSome = true := by
    rw [new]
    exact Bool.false_ne_true
  refine .of_step .checkObserved store ?_ ?_ (.of_step .insertObserved store ?_ ?_ rest) <;>
    simp only [step, fresh, if_neg unknown]

/-- What a delivery of a new transaction comes to depends on what follows the observation. -/
theorem comes_of_firstQuery {entered : Store}
    (fresh : store.attribution? task.deposit.txHash = none)
    (entering : store.Entered task.deposit task.now entered)
    (rest : task.Comes task.firstQuery entered ending after) :
    task.Comes .lookUp store ending after := by
  rcases entering.observed with ⟨known, rfl⟩ | ⟨new, done⟩
  · exact task.comes_of_known fresh known rest
  · apply task.comes_of_unknown fresh new
    refine .of_step task.firstQuery entered ?_ ?_ rest <;> simp only [step, done]

theorem comes_of_unobserved {fault : Fault}
    (fresh : store.attribution? task.deposit.txHash = none)
    (new : store.observed? task.deposit.txHash = none)
    (failed : store.insertObserved task.deposit task.now = .error fault) :
    task.Comes .lookUp store (.failed fault) store := by
  apply task.comes_of_unknown fresh new
  refine .of_step (.done (.failed fault)) store ?_ ?_ (.ended _ store) <;>
    simp only [step, failed, fail, finish]

end Delivery.Task

namespace Engine

variable {engine : Engine} {deposit : Deposit} {now : Timestamp}

theorem deliverDeposit_of_comes {ending : Delivery.Ending} {after : Store}
    (comes : Delivery.Task.Comes ⟨engine.settings.matching, deposit, now⟩ .lookUp engine.store
      ending after) :
    (engine.deliverDeposit deposit now .absent).result = ending.result ∧
      (engine.deliverDeposit deposit now .absent).engine.store = after := by
  obtain ⟨ended, left⟩ := comes.run Delivery.mostSteps (by decide) []
  simp only [deliverDeposit, Delivery.process]
  rw [ended, left]
  exact ⟨rfl, rfl⟩

/-- The delivery looks at intents, and it is too great for one of them. -/
structure Blocked (engine : Engine) (deposit : Deposit) (now : Timestamp) : Prop where
  fresh : engine.store.attribution? deposit.txHash = none
  observable : engine.store.Observable deposit now
  blocks : engine.store.Blocks deposit

/-- A delivery has a result, or it fails since the clock has no form in a column. -/
def Delivers (engine : Engine) (deposit : Deposit) (now : Timestamp) : Prop :=
  (∃ found, (engine.deliverDeposit deposit now .absent).result = .ok found) ∨
    (engine.deliverDeposit deposit now .absent).result = .error .unstorable ∧
      Column.moment now = .error .unstorable

/-- A deposit that is ready fails on a number exactly if it is blocked. -/
theorem deliverDeposit_cases (regular : engine.settings.matching.Regular)
    (orderly : engine.store.Orderly) (ready : deposit.Ready) (now : Timestamp) :
    (engine.Blocked deposit now ∧
      ∃ fault, (engine.deliverDeposit deposit now .absent).result = .error (.decimal fault)) ∨
    (¬ engine.Blocked deposit now ∧ engine.Delivers deposit now) := by
  let task : Delivery.Task := ⟨engine.settings.matching, deposit, now⟩
  have counts : task.policy.Regular := regular
  have asked : task.deposit.Ready := ready
  cases present : engine.store.attribution? deposit.txHash with
  | some row =>
    refine Or.inr ⟨?_, Or.inl ⟨some row, (deliverDeposit_of_stored now present).1⟩⟩
    intro blocked
    rw [blocked.fresh] at present
    cases present
  | none =>
    rcases Store.entered_cases ready present now with
      ⟨observable, entered, entering⟩ | ⟨hidden, new, failed, unkept⟩
    · have same : entered.Blocks deposit ↔ engine.store.Blocks deposit :=
        Store.Blocks.congr entering.intents
      rcases Delivery.Task.firstQuery_cases counts (entering.orderly orderly) asked
        entering.fresh with ⟨blocks, fault, comes⟩ | ⟨free, ending, after, comes, settles⟩
      · refine Or.inl ⟨⟨present, observable, same.mp blocks⟩, fault, ?_⟩
        exact (deliverDeposit_of_comes
          (task.comes_of_firstQuery present entering comes)).1
      · refine Or.inr ⟨fun blocked => free (same.mpr blocked.blocks), ?_⟩
        rw [Delivers, (deliverDeposit_of_comes
          (task.comes_of_firstQuery present entering comes)).1]
        exact settles
    · refine Or.inr ⟨fun blocked => hidden blocked.observable, Or.inr ⟨?_, unkept⟩⟩
      exact (deliverDeposit_of_comes
        (task.comes_of_unobserved present new failed)).1

/-- What a payload describes can be written, unless its chain number is too great. -/
theorem ready_of_read {payload : Json} (read : Payload.Delivery.read payload = .ok deposit)
    (fits : deposit.bucket.chain < Column.wordLimit) : deposit.Ready := by
  have canonical := Payload.Delivery.read_canonical read
  have nonneg := Payload.Delivery.read_chain read
  obtain ⟨⟨sent, held, above, made⟩, -⟩ := Payload.Delivery.read_amounts read
  have rounds := Decimal.rounds_of_normalize held.isFinite made
  refine ⟨canonical, rounds.amount above.le, Column.word_of_fits ?_ fits⟩
  have low : -Column.wordLimit ≤ 0 := by decide
  omega

theorem run_orderly (settings : Settings) (operations : List Operation) :
    ((start settings).run operations).store.Orderly := by
  have reached := run_reached settings operations
  refine ⟨reached.keyed, reached.sound, ?_⟩
  intro intent member
  obtain ⟨payload, -, declared⟩ := run_declared settings operations intent member
  exact declared.kept

/-- Under the usual policy a delivery that is read, with a chain number that fits, fails on a
number exactly if the deposit names no partner and its amount reaches the limit times the amount
of an intent that awaits it. Every intent was declared by one of the operations and has a nearest
number to the amount that was declared then, and that is zero exactly if the declared amount is at
most half of the least number above zero. -/
theorem deliveries_fail_on_outgrown_intents (settings : Settings) (operations : List Operation)
    (usual : ((start settings).run operations).settings.matching = .usual) :
    (∀ (payload : Json) (deposit : Deposit) (now : Timestamp),
      Payload.Delivery.read payload = .ok deposit → deposit.bucket.chain < Column.wordLimit →
      ((∃ fault, (((start settings).run operations).deliver payload now .absent).result =
          .error (.decimal fault)) ↔
        ((start settings).run operations).Blocked deposit now)) ∧
    ∀ intent ∈ ((start settings).run operations).store.intents,
      ∃ payload sent, DeclaredBy settings operations payload intent ∧
        Payload.Holds payload ["amount"] sent ∧ 0 < sent.toRat ∧
        Rounds sent.toRat intent.amount ∧ 0 ≤ intent.amount.toRat ∧
        (intent.amount.toRat = 0 ↔ sent.toRat ≤ 1 / 2 * 10 ^ Decimal.tinyExponent) := by
  refine ⟨?_, ?_⟩
  · intro payload deposit now read fits
    have ready := ready_of_read read fits
    have regular := Policy.regular_of_usual usual
    simp only [deliver, read]
    rcases deliverDeposit_cases regular (run_orderly settings operations) ready now with
      ⟨blocked, failed⟩ | ⟨free, ⟨found, done⟩ | ⟨failed, -⟩⟩
    · exact iff_of_true failed blocked
    · refine iff_of_false ?_ free
      rintro ⟨fault, same⟩
      rw [done] at same
      cases same
    · refine iff_of_false ?_ free
      rintro ⟨fault, same⟩
      rw [failed] at same
      cases same
  · intro intent member
    obtain ⟨payload, declares, declared⟩ := run_declared settings operations intent member
    obtain ⟨sent, held, above, made⟩ := declared.origin
    have rounds := Decimal.rounds_of_normalize held.isFinite made
    refine ⟨payload, sent, declares, held, above, rounds, rounds.nonneg above.le, ?_⟩
    obtain ⟨s, c, e, rfl⟩ := Decimal.eq_finite_of_isFinite held.isFinite
    rw [Decimal.normalize_eq_zero_iff made, ← Decimal.abs_toRat s, abs_of_nonneg above.le]

def Blocking.failsOnNumber {α : Type} : Except Fault α → Bool
  | .error (.decimal _) => true
  | _ => false

theorem Blocking.failsOnNumber_iff {α : Type} {result : Except Fault α} :
    failsOnNumber result = true ↔ ∃ fault, result = .error (.decimal fault) := by
  unfold failsOnNumber
  split
  · rename_i fault
    exact iff_of_true rfl ⟨fault, rfl⟩
  · rename_i other
    refine iff_of_false Bool.false_ne_true ?_
    rintro ⟨fault, rfl⟩
    exact other fault rfl

/-- A declaration of an amount that is above zero and rounded to it. -/
def Blocking.declaration : Json :=
  .object [("id", .string "i"), ("partnerId", .string "acme"), ("vaultId", .string "v"),
    ("chainId", .int 1), ("receiver", .string "0x1"), ("amount", .string "1E-1000030"),
    ("createdAt", .string "1970-01-01T00:00:00Z"), ("expiresAt", .string "1970-01-01T01:00:00Z")]

def Blocking.delivery : Json :=
  .object [("txHash", .string "0xab"), ("vaultId", .string "v"), ("chainId", .int 1),
    ("receiver", .string "0x1"), ("amount", .int 100), ("shares", .int 95),
    ("confirmedAt", .string "1970-01-01T00:00:00Z")]

/-- The delivery is blocked by the intent, whose stored amount is zero. -/
theorem deliveries_fail_on_outgrown_intents_zero :
    (∃ deposit, Payload.Delivery.read Blocking.delivery = .ok deposit ∧
      ((start .usual).run [.declare Blocking.declaration (.utc 0)]).Blocked deposit (.utc 0)) ∧
    ∃ intent ∈ ((start .usual).run [.declare Blocking.declaration (.utc 0)]).store.intents,
      ∃ sent, Payload.Holds Blocking.declaration ["amount"] sent ∧ 0 < sent.toRat ∧
        intent.amount.toRat = 0 ∧ sent.toRat ≤ 1 / 2 * 10 ^ Decimal.tinyExponent := by
  obtain ⟨fails, intents⟩ := deliveries_fail_on_outgrown_intents .usual
    [.declare Blocking.declaration (.utc 0)] (by decide +kernel)
  have reads : (Payload.Delivery.read Blocking.delivery).toOption.map (·.bucket.chain) =
      some 1 := by
    decide +kernel
  have failed : Blocking.failsOnNumber (((start .usual).run [.declare Blocking.declaration
      (.utc 0)]).deliver Blocking.delivery (.utc 0) .absent).result = true := by
    decide +kernel
  have stored : ((start .usual).run [.declare Blocking.declaration (.utc 0)]).store.intents.map
      (·.amount) = [.zero] := by
    decide +kernel
  refine ⟨?_, ?_⟩
  · obtain ⟨deposit, read, chain⟩ := Option.map_eq_some_iff.mp reads
    have taken := toOption_eq_some.mp read
    refine ⟨deposit, taken, ?_⟩
    have fits : deposit.bucket.chain < Column.wordLimit := by
      rw [chain]
      decide
    exact (fails Blocking.delivery deposit (.utc 0) taken fits).mp
      (Blocking.failsOnNumber_iff.mp failed)
  · have some : Decimal.zero ∈ ((start .usual).run
        [.declare Blocking.declaration (.utc 0)]).store.intents.map (·.amount) := by
      rw [stored]
      exact List.mem_singleton_self _
    obtain ⟨intent, member, zero⟩ := List.mem_map.mp some
    obtain ⟨payload, sent, ⟨before, now, after, made, single, -⟩, held, above, -, -, rounded⟩ :=
      intents intent member
    obtain rfl : Blocking.declaration = payload := by
      cases before with
      | nil => exact (Operation.declare.inj (List.cons.inj single).1).1
      | cons first others => exact absurd (List.cons.inj single).2.symm (by simp)
    have none : intent.amount.toRat = 0 := by
      rw [zero, Decimal.toRat_zero]
    exact ⟨intent, member, sent, held, above, none, rounded.mp none⟩

/-- An accepted declaration can make a later delivery fail. -/
theorem accepted_declaration_blocks_delivery :
    (∃ intent, ((start .usual).declare Blocking.declaration (.utc 0) false).result = .ok intent) ∧
      ∃ fault, (((start .usual).declare Blocking.declaration (.utc 0) false).engine.deliver
        Blocking.delivery (.utc 0) .absent).result = .error (.decimal fault) := by
  have taken : ((start .usual).declare Blocking.declaration (.utc 0)
      false).result.toOption.isSome := by
    decide +kernel
  have failed : Blocking.failsOnNumber (((start .usual).declare Blocking.declaration (.utc 0)
      false).engine.deliver Blocking.delivery (.utc 0) .absent).result = true := by
    decide +kernel
  obtain ⟨intent, told⟩ := Option.isSome_iff_exists.mp taken
  exact ⟨⟨intent, toOption_eq_some.mp told⟩, Blocking.failsOnNumber_iff.mp failed⟩

end Engine

end Reconcile
