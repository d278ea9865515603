import Reconcile.Proofs.Delivery.Evidence
import Reconcile.Proofs.Engine.Operations
import Reconcile.Proofs.Payload.Delivery
import Reconcile.Proofs.Text.Lowercase

set_option autoImplicit false

/-
Deliveries that come again. Once a delivery has returned an attribution, every later one of the
transaction returns the same and leaves the engine as it is. The first answer may be given before
its columns are written and the later ones are read from them, so what is the same are the values.
-/
namespace Reconcile

def Decimal.Equals (a b : Decimal) : Prop := a = b ∨ a.same? b = .ok true

/-- Equal in every field, decimals and points in time by their values. -/
structure Attribution.Agrees (stored told : Attribution) : Prop where
  txHash : stored.txHash = told.txHash
  intent : stored.intent = told.intent
  partner : stored.partner = told.partner
  source : stored.source = told.source
  confidence : stored.confidence.Equals told.confidence
  assets : stored.assets.Equals told.assets
  shares : Option.Rel Decimal.Equals stored.shares told.shares
  created : told.created.same stored.created = true

theorem Attribution.Agrees.refl (row : Attribution) : row.Agrees row := by
  have shares : Option.Rel Decimal.Equals row.shares row.shares := by
    cases row.shares with
    | none => exact .none
    | some value => exact .some (Or.inl rfl)
  refine ⟨rfl, rfl, rfl, rfl, Or.inl rfl, Or.inl rfl, shares, ?_⟩
  simp [Timestamp.same, Timestamp.sameKind]

/-- What is recorded is never confident of something that is no number. -/
theorem Decision.number_of_check {decision : Decision} (passes : decision.check = .ok ()) :
    decision.confidence.isNan = false := by
  obtain ⟨notBelow, compared, -⟩ := bind_eq_ok.mp passes
  have compared := liftDecimal_eq_ok.mp compared
  cases shape : decision.confidence with
  | nan s signaling payload =>
    rw [shape] at compared
    cases compared
  | _ => rfl

namespace Store

theorem permits_check {store : Store} {txHash : String} {decision : Decision}
    (permitted : store.permits txHash decision = .ok ()) : decision.check = .ok () := by
  obtain ⟨⟨⟩, passes, -⟩ := bind_eq_ok.mp permitted
  exact passes

/-- The columns keep the confidence of what the tables speak for. -/
theorem Backs.confidence_kept {policy : Policy} {store : Store} {deposit : Deposit}
    {decision : Decision} (backs : store.Backs policy deposit decision)
    (passes : decision.check = .ok ()) {kept : Decimal}
    (done : Column.decimal decision.confidence = .ok kept) : kept.Equals decision.confidence := by
  have number := Decision.number_of_check passes
  cases backs with
  | named | exact => exact Or.inl (Except.ok.inj done).symm
  | nobody => exact Or.inl (Except.ok.inj done).symm
  | @chosen selection nameless expects justified =>
    obtain ⟨finite, finiteKept, same⟩ :=
      justified.confidence_kept number (Column.decimal_eq_ok.mp done)
    have equal : kept.same? selection.confidence = .ok true := by
      rw [Decimal.same?_eq finiteKept finite, decide_eq_true same]
    exact Or.inr equal

/-- The row of a decision says what the delivery has told. -/
theorem Backs.agrees {policy : Policy} {store : Store} {deposit : Deposit} {decision : Decision}
    {now : Timestamp} {row : Attribution} (canonical : deposit.Canonical)
    (backs : store.Backs policy deposit decision) (passes : decision.check = .ok ())
    (made : attributionRow (.ofDecision deposit.txHash decision now) = .ok row) :
    row.Agrees (.ofDecision deposit.txHash decision now) := by
  obtain ⟨txHash, intent, partner, source, confidence⟩ := attributionRow_eq_ok made
  obtain ⟨-, assets, shares, created, -⟩ := attributionRow_passes made
  simp only [Attribution.ofDecision] at assets shares
  rw [backs.amounts.1, canonical.amount] at assets
  rw [backs.amounts.2, canonical.someShares] at shares
  refine ⟨txHash, intent, partner, source, backs.confidence_kept passes confidence, ?_, ?_,
    Column.moment_same created⟩
  · exact Or.inl ((Except.ok.inj assets).symm.trans backs.amounts.1.symm)
  · simp only [Attribution.ofDecision, backs.amounts.2, ← Except.ok.inj shares]
    exact .some (Or.inl rfl)

end Store

namespace Delivery

/-- What a delivery has ended with is stored, or the columns have made of it what is stored. -/
def Ending.Stored (task : Task) (store : Store) (ending : Ending) : Prop :=
  ∀ attribution, ending.result = .ok (some attribution) →
    ∃ row, store.attribution? task.deposit.txHash = some row ∧ (row = attribution ∨
      ∃ decision, store.Backs task.policy task.deposit decision ∧ decision.check = .ok () ∧
        attribution = .ofDecision task.deposit.txHash decision task.now ∧
        Store.attributionRow attribution = .ok row)

/-- A delivery knows what it goes by and, when it has ended, tells what is stored. -/
structure Stage.Answers (task : Task) (stage : Stage) (store : Store) : Prop where
  knows : task.Knows store stage
  told : ∀ ending, stage = .done ending → ending.Stored task store

theorem Stage.Answers.ofLeads {task : Task} {store after : Store} {stage next : Stage}
    (leads : task.Leads false store stage next after) (answers : stage.Answers task store)
    (ending : Ending) (ended : next = .done ending) : ending.Stored task after := by
  have changes := leads.changes
  cases leads with
  | found present =>
    cases ended
    rintro attribution ⟨⟩
    exact ⟨_, present, Or.inl rfl⟩
  | @recorded _ decision _ _ _ decides claims done =>
    cases ended
    rintro attribution ⟨⟩
    obtain ⟨permitted, rfl, -⟩ := Store.commit_eq_ok done
    obtain ⟨row, made, placed⟩ := Store.attribution?_of_commit done task.deposit.txHash
    rw [if_pos rfl] at placed
    exact ⟨row, placed, Or.inr ⟨decision, (answers.knows.backs decides).changes changes,
      Store.permits_check permitted, rfl, made⟩⟩
  | reread =>
    cases ended
    intro attribution told
    exact ⟨attribution, Except.ok.inj told, Or.inl rfl⟩
  | ended last =>
    cases ended
    exact answers.told _ rfl
  | noneFits | givenUp | conflicted | failed =>
    cases ended
    rintro attribution ⟨⟩
  | known present looks | observedTwice present looks | observed done looks =>
    subst ended
    cases looks
  | _ => cases ended

theorem Stage.Answers.step {task : Task} {stage : Stage} {store : Store}
    (answers : stage.Answers task store) :
    (task.step false stage store).stage.Answers task (task.step false stage store).store :=
  ⟨answers.knows.step false, Answers.ofLeads (task.step_leads false stage store) answers⟩

end Delivery

namespace Engine

variable {engine : Engine} {deposit : Deposit} {now : Timestamp} {attribution : Attribution}

/-- A delivery that returns an attribution leaves a row that says the same. -/
theorem deliverDeposit_stored (canonical : deposit.Canonical)
    (answered : (engine.deliverDeposit deposit now .absent).result = .ok (some attribution)) :
    ∃ row, (engine.deliverDeposit deposit now .absent).engine.store.attribution? deposit.txHash =
      some row ∧ row.Agrees attribution ∧ attribution.txHash = deposit.txHash := by
  let task : Delivery.Task := ⟨engine.settings.matching, deposit, now⟩
  have start : Delivery.Stage.lookUp.Answers task engine.store :=
    ⟨.lookUp, fun _ never => by cases never⟩
  have enough : Delivery.Stage.lookUp.left ≤ Delivery.mostSteps := by decide
  obtain ⟨ending, ended⟩ := Delivery.run_done task Delivery.mostSteps .absent
    ⟨.lookUp, engine.store, []⟩ enough
  have answers := Delivery.run_invariant task (fun _ _ => Delivery.Stage.Answers.step)
    Delivery.mostSteps ⟨.lookUp, engine.store, []⟩ start
  have told : ending.result = .ok (some attribution) := by
    rw [← answered]
    simp only [deliverDeposit, Delivery.process, task] at ended ⊢
    rw [ended]
    rfl
  obtain ⟨row, found, agrees⟩ := answers.told ending ended attribution told
  refine ⟨row, found, ?_⟩
  rcases agrees with rfl | ⟨decision, backs, passes, rfl, made⟩
  · exact ⟨.refl row, (Table.mem_of_find? _ found).2⟩
  · exact ⟨backs.agrees canonical passes made, rfl⟩

theorem deliverDeposit_of_stored (now : Timestamp) {row : Attribution}
    (found : engine.store.attribution? deposit.txHash = some row) :
    (engine.deliverDeposit deposit now .absent).result = .ok (some row) ∧
      (engine.deliverDeposit deposit now .absent).engine = engine := by
  have ended : Delivery.process ⟨engine.settings.matching, deposit, now⟩ .absent engine.store =
      ⟨.done (.redelivered row), engine.store, [.redelivered deposit.txHash row.source]⟩ := by
    simp [Delivery.process, Delivery.mostSteps, Delivery.run, Delivery.Rival.act,
      Delivery.Task.step, Delivery.Task.finish, found]
  simp only [deliverDeposit, ended, Delivery.Stage.ending]
  exact ⟨rfl, True.intro⟩

/-- Once a delivery has returned an attribution for a transaction, then whatever comes in between,
every later delivery of that transaction, with its hash in capital or small letters, returns an
attribution that is the same in every field, and changes neither tables nor counters. -/
theorem redelivery_repeats_answer (engine : Engine) (payload : Json) (now : Timestamp)
    (attribution : Attribution)
    (answered : (engine.deliver payload now .absent).result = .ok (some attribution))
    (operations : List Operation) (fields : Json.Fields) (name written : String)
    (deposit : Deposit) (later : Timestamp)
    (given : Payload.given? fields ["tx_hash", "txHash"] = some (name, .string written))
    (same : written.toLower = attribution.txHash.toLower)
    (valid : Payload.Delivery.read (.object fields) = .ok deposit) :
    ∃ stored,
      (((engine.deliver payload now .absent).engine.run operations).deliver (.object fields) later
        .absent).result = .ok (some stored) ∧
      stored.Agrees attribution ∧
      (((engine.deliver payload now .absent).engine.run operations).deliver (.object fields) later
        .absent).engine = (engine.deliver payload now .absent).engine.run operations := by
  cases first : Payload.Delivery.read payload with
  | error fault =>
    simp only [deliver, first] at answered
    cases answered
  | ok early =>
    simp only [deliver, first, valid] at answered ⊢
    have canonical := Payload.Delivery.read_canonical first
    obtain ⟨row, found, agrees, named⟩ := deliverDeposit_stored canonical answered
    -- Both payloads name the transaction by what is the same text in small letters.
    obtain ⟨others, _, rfl, -⟩ := Payload.Delivery.read_eq_ok first
    obtain ⟨_, value, -, hashed⟩ := Payload.Delivery.read_txHash first
    obtain ⟨earlier, -, small⟩ := Payload.Delivery.hash_eq_ok hashed
    obtain ⟨_, value, present, hashed⟩ := Payload.Delivery.read_txHash valid
    obtain ⟨again, rfl, smallAgain⟩ := Payload.Delivery.hash_eq_ok hashed
    rw [given] at present
    cases present
    have one : deposit.txHash = early.txHash := by
      rw [smallAgain, small]
      rw [named, small] at same
      exact Text.lowercase_trim_of_toLower same
    have still := Store.changes_keep_attribution (run_changes _ operations) found
    rw [← one] at still
    obtain ⟨returned, kept⟩ := deliverDeposit_of_stored later still
    exact ⟨row, returned, agrees, kept⟩

def Redelivered.fields (txHash : String) : Json.Fields :=
  [("txHash", .string txHash), ("vaultId", .string "v"), ("chainId", .int 1),
    ("receiver", .string "0x1"), ("assets", .int 1),
    ("confirmedAt", .string "1970-01-01T00:00:00Z"), ("explicitPartnerTag", .string "acme")]

/-- The hash comes in capitals the second time, and a sweep was in between. -/
theorem redelivery_repeats_answer_capitals :
    ∃ attribution stored,
      ((start .usual).deliver (.object (Redelivered.fields "0xab")) (.utc 0) .absent).result =
        .ok (some attribution) ∧
      ((((start .usual).deliver (.object (Redelivered.fields "0xab")) (.utc 0)
        .absent).engine.run [.sweep (.utc 1)]).deliver (.object (Redelivered.fields "0xAB"))
        (.utc 2) .absent).result = .ok (some stored) ∧
      stored.Agrees attribution := by
  have answers : (((start .usual).deliver (.object (Redelivered.fields "0xab")) (.utc 0)
      .absent).result.toOption.bind id).map (·.txHash) = some "0xab" := by
    decide +kernel
  have reads : (Payload.Delivery.read (.object (Redelivered.fields "0xAB"))).toOption.isSome := by
    decide +kernel
  obtain ⟨attribution, found, named⟩ := Option.map_eq_some_iff.mp answers
  obtain ⟨_, told, rfl⟩ := Option.bind_eq_some_iff.mp found
  obtain ⟨deposit, read⟩ := Option.isSome_iff_exists.mp reads
  have answered := toOption_eq_some.mp told
  have same : "0xAB".toLower = attribution.txHash.toLower := by
    rw [named, ← String.toList_inj, Text.toList_toLower, Text.toList_toLower]
    decide
  obtain ⟨stored, returned, agrees, -⟩ := redelivery_repeats_answer (start .usual) _ _ _ answered
    [.sweep (.utc 1)] (Redelivered.fields "0xAB") "txHash" "0xAB" deposit (.utc 2) rfl same
    (toOption_eq_some.mp read)
  exact ⟨attribution, stored, answered, returned, agrees⟩

end Engine

end Reconcile
