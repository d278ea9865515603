import Reconcile.Proofs.Decimal.Canonical
import Reconcile.Proofs.Result
import Reconcile.Store.Attributions
import Reconcile.Store.Intents

set_option autoImplicit false

/-
What the columns of a table make of a row. A decimal comes back in canonical form and a point in
time in UTC, so a row that was written once is written the same way again.
-/
namespace Reconcile

theorem Timestamp.onCalendar_iff {wall : Int} :
    onCalendar wall = true ↔ firstWall ≤ wall ∧ wall ≤ lastWall := by
  simp [onCalendar]

namespace Column

theorem decimal_eq_ok {value kept : Decimal} :
    decimal value = .ok kept ↔ value.normalize = .ok kept := by
  unfold decimal
  split
  · rename_i canonical made
    rw [made, Except.ok.injEq, Except.ok.injEq]
  · rename_i fault failed
    simp [failed]

theorem decimal?_some_eq_ok {value : Decimal} {kept : Option Decimal} :
    decimal? (some value) = .ok kept ↔ ∃ found, kept = some found ∧ decimal value = .ok found := by
  rw [decimal?, map_eq_ok]
  constructor
  · rintro ⟨found, done, rfl⟩
    exact ⟨found, rfl, done⟩
  · rintro ⟨found, rfl, done⟩
    exact ⟨found, done, rfl⟩

theorem moment_eq_ok {t kept : Timestamp} (done : moment t = .ok kept) :
    t.isNaive = false ∧ Timestamp.onCalendar t.instant = true ∧ kept = .utc t.instant := by
  unfold moment Timestamp.toUtc? at done
  split at done
  · cases done
  · rename_i zoned
    split at done
    · rename_i utc made
      split at made
      · rename_i inside
        exact ⟨by simpa using zoned, inside, by rw [← Except.ok.inj done, ← Except.ok.inj made]⟩
      · cases made
    · cases done

@[simp] theorem instant_utc (micros : Int) : (Timestamp.utc micros).instant = micros := by
  simp [Timestamp.utc, Timestamp.instant]

theorem moment_instant {t kept : Timestamp} (done : moment t = .ok kept) :
    kept.instant = t.instant := by
  rw [(moment_eq_ok done).2.2, instant_utc]

theorem moment_same {t kept : Timestamp} (done : moment t = .ok kept) : t.same kept = true := by
  obtain ⟨zoned, -, rfl⟩ := moment_eq_ok done
  simp only [Timestamp.same, Timestamp.sameKind, zoned, instant_utc, BEq.rfl, Bool.and_true]
  rfl

theorem moment_utc {micros : Int} (inside : Timestamp.onCalendar micros = true) :
    moment (.utc micros) = .ok (.utc micros) := by
  have zoned : (Timestamp.utc micros).isNaive = false := rfl
  simp [moment, Timestamp.toUtc?, zoned, inside]

theorem word_eq_ok {n kept : Int} (done : word n = .ok kept) : kept = n := by
  unfold word at done
  split at done
  · exact (Except.ok.inj done).symm
  · cases done

end Column

/-- What an intent becomes when each value goes through its column. The clock says what becomes of
a point in time. -/
def Intent.through (clock : Timestamp → Except Fault Timestamp) (intent : Intent) :
    Except Fault Intent := do
  let amount ← Column.decimal intent.amount
  let created ← clock intent.created
  let expires ← clock intent.expires
  let metadata ← Column.metadata intent.metadata
  let chain ← Column.word intent.bucket.chain
  return { intent with amount, created, expires, metadata, bucket.chain := chain }

def Observed.through (clock : Timestamp → Except Fault Timestamp) (seen : Observed) :
    Except Fault Observed := do
  let amount ← Column.decimal seen.deposit.amount
  let shares ← Column.decimal seen.deposit.shares
  let confirmed ← clock seen.deposit.confirmed
  let observed ← clock seen.observed
  let chain ← Column.word seen.deposit.bucket.chain
  return ⟨{ seen.deposit with amount, shares, confirmed, bucket.chain := chain }, observed⟩

def Attribution.through (clock : Timestamp → Except Fault Timestamp) (given : Attribution) :
    Except Fault Attribution := do
  let confidence ← Column.decimal given.confidence
  let assets ← Column.decimal given.assets
  let shares ← Column.decimal? given.shares
  let created ← clock given.created
  return { given with confidence, assets, shares, created }

section Passing

variable {clock : Timestamp → Except Fault Timestamp}

/-- An intent has become this row. -/
structure Intent.Passes (clock : Timestamp → Except Fault Timestamp) (intent row : Intent) :
    Prop where
  amount : Column.decimal intent.amount = .ok row.amount
  created : clock intent.created = .ok row.created
  expires : clock intent.expires = .ok row.expires
  metadata : Column.metadata intent.metadata = .ok row.metadata
  chain : Column.word intent.bucket.chain = .ok intent.bucket.chain
  rest : row =
    { intent with
      amount := row.amount, created := row.created, expires := row.expires,
      metadata := row.metadata }

theorem Intent.through_eq_ok {intent row : Intent} :
    intent.through clock = .ok row ↔ intent.Passes clock row := by
  constructor
  · intro made
    obtain ⟨amount, keptAmount, made⟩ := bind_eq_ok.mp made
    obtain ⟨created, keptCreated, made⟩ := bind_eq_ok.mp made
    obtain ⟨expires, keptExpires, made⟩ := bind_eq_ok.mp made
    obtain ⟨metadata, keptMetadata, made⟩ := bind_eq_ok.mp made
    obtain ⟨chain, keptChain, made⟩ := bind_eq_ok.mp made
    cases Column.word_eq_ok keptChain
    cases made
    exact ⟨keptAmount, keptCreated, keptExpires, keptMetadata, keptChain, rfl⟩
  · intro passes
    refine bind_eq_ok.mpr ⟨_, passes.amount, ?_⟩
    refine bind_eq_ok.mpr ⟨_, passes.created, ?_⟩
    refine bind_eq_ok.mpr ⟨_, passes.expires, ?_⟩
    refine bind_eq_ok.mpr ⟨_, passes.metadata, ?_⟩
    exact bind_eq_ok.mpr ⟨_, passes.chain, congrArg Except.ok passes.rest.symm⟩

namespace Intent.Passes

variable {intent row : Intent} (passes : intent.Passes clock row)
include passes

theorem id : intent.id = row.id := (congrArg Intent.id passes.rest).symm

theorem bucket : intent.bucket = row.bucket := (congrArg Intent.bucket passes.rest).symm

theorem status : intent.status = row.status := (congrArg Intent.status passes.rest).symm

theorem isPending : intent.isPending = row.isPending := by
  rw [Intent.isPending, passes.status, Intent.isPending]

theorem moved (status : Status) : Passes clock { intent with status } { row with status } := by
  refine ⟨passes.amount, passes.created, passes.expires, passes.metadata, passes.chain, ?_⟩
  exact congrArg (fun row : Intent => { row with status }) passes.rest

end Intent.Passes

structure Observed.Passes (clock : Timestamp → Except Fault Timestamp) (seen row : Observed) :
    Prop where
  amount : Column.decimal seen.deposit.amount = .ok row.deposit.amount
  shares : Column.decimal seen.deposit.shares = .ok row.deposit.shares
  confirmed : clock seen.deposit.confirmed = .ok row.deposit.confirmed
  observed : clock seen.observed = .ok row.observed
  chain : Column.word seen.deposit.bucket.chain = .ok seen.deposit.bucket.chain
  rest : row.deposit =
    { seen.deposit with
      amount := row.deposit.amount, shares := row.deposit.shares,
      confirmed := row.deposit.confirmed }

theorem Observed.through_eq_ok {seen row : Observed} :
    seen.through clock = .ok row ↔ seen.Passes clock row := by
  constructor
  · intro made
    obtain ⟨amount, keptAmount, made⟩ := bind_eq_ok.mp made
    obtain ⟨shares, keptShares, made⟩ := bind_eq_ok.mp made
    obtain ⟨confirmed, keptConfirmed, made⟩ := bind_eq_ok.mp made
    obtain ⟨observed, keptObserved, made⟩ := bind_eq_ok.mp made
    obtain ⟨chain, keptChain, made⟩ := bind_eq_ok.mp made
    cases Column.word_eq_ok keptChain
    cases made
    exact ⟨keptAmount, keptShares, keptConfirmed, keptObserved, keptChain, rfl⟩
  · intro passes
    refine bind_eq_ok.mpr ⟨_, passes.amount, ?_⟩
    refine bind_eq_ok.mpr ⟨_, passes.shares, ?_⟩
    refine bind_eq_ok.mpr ⟨_, passes.confirmed, ?_⟩
    refine bind_eq_ok.mpr ⟨_, passes.observed, ?_⟩
    refine bind_eq_ok.mpr ⟨_, passes.chain, ?_⟩
    exact congrArg (fun deposit => Except.ok (⟨deposit, row.observed⟩ : Observed))
      passes.rest.symm

theorem Observed.Passes.txHash {seen row : Observed} (passes : seen.Passes clock row) :
    seen.deposit.txHash = row.deposit.txHash :=
  (congrArg Deposit.txHash passes.rest).symm

structure Attribution.Passes (clock : Timestamp → Except Fault Timestamp)
    (given row : Attribution) : Prop where
  confidence : Column.decimal given.confidence = .ok row.confidence
  assets : Column.decimal given.assets = .ok row.assets
  shares : Column.decimal? given.shares = .ok row.shares
  created : clock given.created = .ok row.created
  rest : row =
    { given with
      confidence := row.confidence, assets := row.assets, shares := row.shares,
      created := row.created }

theorem Attribution.through_eq_ok {given row : Attribution} :
    given.through clock = .ok row ↔ given.Passes clock row := by
  constructor
  · intro made
    obtain ⟨confidence, keptConfidence, made⟩ := bind_eq_ok.mp made
    obtain ⟨assets, keptAssets, made⟩ := bind_eq_ok.mp made
    obtain ⟨shares, keptShares, made⟩ := bind_eq_ok.mp made
    obtain ⟨created, keptCreated, made⟩ := bind_eq_ok.mp made
    cases made
    exact ⟨keptConfidence, keptAssets, keptShares, keptCreated, rfl⟩
  · intro passes
    refine bind_eq_ok.mpr ⟨_, passes.confidence, ?_⟩
    refine bind_eq_ok.mpr ⟨_, passes.assets, ?_⟩
    refine bind_eq_ok.mpr ⟨_, passes.shares, ?_⟩
    exact bind_eq_ok.mpr ⟨_, passes.created, congrArg Except.ok passes.rest.symm⟩

theorem Attribution.Passes.txHash {given row : Attribution} (passes : given.Passes clock row) :
    given.txHash = row.txHash :=
  (congrArg Attribution.txHash passes.rest).symm

theorem Attribution.Passes.unlinked {given row : Attribution} (passes : given.Passes clock row)
    (id : String) :
    Passes clock (if given.intent = some id then { given with intent := none } else given)
      (if row.intent = some id then { row with intent := none } else row) := by
  have linked : given.intent = row.intent := (congrArg Attribution.intent passes.rest).symm
  rw [linked]
  split
  · exact ⟨passes.confidence, passes.assets, passes.shares, passes.created,
      congrArg (fun row : Attribution => { row with intent := none }) passes.rest⟩
  · exact passes

end Passing

/-- The columns of a table keep what the deposit holds. -/
structure Deposit.Canonical (deposit : Deposit) : Prop where
  amount : Column.decimal deposit.amount = .ok deposit.amount
  shares : Column.decimal deposit.shares = .ok deposit.shares
  confirmed : Column.moment deposit.confirmed = .ok deposit.confirmed

theorem Deposit.Canonical.someShares {deposit : Deposit} (canonical : deposit.Canonical) :
    Column.decimal? (some deposit.shares) = .ok (some deposit.shares) :=
  Column.decimal?_some_eq_ok.mpr ⟨_, rfl, canonical.shares⟩

namespace Store

theorem intentRow_passes {intent row : Intent} (made : intentRow intent = .ok row) :
    intent.Passes Column.moment row := Intent.through_eq_ok.mp made

theorem attributionRow_passes {attribution row : Attribution}
    (made : attributionRow attribution = .ok row) : attribution.Passes Column.moment row :=
  Attribution.through_eq_ok.mp made

/-- The row of an observed deposit is what the columns make of it and of the time of delivery. -/
theorem insertObserved_passes {store after : Store} {deposit : Deposit} {now : Timestamp}
    (done : store.insertObserved deposit now = .ok (some after)) :
    store.observed? deposit.txHash = none ∧ ∃ row,
      Observed.Passes Column.moment ⟨deposit, now⟩ row ∧ after = { store with
        observed := Table.insert (·.deposit.txHash) row store.observed } := by
  obtain ⟨amount, keptAmount, done⟩ := bind_eq_ok.mp done
  obtain ⟨shares, keptShares, done⟩ := bind_eq_ok.mp done
  obtain ⟨confirmed, keptConfirmed, done⟩ := bind_eq_ok.mp done
  obtain ⟨observed, keptObserved, done⟩ := bind_eq_ok.mp done
  obtain ⟨chain, keptChain, done⟩ := bind_eq_ok.mp done
  cases Column.word_eq_ok keptChain
  split at done
  · cases done
  · rename_i absent
    exact ⟨by simpa using absent, ⟨{ deposit with amount, shares, confirmed }, observed⟩,
      ⟨keptAmount, keptShares, keptConfirmed, keptObserved, keptChain, rfl⟩,
      (Option.some.inj (Except.ok.inj done)).symm⟩

theorem insertObserved_canonical {store after : Store} {deposit : Deposit} {now : Timestamp}
    (canonical : deposit.Canonical) (done : store.insertObserved deposit now = .ok (some after)) :
    ∃ row : Observed, row.deposit = deposit ∧
      after = { store with observed := Table.insert (·.deposit.txHash) row store.observed } := by
  obtain ⟨-, row, passes, placed⟩ := insertObserved_passes done
  have amount := Except.ok.inj (passes.amount.symm.trans canonical.amount)
  have shares := Except.ok.inj (passes.shares.symm.trans canonical.shares)
  have confirmed := Except.ok.inj (passes.confirmed.symm.trans canonical.confirmed)
  have same := passes.rest
  rw [amount, shares, confirmed] at same
  exact ⟨row, same, placed⟩

end Store

end Reconcile
