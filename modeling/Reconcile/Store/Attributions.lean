import Reconcile.Settings.Basic
import Reconcile.Store.Basic

set_option autoImplicit false

/-
The tables of observed deposits and of attributions: one row for each transaction, and at most one
attribution for each intent. Rows are never changed.
-/
namespace Reconcile.Store

/-- Adds the row of a deposit when it is first delivered; `none` if another has added it since. -/
def insertObserved (store : Store) (deposit : Deposit) (now : Timestamp) :
    Except Fault (Option Store) := do
  let amount ← Column.decimal deposit.amount
  let shares ← Column.decimal deposit.shares
  let confirmed ← Column.moment deposit.confirmed
  let observed ← Column.moment now
  let chain ← Column.word deposit.bucket.chain
  if (store.observed? deposit.txHash).isSome then return none
  let row : Observed :=
    ⟨{ deposit with amount, shares, confirmed, bucket.chain := chain }, observed⟩
  return some { store with
    observed := Table.insert (·.deposit.txHash) row store.observed }

/-- Whether a decision may be recorded: there is no record yet, and a linked intent is taken. -/
def permits (store : Store) (txHash : String) (decision : Decision) : Except Fault Unit := do
  decision.check
  if (store.attribution? txHash).isSome then .error (.duplicateAttribution txHash)
  match decision.intent with
  | none => return ()
  | some id =>
    match store.intent? id with
    | some intent =>
      if intent.status = .matched then return () else .error (.claimConflict id)
    | none => .error (.claimConflict id)

def attributionRow (attribution : Attribution) : Except Fault Attribution := do
  let confidence ← Column.decimal attribution.confidence
  let assets ← Column.decimal attribution.assets
  let shares ← Column.decimal? attribution.shares
  let created ← Column.moment attribution.created
  return { attribution with confidence, assets, shares, created }

/-- Whether another attribution links the same intent. -/
def linkTaken (store : Store) (attribution : Attribution) : Bool :=
  match attribution.intent with
  | some id => (store.linking? id).isSome
  | none => false

def commit (store : Store) (txHash : String) (decision : Decision) (now : Timestamp) :
    Except Fault (Attribution × Store) := do
  store.permits txHash decision
  let attribution := Attribution.ofDecision txHash decision now
  let row ← attributionRow attribution
  if store.linkTaken attribution then .error (.duplicateAttribution txHash)
  return (attribution, { store with
    attributions := Table.insert Attribution.txHash row store.attributions })

/-- Records that a deposit is credited to nobody. -/
def markUnattributed (store : Store) (deposit : Deposit) (now : Timestamp) :
    Except Fault (Attribution × Store) :=
  store.commit deposit.txHash (.unattributed deposit) now

/-- The attributions of a partner up to a limit, the latest first. -/
def ofPartner (store : Store) (partner : String) (limit : Option Int) :
    Except Fault (List Attribution) := do
  let limit ← limit.mapM Column.word
  let rows := store.attributions.filter (·.partner = some partner)
  return Table.upTo limit (Table.byTimeDown Attribution.created Attribution.txHash rows)

/-- Whether a deposit was first delivered by an instant and has no attribution. -/
def isStale (store : Store) (cutoff : Timestamp) (row : Observed) : Bool :=
  (store.attribution? row.deposit.txHash).isNone && row.observed.instant ≤ cutoff.instant

/-- The deposits past the grace period that have no attribution, up to the limit. -/
def stale (store : Store) (rule : SweepRule) (now : Timestamp) :
    Except Fault (List Deposit) := do
  let grace ← liftClock rule.grace
  let cutoff ← Column.moment (← liftClock (now.shift? (-grace.micros)))
  let limit ← Column.word rule.batch
  let rows := Table.byTime Observed.observed (·.deposit.txHash)
    (store.observed.filter (store.isStale cutoff))
  return (Table.upTo (some limit) rows).map (·.deposit)

end Reconcile.Store
