import Reconcile.Proofs.Store.Filed
import Reconcile.Proofs.Store.Metadata

set_option autoImplicit false

/-
The look-ups as a database runs them. A database knows nothing of instants: it compares what the
clocks in its rows show with what the clock shows that a query binds, and what it finds is read
back. As all of these clocks show UTC, it finds what the instants say.
-/
namespace Reconcile

open Relation (ReflTransGen)

/-- The rows by what a clock of theirs shows, whatever zone it is in, and then by the key. -/
def Table.byWall {α : Type} (time : α → Timestamp) (key : α → String) (rows : List α) : List α :=
  byTime (fun row => { time row with offset := none }) key rows

theorem Table.byWall_related {α β : Type} {related : α → β → Prop} {rows : List α}
    {others : List β} {time : α → Timestamp} {key : α → String} {also : β → Timestamp}
    {beside : β → String} (tables : List.Forall₂ related rows others)
    (timed : ∀ {a : α} {b : β}, related a b → (time a).wall = (also b).instant)
    (keyed : ∀ {a : α} {b : β}, related a b → key a = beside b) :
    List.Forall₂ related (byWall time key rows) (byTime also beside others) := by
  refine byTime_related tables ?_ keyed
  intro a b one
  simp [Timestamp.instant, timed one]

/-- The tables in a database, with their clocks as they were bound. -/
structure KeptTables where
  dialect : Dialect
  rows : Store

namespace KeptTables

/-- The constraint on a row of an intent: it expires after it was declared. -/
def lasts (row : Intent) : Bool := row.created.wall < row.expires.wall

def awaits (bucket : Bucket) (bound : Timestamp) (row : Intent) : Bool :=
  row.bucket = bucket && row.isPending && bound.wall < row.expires.wall

def candidates (db : KeptTables) (bucket : Bucket) (asOf : Timestamp) :
    Except Fault (List Intent) := do
  let bound ← Column.bindMoment db.dialect asOf
  let _ ← Column.word bucket.chain
  (Table.byWall Intent.created Intent.id (db.rows.intents.filter (awaits bucket bound))).mapM
    (Intent.through Column.readMoment)

def isDue (bound : Timestamp) (row : Intent) : Bool :=
  row.isPending && row.expires.wall ≤ bound.wall

def due (db : KeptTables) (now : Timestamp) (limit : Int) : Except Fault (List String) := do
  let bound ← Column.bindMoment db.dialect now
  let limit ← Column.word limit
  let rows := Table.byWall Intent.expires Intent.id (db.rows.intents.filter (isDue bound))
  return (Table.upTo (some limit) rows).map (·.id)

def isStale (db : KeptTables) (bound : Timestamp) (row : Observed) : Bool :=
  (db.rows.attribution? row.deposit.txHash).isNone && row.observed.wall ≤ bound.wall

def stale (db : KeptTables) (rule : SweepRule) (now : Timestamp) :
    Except Fault (List Deposit) := do
  let grace ← liftClock rule.grace
  let bound ← Column.bindMoment db.dialect (← liftClock (now.shift? (-grace.micros)))
  let limit ← Column.word rule.batch
  let rows := Table.byWall Observed.observed (·.deposit.txHash)
    (db.rows.observed.filter (db.isStale bound))
  let found ← (Table.upTo (some limit) rows).mapM (Observed.through Column.readMoment)
  return found.map (·.deposit)

/-- The rows are what was handed in, bound clock by clock, and are read back as these tables. -/
structure Holds (db : KeptTables) (handed store : Store) : Prop where
  bound : handed.through (Column.bindMoment db.dialect) = .ok db.rows
  read : db.rows.through Column.readMoment = .ok store

structure Answers (db : KeptTables) (store : Store) : Prop where
  candidates (bucket : Bucket) (asOf : Timestamp) (found : List Intent) :
    db.candidates bucket asOf = .ok found ↔ store.candidates bucket asOf = .ok found
  due (now : Timestamp) (limit : Int) (ids : List String) :
    db.due now limit = .ok ids ↔ store.due now limit = .ok ids
  stale (rule : SweepRule) (now : Timestamp) (deposits : List Deposit) :
    db.stale rule now = .ok deposits ↔ store.stale rule now = .ok deposits

end KeptTables

section Keeping

variable (dialect : Dialect)

def Intent.kept (row : Intent) : Intent :=
  { row with
    created := Column.shown dialect row.created.instant
    expires := Column.shown dialect row.expires.instant }

def Observed.kept (row : Observed) : Observed :=
  ⟨{ row.deposit with confirmed := Column.shown dialect row.deposit.confirmed.instant },
    Column.shown dialect row.observed.instant⟩

def Attribution.kept (row : Attribution) : Attribution :=
  { row with created := Column.shown dialect row.created.instant }

def Store.heldIn (store : Store) : KeptTables where
  dialect
  rows :=
    { intents := store.intents.map (Intent.kept dialect)
      observed := store.observed.map (Observed.kept dialect)
      attributions := store.attributions.map (Attribution.kept dialect) }

variable {dialect}

namespace Intent.Passes

variable {intent row : Intent} (passes : intent.Passes Column.moment row)
include passes

theorem bound : intent.Passes (Column.bindMoment dialect) (row.kept dialect) := by
  refine ⟨passes.amount, (Column.moment_factors dialect passes.created).1,
    (Column.moment_factors dialect passes.expires).1, passes.metadata, passes.chain, ?_⟩
  exact congrArg (Intent.kept dialect) passes.rest

theorem read : (row.kept dialect).Passes Column.readMoment row := by
  refine ⟨Column.decimal_idem passes.amount, (Column.moment_factors dialect passes.created).2,
    (Column.moment_factors dialect passes.expires).2, Column.metadata_idem passes.metadata, ?_,
    rfl⟩
  have chain := passes.chain
  rwa [passes.bucket] at chain

end Intent.Passes

namespace Observed.Passes

variable {seen row : Observed} (passes : seen.Passes Column.moment row)
include passes

theorem bound : seen.Passes (Column.bindMoment dialect) (row.kept dialect) := by
  refine ⟨passes.amount, passes.shares, (Column.moment_factors dialect passes.confirmed).1,
    (Column.moment_factors dialect passes.observed).1, passes.chain, ?_⟩
  exact congrArg (fun deposit => (Observed.kept dialect ⟨deposit, row.observed⟩).deposit)
    passes.rest

theorem read : (row.kept dialect).Passes Column.readMoment row := by
  refine ⟨Column.decimal_idem passes.amount, Column.decimal_idem passes.shares,
    (Column.moment_factors dialect passes.confirmed).2,
    (Column.moment_factors dialect passes.observed).2, ?_, rfl⟩
  have chain := passes.chain
  have bucket := congrArg Deposit.bucket passes.rest
  rwa [← bucket] at chain

end Observed.Passes

namespace Attribution.Passes

variable {given row : Attribution} (passes : given.Passes Column.moment row)
include passes

theorem bound : given.Passes (Column.bindMoment dialect) (row.kept dialect) := by
  refine ⟨passes.confidence, passes.assets, passes.shares,
    (Column.moment_factors dialect passes.created).1, ?_⟩
  exact congrArg (Attribution.kept dialect) passes.rest

theorem read : (row.kept dialect).Passes Column.readMoment row :=
  ⟨Column.decimal_idem passes.confidence, Column.decimal_idem passes.assets,
    Column.decimal?_idem passes.shares, (Column.moment_factors dialect passes.created).2, rfl⟩

end Attribution.Passes

/-- What the tables hold is what some database keeps in between. -/
theorem Store.Passes.holds {handed store : Store} (passes : handed.Passes Column.moment store)
    (dialect : Dialect) : (store.heldIn dialect).Holds handed store := by
  refine ⟨Store.through_eq_ok.mpr ⟨?_, ?_, ?_⟩, Store.through_eq_ok.mpr ⟨?_, ?_, ?_⟩⟩
  · exact List.forall₂_map_right_iff.mpr (passes.intents.imp fun _ _ row => row.bound)
  · exact List.forall₂_map_right_iff.mpr (passes.observed.imp fun _ _ row => row.bound)
  · exact List.forall₂_map_right_iff.mpr (passes.attributions.imp fun _ _ row => row.bound)
  · exact Table.map_related passes.intents fun row => row.read
  · exact Table.map_related passes.observed fun row => row.read
  · exact Table.map_related passes.attributions fun row => row.read

end Keeping

namespace Column

variable {α : Type} {dialect : Dialect} {t : Timestamp} {answer : α}

/-- A query fails on the clocks that cannot be bound; for the others it is one on their instants. -/
theorem bind_moment_iff {query again : Timestamp → Except Fault α}
    (same : query (shown dialect t.instant) = .ok answer ↔ again (.utc t.instant) = .ok answer) :
    (bindMoment dialect t >>= query) = .ok answer ↔ (moment t >>= again) = .ok answer := by
  obtain ⟨bound, kept⟩ | ⟨fault, bound, kept⟩ := bind_cases dialect t
  · rw [bind_of_ok bound, bind_of_ok kept]
    exact same
  · rw [bind_of_error bound, bind_of_error kept]
    constructor <;> intro done <;> cases done

end Column

/-- A row of an intent as it is kept, and as it is read back. -/
structure Intent.Held (dialect : Dialect) (held row : Intent) : Prop where
  kept : held = row.kept dialect
  read : held.Passes Column.readMoment row

namespace Intent.Held

variable {dialect : Dialect} {held row : Intent} (beside : held.Held dialect row)
include beside

theorem through : held.through Column.readMoment = .ok row :=
  Intent.through_eq_ok.mpr beside.read

theorem created : held.created.wall = row.created.instant := by
  rw [beside.kept]
  exact Column.shown_wall dialect row.created.instant

theorem expires : held.expires.wall = row.expires.instant := by
  rw [beside.kept]
  exact Column.shown_wall dialect row.expires.instant

theorem awaits (bucket : Bucket) (micros : Int) :
    KeptTables.awaits bucket (Column.shown dialect micros) held =
      Store.awaits bucket (.utc micros) row := by
  rw [KeptTables.awaits, Store.awaits, beside.read.bucket, beside.read.isPending, beside.expires,
    Column.shown_wall, Column.instant_utc]

theorem isDue (micros : Int) :
    KeptTables.isDue (Column.shown dialect micros) held = Store.isDue (.utc micros) row := by
  rw [KeptTables.isDue, Store.isDue, beside.read.isPending, beside.expires, Column.shown_wall,
    Column.instant_utc]

end Intent.Held

structure Observed.Held (dialect : Dialect) (held row : Observed) : Prop where
  kept : held = row.kept dialect
  read : held.Passes Column.readMoment row

theorem Observed.Held.through {dialect : Dialect} {held row : Observed}
    (beside : held.Held dialect row) : held.through Column.readMoment = .ok row :=
  Observed.through_eq_ok.mpr beside.read

theorem Observed.Held.observed {dialect : Dialect} {held row : Observed}
    (beside : held.Held dialect row) : held.observed.wall = row.observed.instant := by
  rw [beside.kept]
  exact Column.shown_wall dialect row.observed.instant

theorem Observed.Held.isStale {db : KeptTables} {store : Store} {held row : Observed}
    (beside : held.Held db.dialect row) (read : db.rows.Passes Column.readMoment store)
    (micros : Int) :
    db.isStale (Column.shown db.dialect micros) held = store.isStale (.utc micros) row := by
  rw [KeptTables.isStale, Store.isStale, read.unattributed, beside.read.txHash, beside.observed,
    Column.shown_wall, Column.instant_utc]

namespace Store.Passes

variable {handed store : Store} (passes : handed.Passes Column.moment store) (dialect : Dialect)
include passes

theorem intents_held :
    List.Forall₂ (Intent.Held dialect) (store.heldIn dialect).rows.intents store.intents :=
  Table.map_related passes.intents fun row => ⟨rfl, row.read⟩

theorem observed_held :
    List.Forall₂ (Observed.Held dialect) (store.heldIn dialect).rows.observed store.observed :=
  Table.map_related passes.observed fun row => ⟨rfl, row.read⟩

theorem candidates_iff (bucket : Bucket) (asOf : Timestamp) (found : List Intent) :
    (store.heldIn dialect).candidates bucket asOf = .ok found ↔
      store.candidates bucket asOf = .ok found := by
  refine Column.bind_moment_iff (bind_iff fun _ => ?_)
  -- The rows stay side by side while they are chosen and sorted, and are read back at the end.
  have waiting := Table.filter_related (passes.intents_held dialect) fun beside =>
    beside.awaits bucket asOf.instant
  have rows := Table.byWall_related waiting (fun beside => beside.created)
    fun beside => beside.read.id
  have read := mapM_eq_ok.mpr (rows.imp fun _ _ beside => beside.through)
  exact iff_of_eq (congrArg (· = _) read)

theorem due_iff (now : Timestamp) (limit : Int) (ids : List String) :
    (store.heldIn dialect).due now limit = .ok ids ↔ store.due now limit = .ok ids := by
  refine Column.bind_moment_iff (bind_iff fun limit => ?_)
  have waiting := Table.filter_related (passes.intents_held dialect) fun beside =>
    beside.isDue now.instant
  have rows := Table.byWall_related waiting (fun beside => beside.expires)
    fun beside => beside.read.id
  have listed := Table.map_key_related (fun beside => beside.read.id)
    (Table.upTo_related (some limit) rows)
  exact iff_of_eq (congrArg (fun ids => Except.ok ids = _) listed)

theorem stale_iff (rule : SweepRule) (now : Timestamp) (deposits : List Deposit) :
    (store.heldIn dialect).stale rule now = .ok deposits ↔ store.stale rule now = .ok deposits := by
  refine bind_iff fun grace => bind_iff fun cutoff => ?_
  refine Column.bind_moment_iff (bind_iff fun limit => ?_)
  have held := Store.through_eq_ok.mp (passes.holds dialect).read
  have waiting := Table.filter_related (passes.observed_held dialect) fun beside => beside.isStale
    held cutoff.instant
  have rows := Table.byWall_related waiting (fun beside => beside.observed)
    fun beside => beside.read.txHash
  have read := mapM_eq_ok.mpr ((Table.upTo_related (some limit) rows).imp
    fun _ _ beside => beside.through)
  exact iff_of_eq (congrArg (· = _) (bind_of_ok read))

theorem answers : (store.heldIn dialect).Answers store :=
  ⟨passes.candidates_iff dialect, passes.due_iff dialect, passes.stale_iff dialect⟩

end Store.Passes

/-- A declaration is refused for its window exactly if it would expire when it is made or before. -/
theorem Store.admits_eq_emptyWindow {store : Store} {intent : Intent}
    (declared : intent.created.isNaive = false) (ends : intent.expires.isNaive = false) :
    store.admits intent = .error (.emptyWindow intent.id intent.created intent.expires) ↔
      ¬ intent.created.instant < intent.expires.instant := by
  have compared : liftClock (intent.expires.compare? intent.created) =
      .ok (compare intent.expires.instant intent.created.instant) := by
    rw [liftClock_eq_ok, Timestamp.compare?, Timestamp.sameKind, declared, ends]
    rfl
  rw [Store.admits, bind_of_ok compared, ← compare_gt_iff_gt]
  by_cases later : compare intent.expires.instant intent.created.instant = .gt
  · -- What is left to check is the id, and a refusal for the id is another one.
    constructor
    · intro refused
      rw [later] at refused
      cases known : (store.intent? intent.id).isSome <;> rw [known] at refused <;> cases refused
    · intro never
      exact absurd later never
  · rw [if_pos (by simpa using later)]
    exact iff_of_true rfl later

namespace KeptTables

/-- The constraint compares clocks in UTC, so it compares instants. -/
theorem lasts_iff {dialect : Dialect} {intent row : Intent}
    (bound : intent.Passes (Column.bindMoment dialect) row) :
    lasts row = true ↔ intent.created.instant < intent.expires.instant := by
  obtain ⟨-, -, created⟩ := Column.bindMoment_eq_ok.mp bound.created
  obtain ⟨-, -, expires⟩ := Column.bindMoment_eq_ok.mp bound.expires
  rw [lasts, created, expires, Column.shown_wall, Column.shown_wall, decide_eq_true_eq]

/-- Clocks of all zones are kept as instants, in a database that drops the zone as in one that
keeps it, and so the constraint on intents and the look-ups decide on instants. -/
theorem look_ups_go_by_instants :
    -- A clock comes back in UTC as the instant that went in, in whatever zone a database answers.
    (∀ (dialect : Dialect) (t : Timestamp), t.isNaive = false →
      Timestamp.onCalendar t.instant = true →
      t.same (.utc t.instant) = true ∧ ∃ kept, Column.bindMoment dialect t = .ok kept ∧
        Column.readMoment kept = .ok (.utc t.instant) ∧
        ∀ answer : Timestamp, answer.same kept = true →
          Column.readMoment answer = .ok (.utc t.instant)) ∧
    (∀ (dialect : Dialect) (t : Timestamp), t.isNaive = true →
      Column.bindMoment dialect t = .error .naiveColumn) ∧
    -- Clocks that have lost their zone compare as the instants do.
    (∀ s t kept other : Timestamp, Column.bindMoment .sqlite s = .ok kept →
      Column.bindMoment .sqlite t = .ok other →
      kept.isNaive = true ∧ other.isNaive = true ∧
        compare kept.wall other.wall = compare s.instant t.instant) ∧
    -- The constraint lets through what expires later, as the check of a declaration does.
    (∀ (dialect : Dialect) (store : Store) (intent row : Intent),
      intent.through (Column.bindMoment dialect) = .ok row →
      (lasts row = true ↔ intent.created.instant < intent.expires.instant) ∧
        (lasts row = true ↔ store.admits intent ≠
          .error (.emptyWindow intent.id intent.created intent.expires))) ∧
    -- Whatever was written, the look-ups go by the instants of the clocks that were handed in.
    (∀ store : Store, ReflTransGen Store.Write .empty store ↔
      ∃ handed, Store.Filed handed store) ∧
    ∀ (dialect : Dialect) (handed store : Store), Store.Filed handed store →
      handed.GoesByInstants store ∧
        ∃ db : KeptTables, db.dialect = dialect ∧ db.Holds handed store ∧ db.Answers store := by
  refine ⟨?_, fun dialect t naive => Column.bindMoment_of_naive dialect naive, ?_, ?_, ?_, ?_⟩
  · intro dialect t zoned inside
    have bound := Column.bindMoment_of_onCalendar dialect zoned inside
    have read : ∀ {answer : Timestamp}, answer.same (Column.shown dialect t.instant) = true →
        Column.readMoment answer = .ok (.utc t.instant) :=
      Column.readMoment_of_same dialect bound
    refine ⟨Column.moment_same (Column.moment_of_onCalendar zoned inside), _, bound, read ?_,
      fun answer => read⟩
    simp [Timestamp.same, Timestamp.sameKind]
  · intro s t kept other first second
    obtain ⟨-, -, rfl⟩ := Column.bindMoment_eq_ok.mp first
    obtain ⟨-, -, rfl⟩ := Column.bindMoment_eq_ok.mp second
    exact ⟨rfl, rfl, rfl⟩
  · intro dialect store intent row made
    have bound := Intent.through_eq_ok.mp made
    obtain ⟨declared, -⟩ := Column.bindMoment_eq_ok.mp bound.created
    obtain ⟨ends, -⟩ := Column.bindMoment_eq_ok.mp bound.expires
    refine ⟨lasts_iff bound, ?_⟩
    rw [lasts_iff bound, Ne, Store.admits_eq_emptyWindow declared ends, not_not]
  · intro store
    constructor
    · exact Store.exists_filed
    · rintro ⟨handed, filed⟩
      exact filed.writes
  · intro dialect handed store filed
    exact ⟨filed.passes.goesByInstants filed.handed_keyed, store.heldIn dialect, rfl,
      filed.passes.holds dialect, filed.passes.answers dialect⟩

namespace NewYear

/-- Half an hour before the year ends in UTC. -/
def now : Timestamp := .utc 1767223800000000

def bucket : Bucket := ⟨"vault", 1, "receiver"⟩

/-- It ends an hour before the year does, on a clock that already shows the next one. -/
def ended : Intent :=
  ⟨"ended", "acme", bucket, .one, .utc 1767214800000000, ⟨1767229200000000, some 7200⟩, [],
    .pending⟩

/-- It ends with the year, on a clock that shows an earlier hour than now. -/
def lasting : Intent :=
  ⟨"lasting", "acme", bucket, .one, .utc 1767214800000000, ⟨1767207600000000, some (-18000)⟩, [],
    .pending⟩

/-- Delivered twenty minutes ago, on a clock that already shows the next year. -/
def seen : Observed :=
  let now : Timestamp := ⟨1767229800000000, some 7200⟩
  ⟨⟨"hash", bucket, .one, .one, now, none⟩, now⟩

def handed : Store := ⟨[ended, lasting], [seen], []⟩

def store : Store where
  intents :=
    [{ ended with expires := .utc 1767222000000000 },
      { lasting with expires := .utc 1767225600000000 }]
  observed :=
    [⟨{ seen.deposit with confirmed := .utc 1767222600000000 }, .utc 1767222600000000⟩]
  attributions := []

theorem filed : Store.Filed handed store := by
  have first : Store.empty.insertIntent ended =
      .ok ⟨[{ ended with expires := .utc 1767222000000000 }], [], []⟩ := rfl
  have second : Store.insertIntent ⟨[{ ended with expires := .utc 1767222000000000 }], [], []⟩
      lasting = .ok ⟨store.intents, [], []⟩ := rfl
  have third : Store.insertObserved ⟨store.intents, [], []⟩ seen.deposit seen.observed =
      .ok (some store) := rfl
  exact .observed (.declared (.declared .empty first) second) third

end NewYear

open NewYear in
/-- On the last evening of a year the clocks that were handed in show another order than the
instants have, and the instants decide. -/
theorem look_ups_go_by_instants_new_year :
    now.wall < ended.expires.wall ∧ lasting.expires.wall < now.wall ∧
      (∃ kept other, Column.bindMoment .sqlite ended.expires = .ok kept ∧
        Column.bindMoment .sqlite now = .ok other ∧ compare kept.wall other.wall = .lt) ∧
      Column.bindMoment .sqlite ⟨now.wall, none⟩ = .error .naiveColumn ∧
      lasts (ended.kept .sqlite) = true ∧
      (∃ late, handed.LateQueue now late ∧ late.map (·.id) = ["ended"]) ∧
      ∃ db : KeptTables, db.dialect = .sqlite ∧ db.Holds handed store ∧
        (∃ found, db.candidates bucket now = .ok found ∧ found.map (·.id) = ["lasting"]) ∧
        db.due now (-1) = .ok ["ended"] ∧
        db.stale { SweepRule.usual with graceSeconds := 600 } now =
          .ok [{ seen.deposit with confirmed := .utc 1767222600000000 }] := by
  obtain ⟨moments, naive, order, window, -, written⟩ := look_ups_go_by_instants
  obtain ⟨instants, db, sqlite, holds, answers⟩ := written .sqlite handed store filed
  obtain ⟨-, kept, bound, -⟩ := moments .sqlite ended.expires rfl (by decide)
  obtain ⟨-, other, also, -⟩ := moments .sqlite now rfl (by decide)
  have earlier := (order _ _ kept other bound also).2.2
  have row : ended.through (Column.bindMoment .sqlite) = .ok (ended.kept .sqlite) := rfl
  have zoned : now.isNaive = false := rfl
  have fits : Column.word (-1) = .ok (-1) := rfl
  obtain ⟨late, queue, listed⟩ := instants.due zoned (by decide) fits
  have due : store.due now (-1) = .ok ["ended"] := toOption_eq_some.mp (by decide +kernel)
  have candidates : ∃ found, store.candidates bucket now = .ok found ∧
      found.map (·.id) = ["lasting"] := by
    refine ⟨_, eq_ok_getD (by decide +kernel), by decide +kernel⟩
  have stale : store.stale { SweepRule.usual with graceSeconds := 600 } now =
      .ok [{ seen.deposit with confirmed := .utc 1767222600000000 }] :=
    toOption_eq_some.mp (by decide +kernel)
  refine ⟨by decide, by decide, ⟨kept, other, bound, also, earlier⟩, naive _ _ rfl,
    (window .sqlite store ended _ row).1.mpr (by decide), ⟨late, queue, ?_⟩, db, sqlite, holds,
    ?_, (answers.due _ _ _).mpr due, (answers.stale _ _ _).mpr stale⟩
  · rw [due] at listed
    exact (Except.ok.inj listed).symm
  · obtain ⟨found, look, ids⟩ := candidates
    exact ⟨found, (answers.candidates _ _ _).mpr look, ids⟩

end KeptTables

end Reconcile
