import Reconcile.Engine.Sweep
import Reconcile.Proofs.Store.Reached
import Reconcile.Proofs.Table.Queue
import Reconcile.Proofs.Traffic.Alone

set_option autoImplicit false

/-
What a sweep does to the tables. Two queues wait for it: the intents that have outlived their time
and the deposits that nobody claimed within the grace period. It serves the first of both, and the
rest of both is what waits afterwards.
-/
namespace Reconcile

/-- The record that credits an observed deposit to nobody. -/
def Attribution.terminal (now : Timestamp) (row : Observed) : Attribution :=
  { txHash := row.deposit.txHash, intent := none, partner := none, source := .inferred,
    confidence := .zero, assets := row.deposit.amount, shares := row.deposit.shares,
    created := .utc now.instant }

namespace Intent

def Late (now : Timestamp) (intent : Intent) : Prop :=
  intent.status = .pending ∧ intent.expires.instant ≤ now.instant

def expireIn (ids : List String) (intent : Intent) : Intent :=
  if intent.id ∈ ids then { intent with status := .expired } else intent

@[simp] theorem expireIn_id (ids : List String) (intent : Intent) :
    (intent.expireIn ids).id = intent.id := by
  unfold expireIn
  split <;> rfl

@[simp] theorem expireIn_nil : expireIn [] = fun intent => intent := by
  funext intent
  simp [expireIn]

theorem expireIn_append (first second : List String) :
    expireIn second ∘ expireIn first = expireIn (first ++ second) := by
  funext intent
  rw [Function.comp_apply, expireIn, expireIn_id]
  by_cases early : intent.id ∈ first <;> by_cases late : intent.id ∈ second <;>
    simp [expireIn, early, late]

theorem isPending_iff (intent : Intent) : intent.isPending = true ↔ intent.status = .pending := by
  simp [isPending]

end Intent

/-- A sweep can look back as far as the grace period reaches: the moment is on the calendar, both
on the clock that was handed in and in UTC. -/
structure SweepRule.LooksBack (rule : SweepRule) (now : Timestamp) : Prop where
  zoned : now.isNaive = false
  today : Timestamp.onCalendar now.instant = true
  grace : 0 ≤ rule.graceSeconds
  shown : Timestamp.onCalendar (now.wall - rule.graceSeconds * Timestamp.second) = true
  cutoff : Timestamp.onCalendar (now.instant - rule.graceSeconds * Timestamp.second) = true

/-- A grace period that does not reach beyond the calendar is no longer than a length may be. -/
theorem SweepRule.LooksBack.length {rule : SweepRule} {now : Timestamp}
    (back : rule.LooksBack now) :
    rule.grace = .ok ⟨rule.graceSeconds * Timestamp.second⟩ := by
  have grace := back.grace
  have today := (Timestamp.onCalendar_iff.mp back.today).2
  have cutoff := (Timestamp.onCalendar_iff.mp back.cutoff).1
  simp only [Timestamp.firstWall, Timestamp.lastWall, Timestamp.second] at today cutoff
  have days : -Duration.dayLimit ≤ rule.graceSeconds / 86400 ∧
      rule.graceSeconds / 86400 ≤ Duration.dayLimit := by
    rw [Duration.dayLimit]
    omega
  rw [SweepRule.grace, Duration.ofSeconds?, if_pos days]

/-- The moment a sweep looks back to, on the clock that was handed in and in a column. -/
theorem SweepRule.LooksBack.exists_cutoff {rule : SweepRule} {now : Timestamp}
    (back : rule.LooksBack now) :
    ∃ shifted, now.shift? (-(rule.graceSeconds * Timestamp.second)) = .ok shifted ∧
      Column.moment shifted =
        .ok (.utc (now.instant - rule.graceSeconds * Timestamp.second)) := by
  have instant : Timestamp.instant ⟨now.wall - rule.graceSeconds * Timestamp.second, now.offset⟩ =
      now.instant - rule.graceSeconds * Timestamp.second := by
    simp only [Timestamp.instant]
    omega
  refine ⟨⟨now.wall - rule.graceSeconds * Timestamp.second, now.offset⟩, ?_, ?_⟩
  · rw [Timestamp.shift?, ← sub_eq_add_neg, if_pos back.shown]
  · rw [← instant]
    refine Column.moment_of_onCalendar back.zoned ?_
    rw [instant]
    exact back.cutoff

namespace Store

theorem isDue_iff {now : Timestamp} (intent : Intent) :
    isDue now intent = true ↔ intent.Late now := by
  rw [isDue, Bool.and_eq_true, Intent.isPending_iff, decide_eq_true_eq, Intent.Late]

/-- The deposit has no attribution and was observed at least the grace period ago. -/
def LeftOpen (store : Store) (rule : SweepRule) (now : Timestamp) (row : Observed) : Prop :=
  (∀ given ∈ store.attributions, given.txHash ≠ row.deposit.txHash) ∧
    row.observed.instant + rule.graceSeconds * Timestamp.second ≤ now.instant

/-- The intents that wait for a sweep, by their expiry and then by their id. -/
abbrev LateQueue (store : Store) (now : Timestamp) (queue : List Intent) : Prop :=
  Table.Queue Intent.expires Intent.id (Intent.Late now) store.intents queue

/-- The deposits that wait for a sweep, by their first delivery and then by their hash. -/
abbrev StaleQueue (store : Store) (rule : SweepRule) (now : Timestamp) (queue : List Observed) :
    Prop :=
  Table.Queue Observed.observed (·.deposit.txHash) (store.LeftOpen rule now) store.observed queue

/-- How a sweep that takes certain intents and deposits changes the tables. -/
structure Swept (now : Timestamp) (late : List Intent) (stale : List Observed)
    (before after : Store) : Prop where
  intents : after.intents = before.intents.map (Intent.expireIn (late.map (·.id)))
  observed : after.observed = before.observed
  attributions :
    after.attributions.Perm (stale.map (Attribution.terminal now) ++ before.attributions)
  sorted : Table.Sorted Attribution.txHash after.attributions

namespace Swept

variable {now : Timestamp} {late more : List Intent} {stale others : List Observed}
  {first second third : Store}

theorem refl (store : Store) (sorted : Table.Sorted Attribution.txHash store.attributions) :
    Swept now [] [] store store :=
  ⟨by simp, rfl, .refl _, sorted⟩

theorem trans (early : Swept now late stale first second)
    (next : Swept now more others second third) :
    Swept now (late ++ more) (stale ++ others) first third := by
  refine ⟨?_, next.observed.trans early.observed, ?_, next.sorted⟩
  · rw [next.intents, early.intents, List.map_map, Intent.expireIn_append, List.map_append]
  · refine next.attributions.trans ((early.attributions.append_left _).trans ?_)
    rw [List.map_append, ← List.append_assoc]
    exact List.perm_append_comm.append_right _

/-- What a sweep takes says what it leaves. -/
theorem unique (one : Swept now late stale first second)
    (other : Swept now late stale first third) : second = third := by
  have attributions : second.attributions = third.attributions := by
    refine (one.attributions.trans other.attributions.symm).eq_of_pairwise ?_ one.sorted
      other.sorted
    intro a b _ _ less greater
    exact absurd greater (lt_asymm less)
  have intents := one.intents.trans other.intents.symm
  have observed := one.observed.trans other.observed.symm
  cases second
  cases third
  simp_all

theorem mem_attributions (swept : Swept now late stale first second) (row : Attribution) :
    row ∈ second.attributions ↔
      (∃ deposit ∈ stale, Attribution.terminal now deposit = row) ∨ row ∈ first.attributions := by
  rw [swept.attributions.mem_iff, List.mem_append, List.mem_map]

end Swept

section Late

variable {store : Store} {now : Timestamp}

theorem due_eq_ok {limit : Int} {late : List Intent}
    (keyed : (store.intents.map (·.id)).Nodup) (zoned : now.isNaive = false)
    (inside : Timestamp.onCalendar now.instant = true) (low : -Column.wordLimit ≤ limit)
    (high : limit < Column.wordLimit)
    (waiting : store.LateQueue now late) :
    store.due now limit = .ok ((Table.upTo (some limit) late).map (·.id)) := by
  have sorted : Table.byTime Intent.expires Intent.id
      (store.intents.filter (isDue (.utc now.instant))) = late := by
    refine (Table.byTime_queue keyed).unique ⟨?_, waiting.ordered⟩
    intro intent
    rw [waiting.mem_iff, isDue_iff, Intent.Late, Intent.Late, Column.instant_utc]
  refine bind_eq_ok.mpr ⟨_, Column.moment_of_onCalendar zoned inside, ?_⟩
  refine bind_eq_ok.mpr ⟨_, Column.word_of_fits low high, ?_⟩
  rw [sorted]
  rfl

theorem isPending_move {id other : String} (apart : other ≠ id) (status : Status) :
    (store.move id status).2.isPending other = store.isPending other := by
  rw [isPending, isPending, intent?_move]
  cases store.intent? other with
  | none => rfl
  | some intent => simp [apart]

theorem move_expired {id : String} (pending : store.isPending id = true) :
    store.move id .expired =
      (true, { store with intents := store.intents.map (Intent.expireIn [id]) }) := by
  have single : Intent.expireIn [id] = fun intent : Intent =>
      if intent.id = id then { intent with status := .expired } else intent := by
    funext intent
    simp only [Intent.expireIn, List.mem_singleton]
  rw [move, if_pos pending, Table.update, single]

theorem expireAll_eq (ids : List String) (distinct : ids.Nodup)
    (pending : ∀ id ∈ ids, store.isPending id = true) :
    store.expireAll ids =
      (ids, { store with intents := store.intents.map (Intent.expireIn ids) }) := by
  induction ids generalizing store with
  | nil => simp [expireAll]
  | cons id rest ih =>
    obtain ⟨apart, distinct⟩ := List.nodup_cons.mp distinct
    have moved := move_expired (pending id List.mem_cons_self)
    have tail : ∀ other ∈ rest, (store.move id .expired).2.isPending other = true := by
      intro other member
      have different : other ≠ id := fun same => apart (same ▸ member)
      rw [isPending_move different]
      exact pending other (List.mem_cons_of_mem id member)
    rw [moved] at tail
    rw [expireAll, moved]
    dsimp only
    rw [ih distinct tail, if_pos rfl, List.map_map, Intent.expireIn_append,
      List.singleton_append]

theorem isPending_of_mem {intent : Intent} (keyed : store.Keyed) (member : intent ∈ store.intents)
    (pending : intent.status = .pending) : store.isPending intent.id = true := by
  have found : store.intent? intent.id = some intent :=
    intent?_of_mem keyed.intents member
  rw [isPending, found]
  exact (Intent.isPending_iff intent).mpr pending

end Late

section Stale

variable {store : Store} {rule : SweepRule} {now : Timestamp}

theorem isStale_iff {cutoff : Timestamp}
    (cut : cutoff.instant + rule.graceSeconds * Timestamp.second = now.instant) (row : Observed) :
    store.isStale cutoff row = true ↔ store.LeftOpen rule now row := by
  have past : row.observed.instant ≤ cutoff.instant ↔
      row.observed.instant + rule.graceSeconds * Timestamp.second ≤ now.instant := by omega
  rw [isStale, Bool.and_eq_true, decide_eq_true_eq, Option.isNone_iff_eq_none, attribution?,
    Table.find?_eq_none_iff, past, LeftOpen]

theorem instant_cutoff (rule : SweepRule) (now : Timestamp) :
    (Timestamp.utc (now.instant - rule.graceSeconds * Timestamp.second)).instant +
      rule.graceSeconds * Timestamp.second = now.instant := by
  rw [Column.instant_utc, sub_add_cancel]

theorem stale_eq_ok {stale : List Observed}
    (keyed : (store.observed.map (·.deposit.txHash)).Nodup) (back : rule.LooksBack now)
    (low : -Column.wordLimit ≤ rule.batch) (high : rule.batch < Column.wordLimit)
    (waiting : store.StaleQueue rule now stale) :
    store.stale rule now = .ok ((Table.upTo (some rule.batch) stale).map (·.deposit)) := by
  obtain ⟨shifted, earlier, cutoff⟩ := back.exists_cutoff
  have cut := instant_cutoff rule now
  have sorted : Table.byTime Observed.observed (·.deposit.txHash) (store.observed.filter
      (store.isStale (.utc (now.instant - rule.graceSeconds * Timestamp.second)))) = stale := by
    refine (Table.byTime_queue keyed).unique ⟨?_, waiting.ordered⟩
    intro row
    rw [waiting.mem_iff, isStale_iff cut]
  refine bind_eq_ok.mpr ⟨_, liftClock_eq_ok.mpr back.length, ?_⟩
  refine bind_eq_ok.mpr ⟨_, liftClock_eq_ok.mpr earlier, ?_⟩
  refine bind_eq_ok.mpr ⟨_, cutoff, ?_⟩
  refine bind_eq_ok.mpr ⟨_, Column.word_of_fits low high, ?_⟩
  rw [sorted]
  rfl

theorem unattributed_check (deposit : Deposit) :
    (Decision.unattributed deposit).check = .ok () := rfl

/-- A deposit that was observed and has no attribution is credited to nobody. -/
theorem markUnattributed_eq_ok {row : Observed} (canonical : row.deposit.Canonical)
    (created : Column.moment now = .ok (.utc now.instant))
    (absent : store.attribution? row.deposit.txHash = none) :
    ∃ told, store.markUnattributed row.deposit now = .ok (told, { store with
      attributions :=
        Table.insert Attribution.txHash (.terminal now row) store.attributions }) := by
  have permitted : store.permits row.deposit.txHash (.unattributed row.deposit) = .ok () := by
    refine bind_eq_ok.mpr ⟨(), unattributed_check row.deposit, ?_⟩
    dsimp only
    rw [absent]
    rfl
  have made : attributionRow
      (.ofDecision row.deposit.txHash (.unattributed row.deposit) now) =
        .ok (.terminal now row) := by
    have confidence : Column.decimal .zero = .ok .zero := rfl
    refine bind_eq_ok.mpr ⟨_, confidence, ?_⟩
    refine bind_eq_ok.mpr ⟨_, canonical.amount, ?_⟩
    refine bind_eq_ok.mpr ⟨_, canonical.someShares, ?_⟩
    exact bind_eq_ok.mpr ⟨_, created, rfl⟩
  refine ⟨.ofDecision row.deposit.txHash (.unattributed row.deposit) now, ?_⟩
  refine bind_eq_ok.mpr ⟨(), permitted, ?_⟩
  exact bind_eq_ok.mpr ⟨_, made, rfl⟩

theorem markAll_swept (rows : List Observed)
    (distinct : (rows.map (·.deposit.txHash)).Nodup)
    (canonical : ∀ row ∈ rows, row.deposit.Canonical)
    (created : Column.moment now = .ok (.utc now.instant))
    (sorted : Table.Sorted Attribution.txHash store.attributions)
    (absent : ∀ row ∈ rows, store.attribution? row.deposit.txHash = none) :
    (markAll now [] store (rows.map (·.deposit))).flagged =
        .ok (rows.map (·.deposit.txHash)) ∧
      Swept now [] rows store (markAll now [] store (rows.map (·.deposit))).store := by
  induction rows generalizing store with
  | nil => exact ⟨rfl, .refl store sorted⟩
  | cons row rest ih =>
    obtain ⟨apart, distinct⟩ := List.nodup_cons.mp distinct
    have missing := absent row List.mem_cons_self
    have fresh := (Table.find?_eq_none_iff Attribution.txHash).mp missing
    obtain ⟨told, marked⟩ :=
      markUnattributed_eq_ok (canonical row List.mem_cons_self) created missing
    obtain ⟨left, flagged⟩ := Traffic.markAll_ok (rest.map (·.deposit)) marked
    have first : Swept now [] [row] store { store with
        attributions :=
          Table.insert Attribution.txHash (.terminal now row) store.attributions } :=
      ⟨by simp, rfl, Table.insert_perm _ _ _, Table.insert_sorted _ sorted fresh⟩
    -- The record of one deposit is found under no other.
    have still : ∀ other ∈ rest, Table.find? Attribution.txHash other.deposit.txHash
        (Table.insert Attribution.txHash (.terminal now row) store.attributions) = none := by
      intro other member
      have different : row.deposit.txHash ≠ other.deposit.txHash :=
        fun same => apart (List.mem_map.mpr ⟨other, member, same.symm⟩)
      rw [Table.find?_insert _ _ fresh]
      exact (if_neg different).trans (absent other (List.mem_cons_of_mem row member))
    obtain ⟨others, second⟩ := ih distinct
      (fun other member => canonical other (List.mem_cons_of_mem row member)) first.sorted still
    rw [List.map_cons, left, flagged, others]
    exact ⟨rfl, first.trans second⟩

end Stale

section Rest

variable {now : Timestamp} {before after : Store} {rule : SweepRule}

/-- The intents that a sweep leaves are the queue of the next. -/
theorem Swept.lateQueue {late : List Intent} {served : List Observed} {n : Nat}
    (swept : Swept now (late.take n) served before after) (keyed : before.Keyed)
    (waiting : before.LateQueue now late) : after.LateQueue now (late.drop n) := by
  have own : ∀ intent ∈ before.intents, intent.id ∈ (late.take n).map (·.id) →
      intent ∈ late.take n := by
    intro intent inside listed
    obtain ⟨other, taken, same⟩ := List.mem_map.mp listed
    have present := ((waiting.mem_iff other).mp (List.mem_of_mem_take taken)).1
    rwa [← List.inj_on_of_nodup_map keyed.intents present inside same]
  refine waiting.drop n ?_
  intro intent
  rw [swept.intents, List.mem_map]
  constructor
  · rintro ⟨⟨old, inside, rfl⟩, waits⟩
    by_cases listed : old.id ∈ (late.take n).map (·.id)
    · -- What was expired is not pending any more.
      rw [Intent.expireIn, if_pos listed] at waits
      cases waits.1
    · rw [Intent.expireIn, if_neg listed] at waits ⊢
      exact ⟨⟨inside, waits⟩, fun taken => listed (List.mem_map_of_mem taken)⟩
  · rintro ⟨⟨inside, waits⟩, untaken⟩
    refine ⟨⟨intent, inside, ?_⟩, waits⟩
    rw [Intent.expireIn, if_neg fun listed => untaken (own intent inside listed)]

/-- The deposits that a sweep leaves are the queue of the next. -/
theorem Swept.staleQueue {stale : List Observed} {served : List Intent} {n : Nat}
    (swept : Swept now served (stale.take n) before after) (keyed : before.Keyed)
    (waiting : before.StaleQueue rule now stale) : after.StaleQueue rule now (stale.drop n) := by
  refine waiting.drop n ?_
  intro row
  rw [swept.observed]
  constructor
  · rintro ⟨inside, unclaimed, past⟩
    refine ⟨⟨inside, ?_, past⟩, ?_⟩
    · intro given member
      exact unclaimed given ((swept.mem_attributions given).mpr (Or.inr member))
    · intro taken
      exact unclaimed (.terminal now row)
        ((swept.mem_attributions _).mpr (Or.inl ⟨row, taken, rfl⟩)) rfl
  · rintro ⟨⟨inside, unclaimed, past⟩, untaken⟩
    refine ⟨inside, ?_, past⟩
    intro given member
    rcases (swept.mem_attributions given).mp member with ⟨other, taken, rfl⟩ | old
    · intro same
      have present := ((waiting.mem_iff other).mp (List.mem_of_mem_take taken)).1
      exact untaken (List.inj_on_of_nodup_map keyed.observed present inside same ▸ taken)
    · exact unclaimed given old

end Rest

/-- Both queues are there, whatever the tables hold. -/
theorem exists_queues {store : Store} (keyed : store.Keyed) (rule : SweepRule) (now : Timestamp) :
    (∃ late, store.LateQueue now late) ∧ ∃ stale, store.StaleQueue rule now stale := by
  exact ⟨⟨_, (Table.byTime_queue keyed.intents).congr isDue_iff⟩,
    ⟨_, (Table.byTime_queue keyed.observed).congr (isStale_iff (instant_cutoff rule now))⟩⟩

end Store

end Reconcile
