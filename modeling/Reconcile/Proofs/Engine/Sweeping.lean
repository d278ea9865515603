import Reconcile.Proofs.Engine.Failures
import Reconcile.Proofs.Engine.Operations
import Reconcile.Proofs.Store.Sweeping

set_option autoImplicit false

/-
Sweeps of an engine. One sweep serves the first of the two queues, up to its batch, and nothing
else. Sweeps at one moment serve the queues one batch after the other: together they do what a
sweep without a bound does, and once the queues are empty a further sweep does nothing.
-/
namespace Reconcile.Engine

open Store (Swept)

variable {engine : Engine} {now : Timestamp}

theorem run_reached (settings : Settings) (operations : List Operation) :
    ((start settings).run operations).store.Reached :=
  run_changes (start settings) operations

/-- A sweep at `now` takes these intents and deposits, in this order, and changes nothing else. -/
structure SweepTakes (engine : Engine) (now : Timestamp) (late : List Intent)
    (stale : List Observed) (after : Store) : Prop where
  result : (engine.sweep now []).result =
    .ok ⟨now, late.map (·.id), stale.map (·.deposit.txHash)⟩
  left : (engine.sweep now []).engine = { engine with store := after }
  swept : Swept now late stale engine.store after

/-- The intents are expired first, in a transaction of their own. -/
theorem expireDue_swept {store : Store} {late : List Intent} {limit : Int}
    (reached : store.Reached) (zoned : now.isNaive = false)
    (inside : Timestamp.onCalendar now.instant = true) (low : -Column.wordLimit ≤ limit)
    (high : limit < Column.wordLimit) (waiting : store.LateQueue now late) :
    ∃ after, store.expireDue now limit =
        .ok ((Table.upTo (some limit) late).map (·.id), after) ∧
      Swept now (Table.upTo (some limit) late) [] store after := by
  have keyed := reached.keyed.intents
  have due := Store.due_eq_ok keyed zoned inside low high waiting
  have first := Table.upTo_sublist (some limit) late
  generalize Table.upTo (some limit) late = taken at due first ⊢
  have distinct : (taken.map (·.id)).Nodup := (first.map _).nodup (waiting.nodup_map keyed)
  have pending : ∀ id ∈ taken.map (·.id), store.isPending id = true := by
    intro id listed
    obtain ⟨intent, member, rfl⟩ := List.mem_map.mp listed
    obtain ⟨inside, waits⟩ := (waiting.mem_iff intent).mp (first.mem member)
    exact Store.isPending_of_mem reached.keyed inside waits.1
  refine ⟨{ store with intents := store.intents.map (Intent.expireIn (taken.map (·.id))) }, ?_,
    ⟨rfl, rfl, .refl _, reached.sound.attributions⟩⟩
  refine bind_eq_ok.mpr ⟨_, due, ?_⟩
  rw [Store.expireAll_eq _ distinct pending]
  rfl

/-- Then the deposits are credited to nobody, each in a transaction of its own. -/
theorem stale_swept {store : Store} {rule : SweepRule} {stale : List Observed}
    (keyed : (store.observed.map (·.deposit.txHash)).Nodup) (legible : store.Legible)
    (sorted : Table.Sorted Attribution.txHash store.attributions) (back : rule.LooksBack now)
    (low : -Column.wordLimit ≤ rule.batch) (high : rule.batch < Column.wordLimit)
    (waiting : store.StaleQueue rule now stale) :
    ∃ deposits, store.stale rule now = .ok deposits ∧
      (markAll now [] store deposits).flagged =
        .ok ((Table.upTo (some rule.batch) stale).map (·.deposit.txHash)) ∧
      Swept now [] (Table.upTo (some rule.batch) stale) store
        (markAll now [] store deposits).store := by
  have found := Store.stale_eq_ok keyed back low high waiting
  have first := Table.upTo_sublist (some rule.batch) stale
  generalize Table.upTo (some rule.batch) stale = taken at found first ⊢
  have created := Column.moment_of_onCalendar back.zoned back.today
  have distinct : (taken.map (·.deposit.txHash)).Nodup :=
    (first.map _).nodup (waiting.nodup_map keyed)
  have waits : ∀ row ∈ taken, row ∈ store.observed ∧ store.LeftOpen rule now row :=
    fun row member => (waiting.mem_iff row).mp (first.mem member)
  refine ⟨_, found, Store.markAll_swept taken distinct ?_ created sorted ?_⟩
  · intro row member
    exact legible row (waits row member).1
  · intro row member
    exact (Table.find?_eq_none_iff Attribution.txHash).mpr (waits row member).2.1

/-- One sweep takes the first of both queues, as many as its limit allows. -/
theorem sweep_takes {late : List Intent} {stale : List Observed} (reached : engine.store.Reached)
    (back : engine.settings.sweep.LooksBack now)
    (low : -Column.wordLimit ≤ engine.settings.sweep.batch)
    (high : engine.settings.sweep.batch < Column.wordLimit)
    (lateQueue : engine.store.LateQueue now late)
    (staleQueue : engine.store.StaleQueue engine.settings.sweep now stale) :
    ∃ after, engine.SweepTakes now (Table.upTo (some engine.settings.sweep.batch) late)
      (Table.upTo (some engine.settings.sweep.batch) stale) after := by
  obtain ⟨mid, expired, early⟩ :=
    expireDue_swept reached back.zoned back.today low high lateQueue
  -- Expiring intents does not change which deposits wait.
  have still : mid.StaleQueue engine.settings.sweep now stale :=
    Swept.staleQueue (n := 0) early reached.keyed staleQueue
  have keyed : (mid.observed.map (·.deposit.txHash)).Nodup :=
    early.observed ▸ reached.keyed.observed
  have legible : mid.Legible := by
    rw [Store.Legible, early.observed]
    exact reached.legible
  obtain ⟨deposits, found, flagged, marked⟩ :=
    stale_swept keyed legible early.sorted back low high still
  have swept := early.trans marked
  rw [List.append_nil, List.nil_append] at swept
  refine ⟨(markAll now [] mid deposits).store, ?_, ?_, swept⟩
  · simp only [sweep, expired, found, flagged]
  · simp only [sweep, expired, found, flagged]

/-- Sweeps at one moment, one after the other: what each of them gives, and the engine after the
last. -/
def sweepTimes (now : Timestamp) : Nat → Engine → List (Except Fault SweepReport) × Engine
  | 0, engine => ([], engine)
  | k + 1, engine =>
    let done := engine.sweep now []
    let (others, last) := sweepTimes now k done.engine
    (done.result :: others, last)

theorem sweep_reached (reached : engine.store.Reached) (now : Timestamp) :
    (engine.sweep now []).engine.store.Reached :=
  reached.changes (act_changes engine (.sweep now))

/-- Sweeps at one moment take the queues batch by batch. -/
theorem sweepTimes_takes (k : Nat) {batch : Nat} {late : List Intent} {stale : List Observed}
    (reached : engine.store.Reached) (back : engine.settings.sweep.LooksBack now)
    (size : engine.settings.sweep.batch = batch) (fits : (batch : Int) < Column.wordLimit)
    (lateQueue : engine.store.LateQueue now late)
    (staleQueue : engine.store.StaleQueue engine.settings.sweep now stale) :
    ∃ (reports : List SweepReport) (after : Store),
      sweepTimes now k engine = (reports.map .ok, { engine with store := after }) ∧
      after.Reached ∧
      Swept now (late.take (k * batch)) (stale.take (k * batch)) engine.store after ∧
      reports.flatMap (·.expired) = (late.take (k * batch)).map (·.id) ∧
      reports.flatMap (·.flagged) = (stale.take (k * batch)).map (·.deposit.txHash) := by
  induction k generalizing engine late stale with
  | zero =>
    refine ⟨[], engine.store, rfl, reached, ?_, ?_, ?_⟩
    · rw [Nat.zero_mul]
      exact .refl engine.store reached.sound.attributions
    · rw [Nat.zero_mul]
      rfl
    · rw [Nat.zero_mul]
      rfl
  | succ k ih =>
    have low : -Column.wordLimit ≤ engine.settings.sweep.batch := by
      rw [size, Column.wordLimit]
      omega
    obtain ⟨mid, takes⟩ := sweep_takes reached back low (size ▸ fits) lateQueue staleQueue
    rw [size, Table.upTo_ofNat, Table.upTo_ofNat] at takes
    have next : mid.Reached := by
      have still := sweep_reached reached now
      rwa [takes.left] at still
    obtain ⟨reports, after, others, ends, swept, expired, flagged⟩ :=
      @ih { engine with store := mid } _ _ next back size
        (takes.swept.lateQueue reached.keyed lateQueue)
        (takes.swept.staleQueue reached.keyed staleQueue)
    rw [show (k + 1) * batch = batch + k * batch by rw [Nat.succ_mul, Nat.add_comm],
      List.take_add, List.take_add]
    refine ⟨⟨now, (late.take batch).map (·.id), (stale.take batch).map (·.deposit.txHash)⟩ ::
      reports, after, ?_, ends, takes.swept.trans swept, ?_, ?_⟩
    · rw [sweepTimes, takes.result, takes.left, others]
      rfl
    · rw [List.flatMap_cons, expired, List.map_append]
    · rw [List.flatMap_cons, flagged, List.map_append]

/-- Sweeps at one moment that have served both queues to their end: nothing is reported twice, one
sweep without a bound leaves the same tables, a further one does nothing, and every deposit past
the grace period has one attribution. -/
structure Drains (engine : Engine) (now : Timestamp) (k : Nat) (late : List Intent)
    (stale : List Observed) (reports : List SweepReport) (after : Store) : Prop where
  run : sweepTimes now k engine = (reports.map .ok, { engine with store := after })
  expired : reports.flatMap (·.expired) = late.map (·.id)
  flagged : reports.flatMap (·.flagged) = stale.map (·.deposit.txHash)
  noneTwice : (late.map (·.id)).Nodup ∧ (stale.map (·.deposit.txHash)).Nodup
  atOnce : SweepTakes { engine with settings.sweep.batch := -1 } now late stale after
  nothingMore : SweepTakes { engine with store := after } now [] [] after
  credited : ∀ row ∈ after.observed,
    row.observed.instant + engine.settings.sweep.graceSeconds * Timestamp.second ≤ now.instant →
      ∃! given, given ∈ after.attributions ∧ given.txHash = row.deposit.txHash

theorem unbounded_sweep_takes {late : List Intent} {stale : List Observed}
    (reached : engine.store.Reached) (back : engine.settings.sweep.LooksBack now)
    (lateQueue : engine.store.LateQueue now late)
    (staleQueue : engine.store.StaleQueue engine.settings.sweep now stale) :
    ∃ after, SweepTakes { engine with settings.sweep.batch := -1 } now late stale after := by
  have low : -Column.wordLimit ≤ -1 := by decide
  have high : -1 < Column.wordLimit := by decide
  have same : SweepRule.LooksBack { engine.settings.sweep with batch := -1 } now :=
    ⟨back.zoned, back.today, back.grace, back.shown, back.cutoff⟩
  have waiting : engine.store.StaleQueue { engine.settings.sweep with batch := -1 } now stale :=
    staleQueue.congr fun _ => Iff.rfl
  exact @sweep_takes { engine with settings.sweep.batch := -1 } now late stale reached same low high
    lateQueue waiting

/-- Once both queues are empty, a sweep finds nothing to do. -/
theorem idle_sweep_takes (reached : engine.store.Reached)
    (back : engine.settings.sweep.LooksBack now)
    (low : -Column.wordLimit ≤ engine.settings.sweep.batch)
    (high : engine.settings.sweep.batch < Column.wordLimit)
    (noneLate : engine.store.LateQueue now [])
    (noneStale : engine.store.StaleQueue engine.settings.sweep now []) :
    engine.SweepTakes now [] [] engine.store := by
  obtain ⟨after, takes⟩ := sweep_takes reached back low high noneLate noneStale
  have nothing : ∀ {α : Type} (limit : Option Int), Table.upTo limit ([] : List α) = [] :=
    fun limit => List.sublist_nil.mp (Table.upTo_sublist limit [])
  rw [nothing, nothing] at takes
  rwa [takes.swept.unique (.refl engine.store reached.sound.attributions)] at takes

/-- Where no deposit waits, each one past the grace period has one attribution. -/
theorem credited_of_noneStale {store : Store} {rule : SweepRule} (keyed : store.Keyed)
    (noneStale : store.StaleQueue rule now []) {row : Observed} (inside : row ∈ store.observed)
    (past : row.observed.instant + rule.graceSeconds * Timestamp.second ≤ now.instant) :
    ∃! given, given ∈ store.attributions ∧ given.txHash = row.deposit.txHash := by
  have served : ¬ store.LeftOpen rule now row := fun waits =>
    List.not_mem_nil ((noneStale.mem_iff row).mpr ⟨inside, waits⟩)
  obtain ⟨given, member, same⟩ : ∃ given ∈ store.attributions,
      given.txHash = row.deposit.txHash := by
    by_contra none
    push Not at none
    exact served ⟨none, past⟩
  refine ⟨given, ⟨member, same⟩, ?_⟩
  rintro other ⟨present, again⟩
  exact List.inj_on_of_nodup_map keyed.attributions present member (again.trans same.symm)

/-- In tables that operations have led to, all intents that are late and all deposits that were
left open past the grace period wait in two queues. One sweep takes the first of both, as many as
its batch, and changes nothing else; as many sweeps as the queues need leave none. The batch must
fit into 64 bits, as the limit of a query does. -/
theorem sweeps_serve_in_order (engine : Engine) (now : Timestamp) (batch : Nat)
    (reached : engine.store.Reached) (back : engine.settings.sweep.LooksBack now)
    (size : engine.settings.sweep.batch = batch) (fits : (batch : Int) < Column.wordLimit) :
    ∃ late stale, engine.store.LateQueue now late ∧
      engine.store.StaleQueue engine.settings.sweep now stale ∧
      (∃ after, engine.SweepTakes now (late.take batch) (stale.take batch) after) ∧
      ∀ k, late.length ≤ k * batch → stale.length ≤ k * batch →
        ∃ reports after, engine.Drains now k late stale reports after := by
  obtain ⟨⟨late, lateQueue⟩, stale, staleQueue⟩ :=
    Store.exists_queues reached.keyed engine.settings.sweep now
  have low : -Column.wordLimit ≤ engine.settings.sweep.batch := by
    rw [size, Column.wordLimit]
    omega
  refine ⟨late, stale, lateQueue, staleQueue, ?_, ?_⟩
  · obtain ⟨after, takes⟩ := sweep_takes reached back low (size ▸ fits) lateQueue staleQueue
    rw [size, Table.upTo_ofNat, Table.upTo_ofNat] at takes
    exact ⟨after, takes⟩
  · intro k enough enoughToo
    obtain ⟨reports, after, run, ends, swept, expired, flagged⟩ :=
      sweepTimes_takes k reached back size fits lateQueue staleQueue
    have noneLate := swept.lateQueue reached.keyed lateQueue
    have noneStale := swept.staleQueue reached.keyed staleQueue
    rw [List.drop_eq_nil_of_le enough] at noneLate
    rw [List.drop_eq_nil_of_le enoughToo] at noneStale
    rw [List.take_of_length_le enough] at swept expired
    rw [List.take_of_length_le enoughToo] at swept flagged
    obtain ⟨whole, atOnce⟩ := unbounded_sweep_takes reached back lateQueue staleQueue
    have same : whole = after := atOnce.swept.unique swept
    refine ⟨reports, after, run, expired, flagged, ?_, same ▸ atOnce, ?_, ?_⟩
    · exact ⟨lateQueue.nodup_map reached.keyed.intents,
        staleQueue.nodup_map reached.keyed.observed⟩
    · exact @idle_sweep_takes { engine with store := after } now ends back low (size ▸ fits)
        noneLate noneStale
    · intro row inside past
      exact credited_of_noneStale ends.keyed noneStale inside past

/-- Three deposits that nobody expected, and sweeps that take two at a time. -/
def backlogged : Engine :=
  (start { Settings.usual with sweep.batch := 2, sweep.graceSeconds := 60 }).run
    [.deliver (.parsed { fitting with txHash := "c" }) (.utc 0),
      .deliver (.parsed { fitting with txHash := "a" }) (.utc 1),
      .deliver (.parsed { fitting with txHash := "b" }) (.utc 0)]

/-- The deposits in the order in which sweeps take them: the oldest first, and of one age the one
with the least hash. -/
def backlog : List Observed :=
  [⟨{ fitting with txHash := "b" }, .utc 0⟩, ⟨{ fitting with txHash := "c" }, .utc 0⟩,
    ⟨{ fitting with txHash := "a" }, .utc 1⟩]

theorem backlog_queue :
    backlogged.store.StaleQueue backlogged.settings.sweep (.utc 60000001) backlog := by
  have observed : backlogged.store.observed.Perm backlog := by decide +kernel
  have none : backlogged.store.attributions = [] := by decide +kernel
  have past : ∀ row ∈ backlog, row.observed.instant +
      backlogged.settings.sweep.graceSeconds * Timestamp.second ≤ 60000001 := by
    decide +kernel
  refine ⟨?_, ?_⟩
  · intro row
    rw [observed.mem_iff, Store.LeftOpen, none]
    constructor
    · intro member
      exact ⟨member, by simp, past row member⟩
    · exact And.left
  · decide +kernel

/-- Two sweeps serve the whole backlog. -/
theorem sweeps_serve_in_order_backlogged :
    backlogged.store.Reached ∧ backlogged.settings.sweep.LooksBack (.utc 60000001) ∧
      ∃ reports after, backlogged.Drains (.utc 60000001) 2 [] backlog reports after := by
  have reached : backlogged.store.Reached := run_reached _ _
  have back : backlogged.settings.sweep.LooksBack (.utc 60000001) :=
    ⟨by decide, by decide, by decide +kernel, by decide +kernel, by decide +kernel⟩
  obtain ⟨late, stale, lateQueue, staleQueue, -, drained⟩ :=
    sweeps_serve_in_order backlogged (.utc 60000001) 2 reached back rfl (by decide)
  have noIntents : backlogged.store.intents.length = 0 := by decide +kernel
  have noneLate : late = [] := by
    refine List.eq_nil_iff_forall_not_mem.mpr ?_
    intro intent member
    have inside := ((lateQueue.mem_iff intent).mp member).1
    rw [List.length_eq_zero_iff.mp noIntents] at inside
    exact List.not_mem_nil inside
  rw [noneLate, staleQueue.unique backlog_queue] at drained
  exact ⟨reached, back, drained 2 (by decide) (by decide)⟩

/-- A batch that does not fit into 64 bits makes every sweep fail, on empty tables too. -/
theorem sweep_fails_on_huge_batch :
    ¬ ∀ (engine : Engine) (now : Timestamp), engine.store.Reached →
      engine.settings.sweep.LooksBack now → 1 ≤ engine.settings.sweep.batch →
      ∃ report, (engine.sweep now []).result = .ok report := by
  intro claim
  have back : SweepRule.LooksBack { SweepRule.usual with batch := Column.wordLimit } (.utc 0) :=
    ⟨by decide, by decide, by decide, by decide, by decide⟩
  obtain ⟨report, succeeded⟩ :=
    claim (start { Settings.usual with sweep.batch := Column.wordLimit }) (.utc 0) .refl back
      (by decide)
  have failed : (sweep (start { Settings.usual with sweep.batch := Column.wordLimit }) (.utc 0)
      []).result.toOption = none := by
    decide +kernel
  rw [succeeded] at failed
  cases failed

end Reconcile.Engine
