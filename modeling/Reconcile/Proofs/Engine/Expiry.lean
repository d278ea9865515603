import Reconcile.Proofs.Engine.Isolation
import Reconcile.Proofs.Engine.Origins
import Reconcile.Proofs.Store.Sweeping
import Reconcile.Proofs.Traffic.Observed

set_option autoImplicit false

/-
Expiry and deliveries. At any moment a pending intent either still expects deposits or waits to be
swept. So a sweep takes no intent that a later deposit could be matched with, and as it records
only what was observed before, a deposit that is new then is treated as if there had been no sweep.
-/
namespace Reconcile

open Store (Alike Keeps Expires Descends)

namespace Store

theorem intentRow_word {intent row : Intent} (made : intentRow intent = .ok row) :
    Column.word row.bucket.chain = .ok row.bucket.chain := by
  have passes := intentRow_passes made
  rw [← passes.bucket]
  exact passes.chain

/-- The chain numbers of intents fit into their column. -/
theorem Reached.numbered {store : Store} (reached : store.Reached) :
    ∀ intent ∈ store.intents, Column.word intent.bucket.chain = .ok intent.bucket.chain :=
  reached.forall_intents intentRow_word fun kept _ => kept

/-- The intent is found among those that expect deposits of its bucket. -/
def Yields (store : Store) (asOf : Timestamp) (intent : Intent) : Prop :=
  ∃ found, store.candidates intent.bucket asOf = .ok found ∧ intent ∈ found

/-- The intent is listed among those that have outlived their time. -/
def ListsDue (store : Store) (now : Timestamp) (limit : Int) (intent : Intent) : Prop :=
  ∃ ids, store.due now limit = .ok ids ∧ intent.id ∈ ids

section Partition

variable {store : Store} {intent : Intent} {t : Timestamp}

theorem yields_iff (reached : store.Reached) (member : intent ∈ store.intents)
    (pending : intent.status = .pending) (zoned : t.isNaive = false)
    (inside : Timestamp.onCalendar t.instant = true) :
    store.Yields t intent ↔ t.instant < intent.expires.instant := by
  have found : store.candidates intent.bucket t = .ok (Table.byTime Intent.created Intent.id
      (store.intents.filter (awaits intent.bucket (.utc t.instant)))) :=
    (bind_of_ok (Column.moment_of_onCalendar zoned inside)).trans
      (bind_of_ok (reached.numbered intent member))
  have waiting : awaits intent.bucket (.utc t.instant) intent = true ↔
      t.instant < intent.expires.instant := by
    simp [awaits, (Intent.isPending_iff intent).mpr pending, Column.instant_utc]
  rw [Yields, found, ← waiting]
  constructor
  · rintro ⟨_, ⟨⟩, listed⟩
    rw [Table.byTime, List.mem_mergeSort, List.mem_filter] at listed
    exact listed.2
  · intro waits
    refine ⟨_, rfl, ?_⟩
    rw [Table.byTime, List.mem_mergeSort, List.mem_filter]
    exact ⟨member, waits⟩

theorem listsDue_iff (reached : store.Reached) (member : intent ∈ store.intents)
    (pending : intent.status = .pending) (zoned : t.isNaive = false)
    (inside : Timestamp.onCalendar t.instant = true) {limit : Int}
    (enough : (store.intents.filter (isDue t)).length ≤ limit)
    (fits : limit < Column.wordLimit) :
    store.ListsDue t limit intent ↔ intent.expires.instant ≤ t.instant := by
  have keyed := reached.keyed.intents
  obtain ⟨late, queue, count⟩ : ∃ late, store.LateQueue t late ∧
      late.length = (store.intents.filter (isDue t)).length := by
    refine ⟨_, (Table.byTime_queue keyed).congr isDue_iff, ?_⟩
    rw [Table.byTime, List.length_mergeSort]
  have low : -Column.wordLimit ≤ limit := by
    rw [Column.wordLimit]
    omega
  obtain ⟨n, rfl⟩ := Int.eq_ofNat_of_zero_le (by omega : 0 ≤ limit)
  have whole : Table.upTo (some (n : Int)) late = late := by
    rw [Table.upTo_ofNat, List.take_of_length_le]
    omega
  rw [ListsDue, due_eq_ok keyed zoned inside low fits queue, whole]
  constructor
  · rintro ⟨_, ⟨⟩, listed⟩
    obtain ⟨other, waits, same⟩ := List.mem_map.mp listed
    obtain ⟨present, expired⟩ := (queue.mem_iff other).mp waits
    rw [← List.inj_on_of_nodup_map keyed present member same]
    exact expired.2
  · intro expired
    exact ⟨_, rfl, List.mem_map_of_mem ((queue.mem_iff intent).mpr ⟨member, pending, expired⟩)⟩

/-- Without a form in UTC there is no look-up of either kind. -/
theorem look_ups_off_calendar (store : Store) (bucket : Bucket) (limit : Int)
    (outside : Timestamp.onCalendar t.instant = false) :
    store.candidates bucket t = .error .unstorable ∧ store.due t limit = .error .unstorable := by
  have unkept : Column.moment t = .error .unstorable := by
    simp [Column.moment, Timestamp.toUtc?, outside]
  exact ⟨bind_of_error unkept, bind_of_error unkept⟩

end Partition

/-- Nothing was observed, and what was recorded is for deposits observed before and links no
intent. -/
structure OnlyMarked (before after : Store) : Prop where
  observed : after.observed = before.observed
  attributions : ∀ row ∈ after.attributions, row ∈ before.attributions ∨
    row.intent = none ∧ (before.observed? row.txHash).isSome

namespace OnlyMarked

variable {first second third : Store}

theorem of_eq (observed : second.observed = first.observed)
    (attributions : second.attributions = first.attributions) : OnlyMarked first second := by
  refine ⟨observed, ?_⟩
  rw [attributions]
  exact fun row member => Or.inl member

theorem trans (early : OnlyMarked first second) (late : OnlyMarked second third) :
    OnlyMarked first third := by
  refine ⟨late.observed.trans early.observed, ?_⟩
  intro row member
  rcases late.attributions row member with member | ⟨unlinked, seen⟩
  · exact early.attributions row member
  · refine Or.inr ⟨unlinked, ?_⟩
    rwa [observed?, early.observed] at seen

theorem markUnattributed {store after : Store} {deposit : Deposit} {now : Timestamp}
    {told : Attribution} (seen : (store.observed? deposit.txHash).isSome)
    (done : store.markUnattributed deposit now = .ok (told, after)) : OnlyMarked store after := by
  obtain ⟨-, rfl, -, row, made, rfl⟩ := commit_eq_ok done
  obtain ⟨hash, linked, -⟩ := attributionRow_eq_ok made
  refine ⟨rfl, ?_⟩
  intro other member
  rcases (Table.mem_insert Attribution.txHash).mp member with rfl | member
  · refine Or.inr ⟨linked, ?_⟩
    rw [hash]
    exact seen
  · exact Or.inl member

end OnlyMarked

end Store

open Store (OnlyMarked)

theorem markAll_onlyMarked (now : Timestamp) (deposits : List Deposit) (store : Store)
    (seen : ∀ deposit ∈ deposits, (store.observed? deposit.txHash).isSome) :
    OnlyMarked store (markAll now [] store deposits).store := by
  induction deposits generalizing store with
  | nil => exact .of_eq rfl rfl
  | cons deposit rest ih =>
    have tail : ∀ other ∈ rest, (store.observed? other.txHash).isSome :=
      fun other member => seen other (List.mem_cons_of_mem _ member)
    cases result : store.markUnattributed deposit now with
    | ok marked =>
      have first : OnlyMarked store marked.2 :=
        .markUnattributed (seen deposit List.mem_cons_self) result
      rw [(Traffic.markAll_ok rest result).1]
      refine first.trans (ih marked.2 ?_)
      intro other member
      rw [Store.observed?, first.observed]
      exact tail other member
    | error fault =>
      by_cases late : ∃ txHash, fault = .duplicateAttribution txHash
      · obtain ⟨txHash, rfl⟩ := late
        rw [(Traffic.markAll_duplicate rest result).1]
        exact ih store tail
      · rw [(Traffic.markAll_error rest result fun txHash same => late ⟨txHash, same⟩).1]
        exact .of_eq rfl rfl

/-- An intent that still expects deposits stays as it is. -/
theorem Store.Keeps.live {store after : Store} {t : Timestamp}
    (keeps : Keeps (Expires t) store after) {intent : Intent} (member : intent ∈ store.intents)
    (live : t.instant < intent.expires.instant) : intent ∈ after.intents := by
  rcases keeps.intents intent member with same | ⟨-, status, expires, -⟩
  · exact same
  · exact absurd expires.1 (not_le.mpr live)

namespace Engine

variable {engine : Engine} {t : Timestamp}

/-- A sweep observes nothing and records nothing but deposits observed before. -/
theorem sweep_onlyMarked (engine : Engine) (t : Timestamp) :
    OnlyMarked engine.store (engine.sweep t []).engine.store := by
  unfold sweep
  dsimp only
  split
  · exact .of_eq rfl rfl
  · rename_i expired store done
    obtain ⟨ids, -, moved⟩ := bind_eq_ok.mp done
    obtain ⟨observed, attributions⟩ := engine.store.expireAll_tables ids
    rw [show (engine.store.expireAll ids).2 = store from congrArg Prod.snd (Except.ok.inj moved)]
      at observed attributions
    have first : OnlyMarked engine.store store := .of_eq observed attributions
    split
    · exact first
    · rename_i deposits found
      have marked : OnlyMarked engine.store (markAll t [] store deposits).store := by
        refine first.trans (markAll_onlyMarked t deposits store ?_)
        intro deposit member
        obtain ⟨-, row, inside, rfl, -⟩ := Store.exists_observed_of_stale found member
        exact Store.observed?_of_mem inside
      split <;> exact marked

/-- A sweep leaves the intents that still expect deposits as they are, and adds none. -/
theorem mem_sweep_iff (keyed : engine.store.Keyed) {intent : Intent}
    (live : t.instant < intent.expires.instant) :
    intent ∈ engine.store.intents ↔ intent ∈ (engine.sweep t []).engine.store.intents := by
  have keeps := sweep_keeps engine t keyed
  constructor
  · intro member
    exact keeps.live member live
  · intro member
    obtain ⟨old, inside, status, rfl⟩ := sweep_descends engine t intent member
    have still := keeps.live inside live
    have keyedAfter : (engine.sweep t []).engine.store.Keyed :=
      keyed.changes (act_changes engine (.sweep t))
    rwa [List.inj_on_of_nodup_map keyedAfter.intents member still rfl]

/-- A sweep touches nothing that the delivery of a new and later deposit looks at. -/
theorem sweep_alike (keyed : engine.store.Keyed) {deposit : Deposit}
    (later : t.instant ≤ deposit.confirmed.instant)
    (new : engine.store.observed? deposit.txHash = none) :
    Alike deposit engine.store (engine.sweep t []).engine.store := by
  have keeps := sweep_keeps engine t keyed
  have marked := sweep_onlyMarked engine t
  refine ⟨?_, ?_, ?_, ?_⟩
  · intro intent waits
    exact mem_sweep_iff keyed (later.trans_lt (Store.awaits_live waits))
  · intro row _
    rw [marked.observed]
  · intro row same
    refine ⟨keeps.attributions row, fun member => ?_⟩
    rcases marked.attributions row member with old | ⟨-, seen⟩
    · exact old
    · rw [same, new] at seen
      cases seen
  · intro intent _ _ row linked
    refine ⟨keeps.attributions row, fun member => ?_⟩
    rcases marked.attributions row member with old | ⟨unlinked, -⟩
    · exact old
    · rw [unlinked] at linked
      cases linked

theorem sweep_settings (engine : Engine) (t : Timestamp) :
    (engine.sweep t []).engine.settings = engine.settings := by
  unfold sweep
  dsimp only
  split
  · rfl
  · split
    · rfl
    · split <;> rfl

/-- A sweep right before it makes no difference to the delivery of a deposit that was not observed
before and was confirmed no earlier: the result is the same, and so are, in the end, all intents
that the sweep found still alive. For at any instant that has a form in UTC a pending intent either
is found for the deposits of its bucket or is listed as due, and never both. Without such a form
neither look-up has a result. -/
theorem sweeps_spare_later_deposits :
    (∀ (engine : Engine) (parcel : Parcel) (deposit : Deposit) (t now : Timestamp),
      engine.store.Reached → parcel.read = .ok deposit →
      t.instant ≤ deposit.confirmed.instant → engine.store.observed? deposit.txHash = none →
      ((engine.sweep t []).engine.receive parcel now).result =
        (engine.receive parcel now).result ∧
      ∀ intent ∈ engine.store.intents, t.instant < intent.expires.instant →
        ∃ row, (engine.receive parcel now).engine.store.intent? intent.id = some row ∧
          ((engine.sweep t []).engine.receive parcel now).engine.store.intent? intent.id =
            some row) ∧
    ∀ (store : Store) (intent : Intent) (t : Timestamp) (limit : Int),
      store.Reached → intent ∈ store.intents → intent.status = .pending → t.isNaive = false →
      (store.intents.filter (Store.isDue t)).length ≤ limit → limit < Column.wordLimit →
      (Timestamp.onCalendar t.instant = true →
        Xor (store.Yields t intent) (store.ListsDue t limit intent)) ∧
      (Timestamp.onCalendar t.instant = false →
        store.candidates intent.bucket t = .error .unstorable ∧
          store.due t limit = .error .unstorable) := by
  refine ⟨?_, ?_⟩
  · intro engine parcel deposit t now reached read later new
    have keyed := reached.keyed
    have keyedAfter : (engine.sweep t []).engine.store.Keyed :=
      keyed.changes (act_changes engine (.sweep t))
    have alike := receive_alike (sweep_settings engine t) keyed keyedAfter read
      (sweep_alike keyed later new) now
    refine ⟨alike.result, ?_⟩
    intro intent member live
    obtain ⟨entries, -, here, there⟩ := alike.entries
    have still := (mem_sweep_iff keyed live).mp member
    rw [here, there, Store.intent?_enterAll, Store.intent?_enterAll,
      Store.intent?_of_mem keyed.intents member, Store.intent?_of_mem keyedAfter.intents still]
    exact ⟨_, rfl, rfl⟩
  · intro store intent t limit reached member pending zoned enough fits
    refine ⟨fun inside => ?_, store.look_ups_off_calendar intent.bucket limit⟩
    rw [Store.yields_iff reached member pending zoned inside,
      Store.listsDue_iff reached member pending zoned inside enough fits]
    rcases lt_or_ge t.instant intent.expires.instant with live | expired
    · exact Or.inl ⟨live, not_le.mpr live⟩
    · exact Or.inr ⟨expired, not_lt.mpr expired⟩

/-- An engine with an intent that expires after 15 minutes and one that is declared then. -/
def Expiry.holding : Engine :=
  (start .usual).run [.declare (Vaults.declaration "i" "v") (.utc 0),
    .declare (Vaults.declaration "j" "v") (.utc 900000000)]

def Expiry.deposit : Deposit :=
  { Vaults.into "t" "v" with confirmed := .utc 900000000 }

theorem Expiry.holds :
    (holding.store.intents.find? fun intent =>
      intent.id = "i" ∧ intent.status = .pending).isSome = true ∧
    holding.store.intents.length = 2 ∧
    (holding.store.observed? deposit.txHash).isNone = true := by
  decide +kernel

theorem Expiry.exists_pending :
    ∃ intent ∈ holding.store.intents, intent.id = "i" ∧ intent.status = .pending := by
  obtain ⟨intent, member, same⟩ := List.find?_isSome.mp holds.1
  exact ⟨intent, member, by simpa using same⟩

/-- A limit of two is large enough. -/
theorem Expiry.few (t : Timestamp) :
    (holding.store.intents.filter (Store.isDue t)).length ≤ (2 : Int) := by
  have filtered := List.length_filter_le (Store.isDue t) holding.store.intents
  rw [holds.2.1] at filtered
  omega

/-- The deposit is matched with the second intent, with a sweep or without, and the first is listed
as due. A clock at the start of year 1 that is ahead of UTC has no form in it. -/
theorem sweeps_spare_later_deposits_boundary :
    Vaults.matched (Expiry.holding.receive (.parsed Expiry.deposit) (.utc 900000000)) =
      some "j" ∧
    ((Expiry.holding.sweep (.utc 900000000) []).engine.receive (.parsed Expiry.deposit)
      (.utc 900000000)).result =
        (Expiry.holding.receive (.parsed Expiry.deposit) (.utc 900000000)).result ∧
    (∃ intent ∈ Expiry.holding.store.intents, intent.id = "i" ∧
      Xor (Expiry.holding.store.Yields (.utc 900000000) intent)
        (Expiry.holding.store.ListsDue (.utc 900000000) 2 intent)) ∧
    Expiry.holding.store.due ⟨Timestamp.firstWall, some 1⟩ 2 = .error .unstorable := by
  obtain ⟨deliveries, lookUps⟩ := sweeps_spare_later_deposits
  have reached : Expiry.holding.store.Reached := run_changes (start .usual) _
  obtain ⟨intent, member, named, pending⟩ := Expiry.exists_pending
  refine ⟨by decide +kernel, ?_, ⟨intent, member, named, ?_⟩, ?_⟩
  · exact (deliveries Expiry.holding _ _ (.utc 900000000) (.utc 900000000) reached rfl (le_refl _)
      (Option.isNone_iff_eq_none.mp Expiry.holds.2.2)).1
  · exact (lookUps _ intent (.utc 900000000) 2 reached member pending rfl
      (Expiry.few _) (by decide)).1 (by decide)
  · exact ((lookUps _ intent ⟨Timestamp.firstWall, some 1⟩ 2 reached member pending rfl
      (Expiry.few _) (by decide)).2 (by decide)).2

/-- Without a form in UTC a pending intent is neither found nor listed. -/
theorem neither_look_up_before_calendar :
    ¬ ∀ (store : Store) (intent : Intent) (t : Timestamp) (limit : Int),
      store.Reached → intent ∈ store.intents → intent.status = .pending → t.isNaive = false →
      (store.intents.filter (Store.isDue t)).length ≤ limit → limit < Column.wordLimit →
      Xor (store.Yields t intent) (store.ListsDue t limit intent) := by
  intro divided
  have reached : Expiry.holding.store.Reached := run_changes (start .usual) _
  obtain ⟨intent, member, -, pending⟩ := Expiry.exists_pending
  obtain ⟨noCandidates, noneDue⟩ := Expiry.holding.store.look_ups_off_calendar intent.bucket 2
    (by decide : Timestamp.onCalendar (Timestamp.instant ⟨Timestamp.firstWall, some 18000⟩) = false)
  rcases divided Expiry.holding.store intent ⟨Timestamp.firstWall, some 18000⟩ 2 reached member
      pending rfl (Expiry.few _) (by decide) with ⟨⟨found, yields, -⟩, -⟩ | ⟨⟨ids, due, -⟩, -⟩
  · rw [noCandidates] at yields
    cases yields
  · rw [noneDue] at due
    cases due

end Engine

end Reconcile
