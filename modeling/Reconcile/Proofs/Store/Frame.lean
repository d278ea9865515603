import Reconcile.Proofs.Store.Changes
import Reconcile.Proofs.Store.Columns

set_option autoImplicit false

/-
What the tables keep. They only grow: a row that is there stays there as it is, but for the status
of an intent, and that changes only once, from pending.
-/
namespace Reconcile.Store

open Relation (ReflTransGen)

structure Keyed (store : Store) : Prop where
  intents : (store.intents.map (·.id)).Nodup
  observed : (store.observed.map (·.deposit.txHash)).Nodup
  attributions : (store.attributions.map (·.txHash)).Nodup

theorem empty_keyed : Keyed empty := ⟨.nil, .nil, .nil⟩

theorem intent?_of_mem {store : Store} {intent : Intent}
    (keyed : (store.intents.map (·.id)).Nodup) (member : intent ∈ store.intents) :
    store.intent? intent.id = some intent :=
  Table.find?_of_nodup Intent.id keyed member

/-- Every row stays as it is, apart from pending intents, which may change to a status. -/
structure Keeps (may : Intent → Status → Prop) (before after : Store) : Prop where
  observed : ∀ row ∈ before.observed, row ∈ after.observed
  attributions : ∀ row ∈ before.attributions, row ∈ after.attributions
  intents : ∀ intent ∈ before.intents, intent ∈ after.intents ∨
    intent.status = .pending ∧ ∃ status, may intent status ∧ { intent with status } ∈ after.intents

namespace Keeps

variable {may : Intent → Status → Prop} {first second third : Store}

theorem refl (may : Intent → Status → Prop) (store : Store) : Keeps may store store :=
  ⟨fun _ member => member, fun _ member => member, fun _ member => Or.inl member⟩

theorem mono {more : Intent → Status → Prop} (keeps : Keeps may first second)
    (allows : ∀ intent ∈ first.intents, ∀ status, may intent status → more intent status) :
    Keeps more first second := by
  refine ⟨keeps.observed, keeps.attributions, ?_⟩
  intro intent member
  rcases keeps.intents intent member with same | ⟨pending, status, allowed, moved⟩
  · exact Or.inl same
  · exact Or.inr ⟨pending, status, allows intent member status allowed, moved⟩

theorem trans (early : Keeps may first second) (late : Keeps may second third) :
    Keeps may first third := by
  refine ⟨fun row member => late.observed row (early.observed row member),
    fun row member => late.attributions row (early.attributions row member), ?_⟩
  intro intent member
  rcases early.intents intent member with same | ⟨pending, status, allowed, moved⟩
  · exact late.intents intent same
  · rcases late.intents _ moved with same | ⟨again, next, allowed, moved⟩
    · exact Or.inr ⟨pending, status, allowed, same⟩
    · -- What has moved to pending is still the same intent.
      have unmoved : { intent with status } = intent := by
        rw [show status = intent.status from again.trans pending.symm]
      exact Or.inr ⟨pending, next, unmoved ▸ allowed, moved⟩

end Keeps

section Writes

variable {store after : Store} (may : Intent → Status → Prop)

theorem insertObserved_keeps {deposit : Deposit} {now : Timestamp}
    (done : store.insertObserved deposit now = .ok (some after)) : Keeps may store after := by
  obtain ⟨-, row, -, rfl⟩ := insertObserved_eq_ok done
  refine ⟨?_, fun _ member => member, fun _ member => Or.inl member⟩
  intro other member
  exact (Table.mem_insert _).mpr (Or.inr member)

theorem insertIntent_keeps {intent : Intent} (done : store.insertIntent intent = .ok after) :
    Keeps may store after := by
  obtain ⟨-, row, -, -, rfl⟩ := insertIntent_eq_ok done
  refine ⟨fun _ member => member, fun _ member => member, ?_⟩
  intro other member
  exact Or.inl ((Table.mem_insert _).mpr (Or.inr member))

theorem commit_keeps {txHash : String} {decision : Decision} {now : Timestamp}
    {attribution : Attribution}
    (done : store.commit txHash decision now = .ok (attribution, after)) :
    Keeps may store after := by
  obtain ⟨-, -, -, row, -, rfl⟩ := commit_eq_ok done
  refine ⟨fun _ member => member, ?_, fun _ member => Or.inl member⟩
  intro other member
  exact (Table.mem_insert _).mpr (Or.inr member)

end Writes

/-- A move to a status: the named intent and no other, and only from pending. -/
def Moves (id : String) (status : Status) (intent : Intent) (next : Status) : Prop :=
  intent.id = id ∧ next = status

theorem move_keeps {store : Store} (keyed : (store.intents.map (·.id)).Nodup) (id : String)
    (status : Status) : Keeps (Moves id status) store (store.move id status).2 := by
  refine ⟨by simp, by simp, ?_⟩
  intro intent member
  unfold move
  split
  · rename_i pending
    by_cases named : intent.id = id
    · -- The row that was found to be pending is this one.
      have found : store.intent? id = some intent := by
        rw [← named]
        exact intent?_of_mem keyed member
      have holds : intent.status = .pending := by
        simpa [isPending, found, Intent.isPending] using pending
      refine Or.inr ⟨holds, status, ⟨named, rfl⟩, ?_⟩
      exact List.mem_map.mpr ⟨intent, member, if_pos named⟩
    · exact Or.inl (List.mem_map.mpr ⟨intent, member, if_neg named⟩)
  · exact Or.inl member

theorem move_map_id (store : Store) (id : String) (status : Status) :
    (store.move id status).2.intents.map (·.id) = store.intents.map (·.id) := by
  unfold move
  split
  · exact Table.update_map_key Intent.id id _ store.intents fun _ => rfl
  · rfl

theorem Keyed.move {store : Store} (keyed : Keyed store) (id : String) (status : Status) :
    Keyed (store.move id status).2 := by
  refine ⟨?_, ?_, ?_⟩
  · rw [move_map_id]
    exact keyed.intents
  · rw [move_observed]
    exact keyed.observed
  · rw [move_attributions]
    exact keyed.attributions

theorem Claims.eq_or_move {store claimed : Store} {intent : Option String}
    (claims : store.Claims claimed intent) :
    claimed = store ∨ ∃ id, intent = some id ∧ claimed = (store.move id .matched).2 := by
  cases intent with
  | none => exact Or.inl claims
  | some id => exact Or.inr ⟨id, rfl, claims.2⟩

theorem Claims.keyed {store claimed : Store} {intent : Option String}
    (claims : store.Claims claimed intent) (keyed : Keyed store) : Keyed claimed := by
  rcases claims.eq_or_move with rfl | ⟨id, -, rfl⟩
  · exact keyed
  · exact keyed.move id .matched

theorem record_keeps {store claimed after : Store} {txHash : String} {decision : Decision}
    {now : Timestamp} {attribution : Attribution} (keyed : Keyed store)
    (claims : store.Claims claimed decision.intent)
    (done : claimed.commit txHash decision now = .ok (attribution, after)) :
    Keeps (fun intent status => decision.intent = some intent.id ∧ status = .matched) store
      after := by
  refine .trans ?_ (commit_keeps _ done)
  rcases claims.eq_or_move with rfl | ⟨id, linked, rfl⟩
  · exact .refl _ _
  · refine (move_keeps keyed.intents id .matched).mono ?_
    rintro intent - status ⟨rfl, rfl⟩
    exact ⟨linked, rfl⟩

theorem Keyed.change {store after : Store} (keyed : Keyed store) (change : Change store after) :
    Keyed after := by
  cases change with
  | observed done =>
    obtain ⟨absent, row, same, rfl⟩ := insertObserved_eq_ok done
    exact ⟨keyed.intents, Table.insert_nodup _ keyed.observed (same ▸ absent),
      keyed.attributions⟩
  | declared pending done =>
    obtain ⟨absent, row, same, -, rfl⟩ := insertIntent_eq_ok done
    exact ⟨Table.insert_nodup _ keyed.intents (same ▸ absent), keyed.observed,
      keyed.attributions⟩
  | moved id other => exact keyed.move id _
  | @recorded claimed _ _ decision _ _ claims done =>
    have taken := claims.keyed keyed
    obtain ⟨permitted, rfl, -, row, made, rfl⟩ := commit_eq_ok done
    obtain ⟨absent, -⟩ := permits_eq_ok permitted
    have same : row.txHash = _ := (attributionRow_eq_ok made).1
    exact ⟨taken.intents, taken.observed,
      Table.insert_nodup _ taken.attributions (same ▸ absent)⟩

theorem Keyed.changes {store after : Store} (keyed : Keyed store)
    (changes : ReflTransGen Change store after) : Keyed after := by
  induction changes with
  | refl => exact keyed
  | tail _ change ih => exact ih.change change

section Expiry

variable {store : Store} {now : Timestamp}

theorem mem_due {limit : Int} {ids : List String} (found : store.due now limit = .ok ids)
    {id : String} (member : id ∈ ids) :
    ∃ intent ∈ store.intents, intent.id = id ∧ intent.expires.instant ≤ now.instant := by
  obtain ⟨kept, moment, found⟩ := bind_eq_ok.mp found
  obtain ⟨limit, -, found⟩ := bind_eq_ok.mp found
  cases found
  obtain ⟨intent, inside, rfl⟩ := List.mem_map.mp member
  have listed := List.mem_mergeSort.mp (Table.mem_of_mem_upTo inside)
  obtain ⟨present, due⟩ := List.mem_filter.mp listed
  simp only [isDue, Bool.and_eq_true, decide_eq_true_eq] at due
  exact ⟨intent, present, rfl, Column.moment_instant moment ▸ due.2⟩

def Expires (now : Timestamp) (intent : Intent) (next : Status) : Prop :=
  intent.expires.instant ≤ now.instant ∧ next = .expired

theorem mem_intents_move {id : String} {status : Status} {intent : Intent}
    (member : intent ∈ (store.move id status).2.intents) :
    ∃ before ∈ store.intents, before.id = intent.id ∧ before.expires = intent.expires := by
  unfold move at member
  split at member
  · obtain ⟨before, inside, rfl⟩ := List.mem_map.mp member
    refine ⟨before, inside, ?_⟩
    split <;> exact ⟨rfl, rfl⟩
  · exact ⟨intent, member, rfl, rfl⟩

theorem expireAll_keeps (keyed : (store.intents.map (·.id)).Nodup) (ids : List String)
    (late : ∀ intent ∈ store.intents, intent.id ∈ ids →
      intent.expires.instant ≤ now.instant) :
    Keeps (Expires now) store (store.expireAll ids).2 := by
  induction ids generalizing store with
  | nil => exact .refl _ _
  | cons id rest ih =>
    have first : Keeps (Expires now) store (store.move id .expired).2 := by
      refine (move_keeps keyed id .expired).mono ?_
      rintro intent member status ⟨rfl, rfl⟩
      exact ⟨late intent member List.mem_cons_self, rfl⟩
    refine first.trans (ih ?_ ?_)
    · rw [move_map_id]
      exact keyed
    · intro intent member listed
      obtain ⟨before, inside, sameId, sameTime⟩ := mem_intents_move member
      rw [← sameTime]
      exact late before inside (sameId ▸ List.mem_cons_of_mem id listed)

theorem expireDue_keeps {after : Store} {limit : Int} {expired : List String}
    (keyed : (store.intents.map (·.id)).Nodup)
    (done : store.expireDue now limit = .ok (expired, after)) :
    Keeps (Expires now) store after := by
  obtain ⟨ids, found, moved⟩ := bind_eq_ok.mp done
  rw [show after = (store.expireAll ids).2 from (congrArg Prod.snd (Except.ok.inj moved)).symm]
  refine expireAll_keeps keyed ids ?_
  intro intent member listed
  obtain ⟨other, inside, same, late⟩ := mem_due found listed
  -- The two have the same key, so they are the same row.
  have row := intent?_of_mem keyed inside
  rw [same, intent?_of_mem keyed member] at row
  rw [Option.some.inj row]
  exact late

end Expiry

/-- Whatever changes, all rows stay, and no intent moves that is not pending. -/
theorem Change.keeps {store after : Store} (keyed : Keyed store) (change : Change store after) :
    Keeps (fun _ _ => True) store after := by
  cases change with
  | observed done => exact insertObserved_keeps _ done
  | declared pending done => exact insertIntent_keeps _ done
  | moved id other => exact (move_keeps keyed.intents id _).mono fun _ _ _ _ => True.intro
  | recorded claims done => exact (record_keeps keyed claims done).mono fun _ _ _ _ => True.intro

theorem changes_keep {store after : Store} (keyed : Keyed store)
    (changes : ReflTransGen Change store after) : Keeps (fun _ _ => True) store after := by
  induction changes with
  | refl => exact .refl _ _
  | tail earlier change ih => exact ih.trans (change.keeps (keyed.changes earlier))

/-- An intent, at a status that it may have moved to. -/
def Moved (before after : Intent) : Prop :=
  ∃ status, after = { before with status } ∧ (before.status ≠ .pending → status = before.status)

/-- An intent that is found is still found later, and its status has changed at most from
pending. -/
theorem Keeps.intent? {may : Intent → Status → Prop} {store after : Store}
    (keeps : Keeps may store after) (keyed : Keyed after) {id : String} {intent : Intent}
    (found : store.intent? id = some intent) :
    ∃ later, after.intent? id = some later ∧ Moved intent later := by
  obtain ⟨member, rfl⟩ := Table.mem_of_find? _ found
  rcases keeps.intents intent member with same | ⟨pending, status, -, moved⟩
  · exact ⟨intent, intent?_of_mem keyed.intents same, intent.status, rfl,
      fun _ => rfl⟩
  · exact ⟨{ intent with status }, intent?_of_mem keyed.intents moved, status, rfl,
      fun left => absurd pending left⟩

def Lists (store : Store) (intent : Intent) : Prop :=
  ∃ status, { intent with status } ∈ store.intents

theorem Lists.move {store : Store} {intent : Intent} (lists : store.Lists intent) (id : String)
    (status : Status) : (store.move id status).2.Lists intent := by
  obtain ⟨before, member⟩ := lists
  unfold Store.move
  split
  · by_cases named : intent.id = id
    · exact ⟨status, List.mem_map.mpr ⟨_, member, if_pos named⟩⟩
    · exact ⟨before, List.mem_map.mpr ⟨_, member, if_neg named⟩⟩
  · exact ⟨before, member⟩

theorem Lists.change {store after : Store} {intent : Intent} (lists : store.Lists intent)
    (change : Change store after) : after.Lists intent := by
  cases change with
  | observed done =>
    obtain ⟨-, row, -, rfl⟩ := insertObserved_eq_ok done
    exact lists
  | declared pending done =>
    obtain ⟨-, row, -, -, rfl⟩ := insertIntent_eq_ok done
    obtain ⟨status, member⟩ := lists
    exact ⟨status, (Table.mem_insert _).mpr (Or.inr member)⟩
  | moved id other => exact lists.move id _
  | @recorded claimed _ _ decision _ _ claims done =>
    obtain ⟨-, -, -, row, -, rfl⟩ := commit_eq_ok done
    change claimed.Lists intent
    rcases claims.eq_or_move with rfl | ⟨id, -, rfl⟩
    · exact lists
    · exact lists.move id .matched

theorem Lists.changes {store after : Store} {intent : Intent} (lists : store.Lists intent)
    (changes : ReflTransGen Change store after) : after.Lists intent := by
  induction changes with
  | refl => exact lists
  | tail _ change ih => exact ih.change change

theorem Lists.intent? {store : Store} {intent : Intent} (lists : store.Lists intent)
    (keyed : (store.intents.map (·.id)).Nodup) :
    ∃ status, store.intent? intent.id = some { intent with status } := by
  obtain ⟨status, member⟩ := lists
  exact ⟨status, intent?_of_mem keyed member⟩

end Reconcile.Store
