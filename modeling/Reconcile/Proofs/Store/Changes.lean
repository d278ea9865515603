import Reconcile.Proofs.Store.Links

set_option autoImplicit false

/-
What the operations do to the tables, one transaction at a time. They claim an intent only
together with the record that links it, so every matched intent is linked. They take nothing out:
what is observed and what is attributed stays.
-/
namespace Reconcile.Store

open Relation (ReflTransGen)

/-- What one transaction of an operation leaves. -/
inductive Change (store : Store) : Store → Prop
  | observed {deposit : Deposit} {now : Timestamp} {after : Store}
      (done : store.insertObserved deposit now = .ok (some after)) : Change store after
  | declared {intent : Intent} {after : Store} (pending : intent.status = .pending)
      (done : store.insertIntent intent = .ok after) : Change store after
  | moved (id : String) {status : Status} (other : status ≠ .matched) :
      Change store (store.move id status).2
  | recorded {claimed after : Store} {txHash : String} {decision : Decision} {now : Timestamp}
      {attribution : Attribution} (claims : store.Claims claimed decision.intent)
      (done : claimed.commit txHash decision now = .ok (attribution, after)) : Change store after

theorem Change.writes {store after : Store} (change : Change store after) :
    ReflTransGen Write store after := by
  cases change with
  | observed done => exact .single (.observed done)
  | declared pending done => exact .single (.declared done)
  | moved id other => exact .single (.moved id _)
  | @recorded claimed _ _ decision _ _ claims done =>
    cases linked : decision.intent with
    | none =>
      rw [linked] at claims
      subst claims
      exact .single (.recorded done)
    | some id =>
      rw [linked] at claims
      obtain ⟨-, rfl⟩ := claims
      exact .head (.moved id .matched) (.single (.recorded done))

/-- Every matched intent is linked. -/
def Paired (store : Store) : Prop :=
  ∀ id intent, store.intent? id = some intent → intent.status = .matched →
    ∃ row ∈ store.attributions, row.intent = some id

theorem empty_paired : Paired empty := by
  intro id intent found
  cases found

theorem Paired.declared {store after : Store} {intent : Intent} (paired : Paired store)
    (pending : intent.status = .pending) (done : store.insertIntent intent = .ok after) :
    Paired after := by
  obtain ⟨absent, row, sameId, sameStatus, rfl⟩ := insertIntent_eq_ok done
  have fresh : ∀ other ∈ store.intents, other.id ≠ row.id := by
    rw [sameId]
    exact (Table.find?_eq_none_iff _).mp absent
  intro id other found matched
  rw [intent?, Table.find?_insert Intent.id id fresh] at found
  split at found
  · cases found
    rw [sameStatus, pending] at matched
    cases matched
  · exact paired id other found matched

theorem Paired.moved {store : Store} (paired : Paired store) (id : String) {status : Status}
    (other : status ≠ .matched) : Paired (store.move id status).2 := by
  intro link intent found matched
  rw [intent?_move] at found
  obtain ⟨old, present, rfl⟩ := Option.map_eq_some_iff.mp found
  rw [move_attributions]
  split at matched
  · exact absurd matched other
  · exact paired link old present matched

/-- The only intent that a claim moves to matched is linked by the record that comes with it. -/
theorem Paired.recorded {store claimed after : Store} {txHash : String} {decision : Decision}
    {now : Timestamp} {attribution : Attribution} (paired : Paired store)
    (claims : store.Claims claimed decision.intent)
    (done : claimed.commit txHash decision now = .ok (attribution, after)) : Paired after := by
  obtain ⟨-, rfl, -, row, made, rfl⟩ := commit_eq_ok done
  have linked : row.intent = decision.intent := (attributionRow_eq_ok made).2.1
  have kept : ∀ id, (∃ other ∈ store.attributions, other.intent = some id) →
      ∃ other ∈ Table.insert Attribution.txHash row claimed.attributions,
        other.intent = some id := by
    rintro id ⟨other, member, same⟩
    refine ⟨other, ?_, same⟩
    rw [claims.attributions]
    exact (Table.mem_insert Attribution.txHash).mpr (Or.inr member)
  intro id intent found matched
  -- Only the claimed intent can be newly matched, and the new row is the one that links it.
  cases decides : decision.intent with
  | none =>
    rw [decides] at claims
    subst claims
    exact kept id (paired id intent found matched)
  | some taken =>
    rw [decides] at claims linked
    obtain ⟨-, rfl⟩ := claims
    change (store.move taken .matched).2.intent? id = some intent at found
    rw [intent?_move] at found
    obtain ⟨old, present, rfl⟩ := Option.map_eq_some_iff.mp found
    split at matched
    · rename_i here
      refine ⟨row, (Table.mem_insert Attribution.txHash).mpr (Or.inl rfl), ?_⟩
      rw [linked, here.1]
    · exact kept id (paired id old present matched)

theorem Paired.change {store after : Store} (paired : Paired store)
    (change : Change store after) : Paired after := by
  cases change with
  | observed done =>
    obtain ⟨-, row, -, rfl⟩ := insertObserved_eq_ok done
    exact paired
  | declared pending done => exact paired.declared pending done
  | moved id other => exact paired.moved id other
  | recorded claims done => exact paired.recorded claims done

theorem Paired.changes {store after : Store} (paired : Paired store)
    (changes : ReflTransGen Change store after) : Paired after := by
  induction changes with
  | refl => exact paired
  | tail _ change ih => exact ih.change change

theorem Sound.changes {store after : Store} (sound : Sound store)
    (changes : ReflTransGen Change store after) : Sound after := by
  induction changes with
  | refl => exact sound
  | tail _ change ih => exact ih.writes change.writes

/-- Rows that link one intent are one row. -/
theorem Sound.eq_of_linked {store : Store} (sound : Sound store) {row other : Attribution}
    {id : String} (member : row ∈ store.attributions) (linked : row.intent = some id)
    (inside : other ∈ store.attributions) (same : other.intent = some id) : other = row := by
  by_contra different
  have symmetric : Std.Symm fun a b : Attribution => ∀ x, a.intent = some x → ∀ y,
      b.intent = some y → x ≠ y :=
    ⟨fun _ _ apart x linkedX y linkedY => (apart y linkedY x linkedX).symm⟩
  exact (List.pairwise_filterMap.mp sound.links).forall inside member different id same id
    linked rfl

/-- In tables that are sound and paired, exactly one row links a matched intent. -/
theorem Paired.unique {store : Store} (paired : Paired store) (sound : Sound store) {id : String}
    {intent : Intent} (found : store.intent? id = some intent)
    (matched : intent.status = .matched) :
    ∃! row, row ∈ store.attributions ∧ row.intent = some id := by
  obtain ⟨row, member, linked⟩ := paired id intent found matched
  refine ⟨row, ⟨member, linked⟩, ?_⟩
  rintro other ⟨inside, same⟩
  exact sound.eq_of_linked member linked inside same

theorem attribution?_of_commit {store after : Store} {txHash : String} {decision : Decision}
    {now : Timestamp} {attribution : Attribution}
    (done : store.commit txHash decision now = .ok (attribution, after)) (other : String) :
    ∃ row, attributionRow attribution = .ok row ∧ after.attribution? other =
      if txHash = other then some row else store.attribution? other := by
  obtain ⟨permitted, rfl, -, row, made, rfl⟩ := commit_eq_ok done
  obtain ⟨absent, -⟩ := permits_eq_ok permitted
  have sameHash : row.txHash = txHash := (attributionRow_eq_ok made).1
  refine ⟨row, made, ?_⟩
  rw [attribution?, Table.find?_insert Attribution.txHash other, sameHash]
  · rfl
  · rw [sameHash]
    exact (Table.find?_eq_none_iff _).mp absent

/-- What a record adds, and that it adds nothing else. -/
theorem attribution?_of_record {store claimed after : Store} {txHash : String}
    {decision : Decision} {now : Timestamp} {attribution : Attribution}
    (claims : store.Claims claimed decision.intent)
    (done : claimed.commit txHash decision now = .ok (attribution, after)) (other : String) :
    ∃ row, attributionRow (.ofDecision txHash decision now) = .ok row ∧ after.attribution? other =
      if txHash = other then some row else store.attribution? other := by
  obtain ⟨row, made, placed⟩ := attribution?_of_commit done other
  rw [(commit_eq_ok done).2.1] at made
  refine ⟨row, made, ?_⟩
  rw [placed, attribution?, attribution?, claims.attributions]

theorem Change.keeps_attribution {store after : Store} (change : Change store after)
    {txHash : String} {row : Attribution} (found : store.attribution? txHash = some row) :
    after.attribution? txHash = some row := by
  cases change with
  | observed done =>
    obtain ⟨-, row, -, rfl⟩ := insertObserved_eq_ok done
    exact found
  | declared pending done =>
    obtain ⟨-, row, -, -, rfl⟩ := insertIntent_eq_ok done
    exact found
  | moved id other => rwa [attribution?, move_attributions]
  | @recorded claimed _ _ _ _ _ claims done =>
    have present : claimed.attribution? txHash = some row := by
      rwa [attribution?, claims.attributions]
    obtain ⟨absent, -⟩ := permits_eq_ok (commit_eq_ok done).1
    obtain ⟨added, -, placed⟩ := attribution?_of_commit done txHash
    rw [placed, if_neg]
    · exact present
    · rintro rfl
      rw [absent] at present
      cases present

theorem changes_keep_attribution {store after : Store} (changes : ReflTransGen Change store after)
    {txHash : String} {row : Attribution} (found : store.attribution? txHash = some row) :
    after.attribution? txHash = some row := by
  induction changes with
  | refl => exact found
  | tail _ change ih => exact change.keeps_attribution ih

end Reconcile.Store
