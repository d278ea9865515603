import Reconcile.Proofs.Store.Columns
import Reconcile.Proofs.Table

set_option autoImplicit false

/-
What the writes do to the tables. Each write is given once, with all that it checks and all that
it leaves, so that later proofs need not open it.
-/
namespace Reconcile.Store

theorem insertObserved_eq_ok {store after : Store} {deposit : Deposit} {now : Timestamp}
    (done : store.insertObserved deposit now = .ok (some after)) :
    store.observed? deposit.txHash = none ∧ ∃ row : Observed,
      row.deposit.txHash = deposit.txHash ∧
      after = { store with observed := Table.insert (·.deposit.txHash) row store.observed } := by
  obtain ⟨absent, row, passes, same⟩ := insertObserved_passes done
  exact ⟨absent, row, passes.txHash.symm, same⟩

theorem insertObserved_eq_none {store : Store} {deposit : Deposit} {now : Timestamp}
    (done : store.insertObserved deposit now = .ok none) :
    (store.observed? deposit.txHash).isSome := by
  obtain ⟨amount, -, done⟩ := bind_eq_ok.mp done
  obtain ⟨shares, -, done⟩ := bind_eq_ok.mp done
  obtain ⟨confirmed, -, done⟩ := bind_eq_ok.mp done
  obtain ⟨observed, -, done⟩ := bind_eq_ok.mp done
  obtain ⟨chain, -, done⟩ := bind_eq_ok.mp done
  split at done
  · assumption
  · cases done

theorem insertIntent_eq_ok {store after : Store} {intent : Intent}
    (done : store.insertIntent intent = .ok after) :
    store.intent? intent.id = none ∧ ∃ row : Intent,
      row.id = intent.id ∧ row.status = intent.status ∧
      after = { store with intents := Table.insert Intent.id row store.intents } := by
  obtain ⟨row, made, done⟩ := bind_eq_ok.mp done
  have passes := intentRow_passes made
  dsimp only at done
  split at done
  · cases done
  · rename_i absent
    exact ⟨by simpa using absent, row, passes.id.symm, passes.status.symm,
      (Except.ok.inj done).symm⟩

theorem attributionRow_eq_ok {attribution row : Attribution}
    (made : attributionRow attribution = .ok row) :
    row.txHash = attribution.txHash ∧ row.intent = attribution.intent ∧
      row.partner = attribution.partner ∧ row.source = attribution.source ∧
      Column.decimal attribution.confidence = .ok row.confidence := by
  have passes := attributionRow_passes made
  have rest := passes.rest
  exact ⟨passes.txHash.symm, (congrArg Attribution.intent rest :),
    (congrArg Attribution.partner rest :), (congrArg Attribution.source rest :),
    passes.confidence⟩

/-- An intent that a decision links is taken before the decision is recorded. -/
theorem permits_eq_ok {store : Store} {txHash : String} {decision : Decision}
    (permitted : store.permits txHash decision = .ok ()) :
    store.attribution? txHash = none ∧ ∀ id, decision.intent = some id →
      ∃ intent, store.intent? id = some intent ∧ intent.status = .matched := by
  obtain ⟨-, -, permitted⟩ := bind_eq_ok.mp permitted
  dsimp only at permitted
  split at permitted
  · cases permitted
  · rename_i absent
    refine ⟨by simpa using absent, ?_⟩
    intro id linked
    rw [linked] at permitted
    dsimp only at permitted
    split at permitted
    · rename_i intent found
      split at permitted
      · rename_i matched
        exact ⟨intent, found, matched⟩
      · cases permitted
    · cases permitted

theorem linkTaken_eq_false {store : Store} {attribution : Attribution}
    (free : store.linkTaken attribution = false) {id : String}
    (linked : attribution.intent = some id) :
    ∀ row ∈ store.attributions, row.intent ≠ some id := by
  simpa [linkTaken, linked, linking?] using free

theorem commit_eq_ok {store after : Store} {txHash : String} {decision : Decision}
    {now : Timestamp} {attribution : Attribution}
    (done : store.commit txHash decision now = .ok (attribution, after)) :
    store.permits txHash decision = .ok () ∧
      attribution = .ofDecision txHash decision now ∧
      store.linkTaken attribution = false ∧ ∃ row, attributionRow attribution = .ok row ∧
      after = { store with
        attributions := Table.insert Attribution.txHash row store.attributions } := by
  obtain ⟨⟨⟩, permitted, done⟩ := bind_eq_ok.mp done
  obtain ⟨row, made, done⟩ := bind_eq_ok.mp done
  dsimp only at done
  split at done
  · cases done
  · rename_i free
    cases done
    exact ⟨permitted, rfl, by simpa using free, row, made, rfl⟩

@[simp] theorem move_observed (store : Store) (id : String) (status : Status) :
    (store.move id status).2.observed = store.observed := by
  unfold move
  split <;> rfl

@[simp] theorem move_attributions (store : Store) (id : String) (status : Status) :
    (store.move id status).2.attributions = store.attributions := by
  unfold move
  split <;> rfl

@[simp] theorem move_fst (store : Store) (id : String) (status : Status) :
    (store.move id status).1 = store.isPending id := by
  unfold move
  split <;> simp [*]

theorem intent?_move (store : Store) (id other : String) (status : Status) :
    (store.move id status).2.intent? other = (store.intent? other).map fun intent =>
      if other = id ∧ intent.isPending then { intent with status } else intent := by
  unfold move
  split
  · rename_i pending
    have updated := Table.find?_update Intent.id id other
      (fun intent => { intent with status }) store.intents fun _ => rfl
    simp only [intent?, updated]
    cases found : Table.find? Intent.id other store.intents with
    | none => rfl
    | some intent =>
      by_cases named : other = id
      · have holds : intent.isPending := by
          simpa only [isPending, intent?, ← named, found] using pending
        simp [named, holds]
      · simp [named]
  · rename_i notPending
    cases found : store.intent? other with
    | none => rfl
    | some intent =>
      have kept : ¬ (other = id ∧ intent.isPending) := by
        rintro ⟨rfl, holds⟩
        simp [isPending, found, holds] at notPending
      simp [kept]

/-- The tables as they are after a claim: the intent was pending and is matched now. Nothing is
claimed for a decision that links no intent. -/
def Claims (store claimed : Store) : Option String → Prop
  | none => claimed = store
  | some id => store.isPending id = true ∧ claimed = (store.move id .matched).2

theorem claims_unattributed (store : Store) (deposit : Deposit) :
    store.Claims store (Decision.unattributed deposit).intent := rfl

theorem Claims.observed {store claimed : Store} {intent : Option String}
    (claims : store.Claims claimed intent) : claimed.observed = store.observed := by
  cases intent with
  | none => rw [claims]
  | some id => rw [claims.2, move_observed]

theorem Claims.attributions {store claimed : Store} {intent : Option String}
    (claims : store.Claims claimed intent) : claimed.attributions = store.attributions := by
  cases intent with
  | none => rw [claims]
  | some id => rw [claims.2, move_attributions]

theorem move_sorted {store : Store} (id : String) (status : Status)
    (sorted : Table.Sorted Intent.id store.intents) :
    Table.Sorted Intent.id (store.move id status).2.intents := by
  unfold move
  split
  · exact Table.update_sorted Intent.id id _ (fun _ => rfl) sorted
  · exact sorted

theorem intent?_deleteIntent (store : Store) (id other : String) :
    (store.deleteIntent id).intent? other = if other = id then none else store.intent? other := by
  simp only [intent?, deleteIntent, Table.find?, List.find?_filter]
  by_cases named : other = id
  · simp [named]
  · rw [if_neg named]
    congr 1
    funext row
    by_cases here : row.id = other <;> simp [here, named]

end Reconcile.Store
