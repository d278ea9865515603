import Reconcile.Proofs.Engine.Declaring
import Reconcile.Proofs.Engine.Frame
import Reconcile.Proofs.Matching.Scoring
import Reconcile.Proofs.Store.Reached

set_option autoImplicit false

/-
Where intents come from. Only a declaration adds one; everything else may change the status of an
intent and nothing more. So every intent in the tables goes back to one of the operations, which
declared it, and to the payload of that declaration.
-/
namespace Reconcile

open Decimal (Rounds)

/-- The intent was made of the payload of a declaration, and its row is as the columns give it
back. -/
structure Intent.Declared (payload : Json) (intent : Intent) : Prop where
  origin : ∃ sent, Payload.Holds payload ["amount"] sent ∧ 0 < sent.toRat ∧
    sent.normalize = .ok intent.amount
  created : Column.moment intent.created = .ok intent.created
  expires : Column.moment intent.expires = .ok intent.expires
  lasts : intent.created.instant < intent.expires.instant

theorem Intent.Declared.moved {payload : Json} {intent : Intent}
    (declared : intent.Declared payload) (status : Status) :
    { intent with status }.Declared payload :=
  ⟨declared.origin, declared.created, declared.expires, declared.lasts⟩

theorem Intent.Declared.kept {payload : Json} {intent : Intent}
    (declared : intent.Declared payload) : intent.Kept := by
  obtain ⟨sent, held, above, made⟩ := declared.origin
  have rounds := Decimal.rounds_of_normalize held.isFinite made
  exact ⟨rounds.amount above.le, declared.created, declared.expires⟩

namespace Store

/-- Every intent was there before, apart from its status. -/
def Descends (before after : Store) : Prop :=
  ∀ intent ∈ after.intents, ∃ old ∈ before.intents, ∃ status, intent = { old with status }

namespace Descends

variable {first second third : Store}

theorem of_eq (same : second.intents = first.intents) : Descends first second := by
  intro intent member
  rw [same] at member
  exact ⟨intent, member, intent.status, rfl⟩

theorem refl (store : Store) : Descends store store := of_eq rfl

theorem trans (early : Descends first second) (late : Descends second third) :
    Descends first third := by
  intro intent member
  obtain ⟨middle, inside, status, rfl⟩ := late intent member
  obtain ⟨old, present, earlier, rfl⟩ := early middle inside
  exact ⟨old, present, status, rfl⟩

theorem keeps {kept : Intent → Prop} (descends : Descends first second)
    (moves : ∀ {intent : Intent}, kept intent → ∀ status, kept { intent with status })
    (all : ∀ intent ∈ first.intents, kept intent) : ∀ intent ∈ second.intents, kept intent := by
  intro intent member
  obtain ⟨old, inside, status, rfl⟩ := descends intent member
  exact moves (all old inside) status

end Descends

theorem move_descends (store : Store) (id : String) (status : Status) :
    Descends store (store.move id status).2 := by
  intro intent member
  unfold move at member
  split at member
  · obtain ⟨old, inside, rfl⟩ := List.mem_map.mp member
    refine ⟨old, inside, ?_⟩
    split
    · exact ⟨status, rfl⟩
    · exact ⟨old.status, rfl⟩
  · exact ⟨intent, member, intent.status, rfl⟩

theorem commit_descends {store after : Store} {txHash : String} {decision : Decision}
    {now : Timestamp} {attribution : Attribution}
    (done : store.commit txHash decision now = .ok (attribution, after)) :
    Descends store after := by
  obtain ⟨-, -, -, row, -, rfl⟩ := commit_eq_ok done
  exact .of_eq rfl

/-- What every row of an intent has and keeps when it moves holds of all the intents. -/
theorem Reached.forall_intents {kept : Intent → Prop} {store : Store} (reached : store.Reached)
    (enters : ∀ {intent row : Intent}, intentRow intent = .ok row → kept row)
    (moves : ∀ {intent : Intent}, kept intent → ∀ status, kept { intent with status }) :
    ∀ intent ∈ store.intents, kept intent := by
  induction reached with
  | refl => exact List.forall_mem_nil _
  | @tail store after _ change ih =>
    cases change with
    | observed done =>
      obtain ⟨-, row, -, rfl⟩ := insertObserved_eq_ok done
      exact ih
    | declared pending done =>
      obtain ⟨row, made, -, rfl⟩ := insertIntent_eq_row done
      intro intent member
      rcases (Table.mem_insert Intent.id).mp member with rfl | member
      · exact enters made
      · exact ih intent member
    | moved id other => exact (move_descends store id _).keeps moves ih
    | recorded claims done =>
      refine (commit_descends done).keeps moves ?_
      rcases claims.eq_or_move with rfl | ⟨id, -, rfl⟩
      · exact ih
      · exact (move_descends store id .matched).keeps moves ih

theorem expireAll_descends (store : Store) (ids : List String) :
    Descends store (store.expireAll ids).2 := by
  induction ids generalizing store with
  | nil => exact .refl store
  | cons id rest ih => exact (move_descends store id .expired).trans (ih _)

end Store

open Store (Descends)

namespace Delivery

theorem Task.Leads.descends {task : Task} {store after : Store} {stage next : Stage}
    (leads : Leads task false store stage next after) : Descends store after := by
  cases leads with
  | observed done =>
    obtain ⟨-, row, -, rfl⟩ := Store.insertObserved_eq_ok done
    exact .of_eq rfl
  | @recorded _ decision claimed _ _ decides claims done =>
    refine Descends.trans ?_ (Store.commit_descends done)
    rcases (claims.resolve_left Bool.false_ne_true).eq_or_move with rfl | ⟨id, -, rfl⟩
    · exact .refl _
    · exact Store.move_descends store id .matched
  | _ => exact .refl _

theorem run_descends (task : Task) (fuel : Nat) (progress : Progress) :
    Descends progress.store (run task fuel .absent progress).store := by
  have step (stage : Stage) (store : Store) (sofar : Descends progress.store store) :
      Descends progress.store (task.step false stage store).store :=
    sofar.trans (task.step_leads false stage store).descends
  exact run_invariant task step fuel progress (.refl _)

end Delivery

theorem markAll_descends (now : Timestamp) (deposits : List Deposit) (store : Store) :
    Descends store (markAll now [] store deposits).store := by
  induction deposits generalizing store with
  | nil => exact .refl _
  | cons deposit rest ih =>
    cases result : store.markUnattributed deposit now with
    | ok marked =>
      rw [(Traffic.markAll_ok rest result).1]
      exact (Store.commit_descends result).trans (ih marked.2)
    | error fault =>
      by_cases late : ∃ txHash, fault = .duplicateAttribution txHash
      · obtain ⟨txHash, rfl⟩ := late
        rw [(Traffic.markAll_duplicate rest result).1]
        exact ih store
      · rw [(Traffic.markAll_error rest result fun txHash same => late ⟨txHash, same⟩).1]
        exact .refl _

namespace Engine

theorem sweep_descends (engine : Engine) (now : Timestamp) :
    Descends engine.store (engine.sweep now []).engine.store := by
  unfold sweep
  dsimp only
  split
  · exact .refl _
  · rename_i expired store done
    obtain ⟨ids, -, moved⟩ := bind_eq_ok.mp done
    have expires : Descends engine.store store := by
      rw [show store = (engine.store.expireAll ids).2 from
        (congrArg Prod.snd (Except.ok.inj moved)).symm]
      exact Store.expireAll_descends engine.store ids
    split
    · exact expires
    · rename_i deposits _
      have marks := expires.trans (markAll_descends now deposits store)
      split <;> exact marks

theorem declare_inserts {engine : Engine} {payload : Json} {now : Timestamp} {made : Intent}
    (done : (engine.declare payload now false).result = .ok made) :
    ∃ row : Intent, row.id = made.id ∧ row.Declared payload ∧
      (engine.declare payload now false).engine.store.intents =
        Table.insert Intent.id row engine.store.intents := by
  obtain ⟨declaration, read, amount, -, lasts, added⟩ := declare_eq_ok done
  obtain ⟨held, above⟩ := Payload.Declaration.read_amount read
  obtain ⟨row, columns, -, placed⟩ := Store.insertIntent_eq_row added
  have passes := Store.intentRow_passes columns
  have same : row.amount = made.amount := by
    have kept := passes.amount
    rw [Column.decimal_eq_ok, Decimal.normalize_idem amount] at kept
    exact (Except.ok.inj kept).symm
  refine ⟨row, passes.id.symm, ⟨⟨declaration.amount, held, above, ?_⟩,
    Column.moment_idem passes.created, Column.moment_idem passes.expires, ?_⟩, ?_⟩
  · rw [same]
    exact amount
  · rw [Column.moment_instant passes.created, Column.moment_instant passes.expires]
    exact lasts
  · rw [placed]

/-- An operation adds no intent, or it declares the one that it adds. -/
theorem act_cases (engine : Engine) (operation : Operation) :
    Descends engine.store (engine.act operation).store ∨
      ∃ payload now made row, operation = .declare payload now ∧
        (engine.declare payload now false).result = .ok made ∧ row.id = made.id ∧
        row.Declared payload ∧
        (engine.act operation).store.intents = Table.insert Intent.id row engine.store.intents := by
  cases operation with
  | declare payload now =>
    cases done : (engine.declare payload now false).result with
    | error fault =>
      refine Or.inl (.of_eq ?_)
      rw [act, (declare_eq_error done).1]
    | ok made =>
      obtain ⟨row, same, declared, added⟩ := declare_inserts done
      exact Or.inr ⟨payload, now, made, row, rfl, done, same, declared, added⟩
  | deliver parcel now =>
    rcases engine.receive_cases parcel now with same | ⟨deposit, same⟩
    · rw [act, same]
      exact Or.inl (.refl _)
    · rw [act, same]
      exact Or.inl (Delivery.run_descends _ _ ⟨.lookUp, engine.store, []⟩)
  | orphan id =>
    rw [act, Traffic.orphan_alone]
    exact Or.inl (Store.move_descends engine.store id .orphan)
  | sweep now => exact Or.inl (sweep_descends engine now)
  | getIntent | getAttribution | listPartner | configure => exact Or.inl (.refl _)

/-- One of the operations declared the intent by the payload. -/
def DeclaredBy (settings : Settings) (operations : List Operation) (payload : Json)
    (intent : Intent) : Prop :=
  ∃ before now after made, operations = before ++ .declare payload now :: after ∧
    (((start settings).run before).declare payload now false).result = .ok made ∧
    intent.id = made.id

theorem DeclaredBy.later {settings : Settings} {operations : List Operation} {payload : Json}
    {intent : Intent} (declares : DeclaredBy settings operations payload intent)
    (operation : Operation) : DeclaredBy settings (operations ++ [operation]) payload intent := by
  obtain ⟨before, now, after, made, rfl, done, same⟩ := declares
  refine ⟨before, now, after ++ [operation], made, ?_, done, same⟩
  rw [List.append_assoc, List.cons_append]

/-- Every intent in the tables was declared by one of the operations. -/
theorem run_declared (settings : Settings) (operations : List Operation) :
    ∀ intent ∈ ((start settings).run operations).store.intents,
      ∃ payload, DeclaredBy settings operations payload intent ∧ intent.Declared payload := by
  induction operations using List.reverseRecOn with
  | nil => exact List.forall_mem_nil _
  | append_singleton operations operation ih =>
    intro intent member
    rw [run_append] at member
    change intent ∈ (((start settings).run operations).act operation).store.intents at member
    rcases act_cases ((start settings).run operations) operation with
      descends | ⟨payload, now, made, row, rfl, done, same, declared, added⟩
    · obtain ⟨old, inside, status, rfl⟩ := descends intent member
      obtain ⟨payload, declares, declared⟩ := ih old inside
      exact ⟨payload, declares.later operation, declared.moved status⟩
    · rw [added] at member
      rcases (Table.mem_insert Intent.id).mp member with rfl | member
      · exact ⟨payload, ⟨operations, now, [], made, rfl, done, same⟩, declared⟩
      · obtain ⟨payload, declares, declared⟩ := ih intent member
        exact ⟨payload, declares.later _, declared⟩

end Engine

end Reconcile
