import Reconcile.Proofs.Store.Booked
import Reconcile.Proofs.Traffic.Provenance

set_option autoImplicit false

/-
What is to be counted. A delivery counts once, when it has recorded an attribution of its own. The
labels that it counts under are those of its deposit and of the partner that it decided for; they
are the labels of the intent that it links.
-/
namespace Reconcile

open Relation (ReflTransGen)

/-- What has been written and is to be counted. -/
inductive Due
  | declared (intent : Intent)
  | recorded (bucket : Bucket) (attribution : Attribution)

def Due.count (due : Due) (counters : Counters) : Counters :=
  match due with
  | .declared intent => counters.countCreated intent
  | .recorded bucket attribution => counters.countMatched bucket attribution

/-- The counters when all that is due has been counted. -/
def Counters.settle (counters : Counters) (due : List Due) : Counters :=
  due.foldr Due.count counters

theorem Counters.settle_append (counters : Counters) (first rest : List Due) :
    counters.settle (first ++ rest) = (counters.settle rest).settle first :=
  List.foldr_append

theorem Counters.settle_perm (counters : Counters) {first second : List Due}
    (perm : first.Perm second) :
    (counters.settle first).created.Perm (counters.settle second).created ∧
      (counters.settle first).matched.Perm (counters.settle second).matched := by
  have count (due : Due) {a b : Counters} (created : a.created.Perm b.created)
      (matched : a.matched.Perm b.matched) :
      (due.count a).created.Perm (due.count b).created ∧
        (due.count a).matched.Perm (due.count b).matched := by
    cases due with
    | declared intent => exact ⟨created.cons _, matched⟩
    | recorded bucket attribution =>
      simp only [Due.count, countMatched]
      split
      · exact ⟨created, matched⟩
      · exact ⟨created, matched.cons _⟩
  induction perm with
  | nil => exact ⟨.refl _, .refl _⟩
  | cons due _ ih => exact count due ih.1 ih.2
  | swap a b rest =>
    cases a <;> cases b <;>
      simp only [settle, List.foldr_cons, Due.count, countMatched, countCreated]
    · exact ⟨.swap _ _ _, .refl _⟩
    · split <;> exact ⟨.refl _, .refl _⟩
    · split <;> exact ⟨.refl _, .refl _⟩
    · split <;> split <;> first
        | exact ⟨.refl _, .refl _⟩
        | exact ⟨.refl _, .swap _ _ _⟩
  | trans _ _ first second => exact ⟨first.1.trans second.1, first.2.trans second.2⟩

namespace Store

variable {store after : Store} {counters : Counters}

theorem Booked.perm {due later : List Due} (booked : store.Booked (counters.settle due))
    (perm : due.Perm later) : store.Booked (counters.settle later) := by
  obtain ⟨created, matched⟩ := counters.settle_perm perm
  exact ⟨created.symm.trans booked.created, matched.symm.trans booked.matched⟩

/-- The labels of the intent that the tables speak for are those of the deposit and the decision. -/
theorem Backs.label {policy : Policy} {deposit : Deposit} {decision : Decision}
    (backs : store.Backs policy deposit decision) (sound : store.Sound) (now : Timestamp) :
    store.matchLabel? (.ofDecision deposit.txHash decision now) =
      if decision.intent.isNone then none
      else some (.ofMatch deposit.bucket (.ofDecision deposit.txHash decision now)) := by
  cases backs with
  | named named => rfl
  | nobody => rfl
  | exact named exactly =>
    obtain ⟨found, present, bucket, -, partner, -⟩ :=
      exactly.expects.linked sound.intents.nodup
    simp [matchLabel?, linked?, Attribution.ofDecision, Decision.explicit, present, Label.ofIntent,
      Label.ofMatch, bucket, partner, exactly.owner]
  | chosen nameless expects justified =>
    obtain ⟨found, present, bucket, -, partner, -⟩ := expects.linked sound.intents.nodup
    simp [matchLabel?, linked?, Attribution.ofDecision, Decision.inferred, present, Label.ofIntent,
      Label.ofMatch, bucket, partner]

/-- A claim changes no labels, so the record that comes with it is counted under those of the
intent as it was before. -/
theorem Booked.recorded {policy : Policy} {claimed : Store} {deposit : Deposit}
    {decision : Decision} {now : Timestamp} {attribution : Attribution}
    (booked : store.Booked counters) (sound : store.Sound)
    (backs : store.Backs policy deposit decision) (claims : store.Claims claimed decision.intent)
    (done : claimed.commit deposit.txHash decision now = .ok (attribution, after)) :
    after.Booked (counters.countMatched deposit.bucket attribution) := by
  obtain rfl := (commit_eq_ok done).2.1
  have label := backs.label sound now
  have taken : claimed.Booked counters ∧
      claimed.matchLabel? (.ofDecision deposit.txHash decision now) =
        store.matchLabel? (.ofDecision deposit.txHash decision now) := by
    rcases claims.eq_or_move with rfl | ⟨id, -, rfl⟩
    · exact ⟨booked, rfl⟩
    · exact ⟨booked.move id .matched, store.matchLabel?_move id .matched _⟩
  have entered := taken.1.commit done rfl
  rw [taken.2, label] at entered
  unfold Counters.countMatched
  change after.Booked (if decision.intent.isNone then _ else _)
  split
  · rename_i unlinked
    rw [if_pos unlinked] at entered
    exact entered
  · rename_i linked
    rw [if_neg linked] at entered
    exact entered

end Store

namespace Delivery

/-- What is due when a delivery goes from one stage to the next. -/
def Stage.due (deposit : Deposit) (stage next : Stage) : List Due :=
  match stage, next with
  | .done _, _ => []
  | _, .done (.attributed attribution) => [.recorded deposit.bucket attribution]
  | _, _ => []

variable {task : Task} {store after : Store} {stage next : Stage} {counters : Counters}

theorem Task.Leads.booked (leads : task.Leads false store stage next after)
    (knows : task.Knows store stage) (sound : store.Sound) (booked : store.Booked counters) :
    after.Booked (counters.settle (stage.due task.deposit next)) := by
  cases leads with
  | observed done looks =>
    cases looks <;> exact booked.uncounted (.observed done)
  | recorded decides claims done =>
    have recorded := booked.recorded sound (knows.backs decides)
      (claims.resolve_left Bool.false_ne_true) done
    cases decides <;> exact recorded
  | known present looks => cases looks <;> exact booked
  | observedTwice present looks => cases looks <;> exact booked
  | conflicted intent decides => cases decides <;> exact booked
  | rivalled decides => cases decides <;> exact booked
  | failed => cases stage <;> exact booked
  | _ => exact booked

end Delivery

end Reconcile
