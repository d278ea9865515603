import Reconcile.Proofs.Traffic.Steps

set_option autoImplicit false

/- Links as the operations leave them: an intent is matched exactly if one attribution links it. -/
namespace Reconcile.Traffic

/-- However single calls are grouped into transactions, attributions and intents are linked one to
one, and only matched intents are linked. If the transactions are those of operations, in any
order, then every matched intent is linked as well. -/
theorem links_one_to_one :
    (∀ (rule : SweepRule) (transactions : List (List Call × Bool)),
      (Store.empty.transactAll rule transactions).OneToOne) ∧
    ∀ schedule : List Move, ((on .empty).run schedule).store.OneToOne ∧
      ∀ intent ∈ ((on .empty).run schedule).store.intents, intent.status = .matched →
        ∃! row, row ∈ ((on .empty).run schedule).store.attributions ∧
          row.intent = some intent.id := by
  refine ⟨?_, ?_⟩
  · intro rule transactions
    exact (Store.empty_sound.writes (Store.transactAll_writes rule .empty transactions)).oneToOne
  · intro schedule
    have sound := run_sound schedule
    refine ⟨sound.oneToOne, ?_⟩
    intro intent member matched
    have found := sound.intents.find?_of_mem Intent.id member
    exact (run_paired schedule).unique sound found matched

def delivered : List Move :=
  [.declare Sample.intent, .deliver .usual (.parsed Sample.deposit) (.utc 0)] ++
    List.replicate 5 (.advance 0)

theorem links_one_to_one_delivered :
    ∃ intent ∈ ((on .empty).run delivered).store.intents, intent.status = .matched ∧
      ∃! row, row ∈ ((on .empty).run delivered).store.attributions ∧
        row.intent = some intent.id := by
  have some_matched : ((on .empty).run delivered).store.intents.any (·.status = .matched) := by
    decide +kernel
  obtain ⟨intent, member, matched⟩ := List.any_eq_true.mp some_matched
  have matched : intent.status = .matched := of_decide_eq_true matched
  exact ⟨intent, member, matched, (links_one_to_one.2 delivered).2 intent member matched⟩

end Reconcile.Traffic
