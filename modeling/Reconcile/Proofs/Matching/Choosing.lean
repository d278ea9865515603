import Reconcile.Proofs.Matching.Ranking
import Reconcile.Proofs.Matching.Scoring

set_option autoImplicit false

/-
The choice among scored intents comes to an end, and it picks the oldest of those that are tied
with the leader. So a query fails only if the deposit is too great for one of the intents that it
finds.
-/
namespace Reconcile.Matching

/-- A selection among candidates with their leader: the oldest of the tied. -/
structure Chosen (policy : Policy) (candidates : List Scored) (leader : Scored)
    (selection : Selection) : Prop where
  leads : Leads candidates leader
  oldest : Oldest (tied policy leader candidates) selection.winner
  ambiguous : selection.ambiguous = decide (1 < (tied policy leader candidates).length)
  worth : confidenceOf policy selection.winner selection.ambiguous = .ok selection.confidence
  count : selection.eligibleCount = candidates.length

theorem exists_chosen {policy : Policy} {scored : List Scored} {selection : Selection}
    (finite : ∀ each ∈ eligible scored, each.score.isFinite = true)
    (done : select policy scored = .ok (some selection)) :
    ∃ leader, Chosen policy (eligible scored) leader selection := by
  obtain ⟨first, rest, leader, candidate, others, candidates, led, tied, oldest, ambiguous, worth,
    count⟩ := select_eq_some done
  refine ⟨leader, ?_, ?_, ?_, worth, count⟩
  · rw [candidates] at finite ⊢
    exact leaderFrom_leads finite led
  · rw [tied]
    exact oldestFrom_oldest oldest
  · rw [tied, ambiguous]
    cases others <;> simp

section Total

variable {policy : Policy} (capped : policy.Capped) (number : policy.tieDelta.isNan = false)
include capped number

/-- Among scores within the cap and clocks of one kind a choice is made, unless no intent is
eligible. -/
theorem select_cases {scored : List Scored} (bounded : ∀ each ∈ scored, each.Bounded policy)
    (alike : ∀ a ∈ eligible scored, ∀ b ∈ eligible scored,
      a.intent.created.sameKind b.intent.created = true) :
    (eligible scored = [] ∧ select policy scored = .ok none) ∨
      ∃ selection leader, select policy scored = .ok (some selection) ∧
        Chosen policy (eligible scored) leader selection := by
  have inside : ∀ each ∈ eligible scored, each ∈ scored := fun each member =>
    (mem_eligible.mp member).1
  have finite : ∀ each ∈ eligible scored, each.score.isFinite = true := fun each member =>
    (bounded each (inside each member)).score.isFinite
  cases candidates : eligible scored with
  | nil =>
    refine Or.inl ⟨rfl, ?_⟩
    unfold select
    rw [show scored.filter (·.eligible) = [] from candidates]
  | cons first rest =>
    suffices chosen : ∃ selection, select policy scored = .ok (some selection) by
      obtain ⟨selection, done⟩ := chosen
      obtain ⟨leader, chosen⟩ := exists_chosen finite done
      exact Or.inr ⟨selection, leader, done, candidates ▸ chosen⟩
    rw [candidates] at inside finite alike
    obtain ⟨leader, led⟩ := leaderFrom_eq_ok finite
    have leads := leaderFrom_leads finite led
    have leaderBounded := bounded leader (inside leader leads.mem)
    obtain ⟨kept, tested⟩ := filterChecked_eq_ok fun each member =>
      isTied_eq_ok capped number leaderBounded (bounded each (inside each member))
    have same : kept = tied policy leader (first :: rest) := filterChecked_eq tested
    have keptInside : ∀ each ∈ kept, each ∈ first :: rest := by
      intro each member
      rw [same, mem_tied] at member
      exact member.1
    have leaderKept : leader ∈ kept := same ▸ leads.mem_tied leaderBounded
    unfold select
    rw [show scored.filter (·.eligible) = first :: rest from candidates]
    dsimp only
    rw [bind_of_ok (liftDecimal_eq_ok.mpr led), bind_of_ok (liftDecimal_eq_ok.mpr tested)]
    cases kept with
    | nil => cases leaderKept
    | cons candidate others =>
      obtain ⟨winner, oldest⟩ := oldestFrom_eq_ok fun a memberA b memberB =>
        alike a (keptInside a memberA) b (keptInside b memberB)
      have winnerBounded :=
        bounded winner (inside winner (keptInside winner (oldestFrom_mem oldest)))
      obtain ⟨confidence, worth⟩ := confidenceOf_bounded_eq_ok capped winnerBounded
        (!others.isEmpty)
      exact ⟨_, (bind_of_ok oldest).trans (bind_of_ok (liftDecimal_eq_ok.mpr worth))⟩

end Total

/-- A leader is tied with itself, so there is no choice only if no intent is eligible. -/
theorem select_eq_none {policy : Policy} {scored : List Scored}
    (bounded : ∀ each ∈ scored, each.Bounded policy) (done : select policy scored = .ok none) :
    eligible scored = [] := by
  unfold select at done
  split at done
  · assumption
  · rename_i first rest candidates
    have inside : ∀ each ∈ first :: rest, each.Bounded policy := by
      rw [← candidates]
      exact fun each member => bounded each (mem_eligible.mp member).1
    obtain ⟨leader, led, done⟩ := bind_eq_ok.mp done
    obtain ⟨kept, tested, done⟩ := bind_eq_ok.mp done
    have leads := leaderFrom_leads (fun each member => (inside each member).score.isFinite)
      (liftDecimal_eq_ok.mp led)
    have same : kept = tied policy leader (first :: rest) :=
      filterChecked_eq (liftDecimal_eq_ok.mp tested)
    have present : leader ∈ kept := same ▸ leads.mem_tied (inside leader leads.mem)
    split at done
    · cases present
    · obtain ⟨winner, -, done⟩ := bind_eq_ok.mp done
      obtain ⟨confidence, -, done⟩ := bind_eq_ok.mp done
      cases done

theorem choose_eq_none_iff {policy : Policy} (capped : policy.Capped) {deposit : Deposit}
    {intents : List Intent} {choice : Option Selection}
    (done : choose policy deposit intents = .ok choice) :
    choice = none ↔
      ∀ intent ∈ intents, withinTolerance policy intent.amount deposit.amount = .ok false := by
  obtain ⟨scored, made, selected⟩ := bind_eq_ok.mp done
  constructor
  · rintro rfl intent member
    have empty := select_eq_none (bounded_of_scoreAll capped made) selected
    obtain ⟨each, inside, scoring⟩ := exists_mem_of_mapM made member
    obtain ⟨-, tolerated, -⟩ := score_eq_ok scoring
    rw [tolerated]
    refine congrArg Except.ok (Bool.eq_false_of_not_eq_true fun passes => ?_)
    have candidate := mem_eligible.mpr ⟨inside, passes⟩
    rw [empty] at candidate
    cases candidate
  · intro outside
    cases choice with
    | none => rfl
    | some selection =>
      obtain ⟨member, justified⟩ := choose_eq_ok done
      have tolerated := justified.tolerated
      rw [outside _ member] at tolerated
      cases tolerated

/-- The choice of an intent fails exactly if the deposit is too great for one that is looked at. -/
theorem choose_cases {policy : Policy} (regular : policy.Regular) {deposit : Deposit}
    (actual : deposit.amount.Amount)
    (confirmed : Column.moment deposit.confirmed = .ok deposit.confirmed) {intents : List Intent}
    (kept : ∀ intent ∈ intents, intent.Kept) :
    ((∃ intent ∈ intents, intent.Outgrown deposit) ∧
      ∃ fault, choose policy deposit intents = .error (.decimal fault)) ∨
    ((∀ intent ∈ intents, ¬ intent.Outgrown deposit) ∧
      ∃ selection, choose policy deposit intents = .ok selection) := by
  rcases scoreAll_cases regular actual confirmed kept with
    ⟨great, fault, failed⟩ | ⟨small, scored, done⟩
  · exact Or.inl ⟨great, fault, bind_of_error failed⟩
  · have alike : ∀ a ∈ eligible scored, ∀ b ∈ eligible scored,
        a.intent.created.sameKind b.intent.created = true := by
      have zoned : ∀ each ∈ eligible scored, each.intent.created.isNaive = false := by
        intro each member
        obtain ⟨intent, inside, made⟩ := exists_of_mem_mapM done (mem_eligible.mp member).1
        rw [(score_eq_ok made).1]
        exact (Column.moment_eq_ok (kept intent inside).created).1
      intro a memberA b memberB
      rw [Timestamp.sameKind_iff, zoned a memberA, zoned b memberB]
    refine Or.inr ⟨small, ?_⟩
    rw [choose, bind_of_ok done]
    rcases select_cases regular.capped regular.tieDelta
        (bounded_of_scoreAll regular.capped done) alike with
      ⟨-, nothing⟩ | ⟨selection, -, chosen, -⟩
    · exact ⟨none, nothing⟩
    · exact ⟨some selection, chosen⟩

end Reconcile.Matching
