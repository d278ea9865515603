import Reconcile.Proofs.Matching.Permuting

set_option autoImplicit false

/-
What a confidence says about the choice. A match that is worth enough to be taken for sure has a
winner that no other candidate comes near to, by its amount or by its score. Any other match is
worth no more than the cap for tied ones.
-/
namespace Reconcile.Matching

/-- A candidate has another amount score than the winner, and its score is further below the
winner's than the policy allows for a tie. -/
structure Surpassed (policy : Policy) (winner each : Scored) : Prop where
  amount : each.amountScore.same? winner.amountScore = .ok false
  score : ∃ difference, winner.score.sub each.score = .ok difference ∧
    policy.tieDelta.toRat < difference.toRat

/-- The winner has the highest score, and it surpasses every other candidate. -/
structure Clear (policy : Policy) (candidates : List Scored) (winner : Scored) : Prop where
  best : Best candidates winner
  alone : ∃ before after, candidates = before ++ winner :: after ∧
    ∀ each ∈ before ++ after, Surpassed policy winner each

/-- A tied match: it is worth no more than the cap, which is below what is taken for sure, and no
candidate near the highest score is older than the winner. -/
structure Contested (policy : Policy) (candidates : List Scored) (selection : Selection) :
    Prop where
  atMost : selection.confidence.toRat ≤ policy.ambiguousCap.toRat
  unsure : policy.ambiguousCap.toRat < Policy.highConfidence.toRat
  oldest : ∀ best, Best candidates best → ∀ each ∈ candidates, Near policy best each →
    each.intent.YieldsTo selection.winner.intent

section

variable {policy : Policy} {candidates : List Scored} {leader winner each : Scored}
  {selection : Selection}

/-- A bound that is a number is compared with the difference of the scores. -/
theorem near_iff (capped : policy.Capped) (finite : policy.tieDelta.isFinite)
    (first : leader.Bounded policy) (second : each.Bounded policy) :
    ∃ difference, leader.score.sub each.score = .ok difference ∧
      (Near policy leader each ↔ difference.toRat ≤ policy.tieDelta.toRat) := by
  obtain ⟨difference, subtracted, number⟩ := Decimal.sub_of_small first.score.isFinite
    second.score.isFinite (first.abs_score_le capped) (second.abs_score_le capped)
  refine ⟨difference, subtracted, ?_⟩
  rw [Near, bind_of_ok subtracted, Decimal.le?_eq number finite, Except.ok.injEq,
    decide_eq_true_eq]

/-- What is not tied is surpassed. -/
theorem surpassed_of_untied (capped : policy.Capped) (finite : policy.tieDelta.isFinite)
    (first : leader.Bounded policy) (second : each.Bounded policy)
    (untied : isTied policy leader each ≠ .ok true) : Surpassed policy leader each := by
  rw [Ne, isTied_iff first second, not_or] at untied
  obtain ⟨otherAmount, far⟩ := untied
  obtain ⟨same, compared⟩ := Decimal.same?_of_numbers second.amount first.amount
  have different : same = false := by
    cases same with
    | false => rfl
    | true => exact absurd compared otherAmount
  obtain ⟨difference, subtracted, near⟩ := near_iff capped finite first second
  rw [near, not_le] at far
  exact ⟨different ▸ compared, difference, subtracted, far⟩

theorem tied_of_length (leads : Leads candidates leader) (bounded : leader.Bounded policy)
    (single : ¬ 1 < (tied policy leader candidates).length) :
    tied policy leader candidates = [leader] ∧ ∃ before after,
      candidates = before ++ leader :: after ∧
      ∀ each ∈ before ++ after, isTied policy leader each ≠ .ok true := by
  obtain ⟨before, after, rfl, -, -⟩ := leads
  have itself : (isTied policy leader leader).toOption = some true :=
    toOption_eq_some.mpr (isTied_self bounded)
  have parts : tied policy leader (before ++ leader :: after) =
      tied policy leader before ++ leader :: tied policy leader after := by
    simp only [tied, List.filter_append, List.filter_cons, itself, decide_true, if_true]
  rw [parts, List.length_append, List.length_cons] at single
  have noneBefore : tied policy leader before = [] := List.eq_nil_of_length_eq_zero (by omega)
  have noneAfter : tied policy leader after = [] := List.eq_nil_of_length_eq_zero (by omega)
  refine ⟨?_, before, after, rfl, ?_⟩
  · rw [parts, noneBefore, noneAfter, List.nil_append]
  · intro each member same
    rcases List.mem_append.mp member with inside | inside
    · exact List.not_mem_nil (noneBefore ▸ mem_tied.mpr ⟨inside, same⟩)
    · exact List.not_mem_nil (noneAfter ▸ mem_tied.mpr ⟨inside, same⟩)

theorem Chosen.clear (capped : policy.Capped) (finite : policy.tieDelta.isFinite)
    (bounded : ∀ each ∈ candidates, each.Bounded policy)
    (chosen : Chosen policy candidates leader selection) (single : selection.ambiguous = false) :
    Clear policy candidates selection.winner := by
  have first := bounded leader chosen.leads.mem
  have few : ¬ 1 < (tied policy leader candidates).length := by
    rw [chosen.ambiguous] at single
    exact of_decide_eq_false single
  obtain ⟨only, before, after, split, untied⟩ := tied_of_length chosen.leads first few
  have same : selection.winner = leader := by
    have member := chosen.oldest.member
    rw [only] at member
    exact List.mem_singleton.mp member
  rw [same]
  refine ⟨chosen.leads.best, before, after, split, ?_⟩
  intro each member
  have inside : each ∈ candidates := by
    rw [split]
    exact List.mem_append.mpr
      ((List.mem_append.mp member).imp_right (List.mem_cons_of_mem leader ·))
  exact surpassed_of_untied capped finite first (bounded each inside) (untied each member)

def worth (policy : Policy) (winner : Scored) (ambiguous : Bool) : ℚ :=
  if ambiguous then min winner.score.toRat policy.ambiguousCap.toRat else winner.score.toRat

theorem worth_le_score (ambiguous : Bool) : worth policy winner ambiguous ≤ winner.score.toRat := by
  cases ambiguous with
  | false => exact le_rfl
  | true => exact min_le_left _ _

theorem le_worth (ambiguous : Bool) :
    min winner.score.toRat policy.ambiguousCap.toRat ≤ worth policy winner ambiguous := by
  cases ambiguous with
  | false => exact min_le_left _ _
  | true => exact le_rfl

/-- The confidence is the whole ten thousandths of the worth. -/
theorem confidenceOf_eq_floor (capped : policy.Capped) (bounded : winner.Bounded policy)
    {ambiguous : Bool} {confidence : Decimal}
    (done : confidenceOf policy winner ambiguous = .ok confidence) :
    0 ≤ worth policy winner ambiguous ∧
      confidence.toRat = (⌊worth policy winner ambiguous * 10000⌋₊ : ℚ) / 10000 := by
  cases ambiguous with
  | false =>
    obtain ⟨-, cut⟩ := Decimal.truncateToFourPlaces_floor bounded.score.isFinite
      bounded.score.nonneg done
    exact ⟨bounded.score.nonneg, cut⟩
  | true =>
    obtain ⟨least, found, cut⟩ := bind_eq_ok.mp done
    obtain ⟨finite, value⟩ :=
      Decimal.min?_toRat bounded.score.isFinite capped.ambiguous.isFinite found
    have nonneg : 0 ≤ least.toRat := by
      rw [value]
      exact le_min bounded.score.nonneg capped.ambiguous.nonneg
    obtain ⟨-, cut⟩ := Decimal.truncateToFourPlaces_floor finite nonneg cut
    rw [value] at nonneg cut
    exact ⟨nonneg, cut⟩

/-- Cutting loses less than a ten thousandth. -/
theorem confidenceOf_near (capped : policy.Capped) (bounded : winner.Bounded policy)
    {ambiguous : Bool} {confidence : Decimal}
    (done : confidenceOf policy winner ambiguous = .ok confidence) :
    confidence.toRat ≤ worth policy winner ambiguous ∧
      worth policy winner ambiguous - 1 / 10000 < confidence.toRat := by
  obtain ⟨nonneg, value⟩ := confidenceOf_eq_floor capped bounded done
  have scaled : 0 ≤ worth policy winner ambiguous * 10000 := mul_nonneg nonneg (by norm_num)
  have low := Nat.floor_le scaled
  have high := Nat.lt_floor_add_one (worth policy winner ambiguous * 10000)
  constructor <;> linarith

variable {deposit : Deposit} {intents : List Intent} {scored : List Scored}

theorem bounded_of_eligible (capped : policy.Capped)
    (done : scoreAll policy deposit intents = .ok scored) :
    ∀ each ∈ eligible scored, each.Bounded policy := by
  intro each member
  exact bounded_of_scoreAll capped done each (mem_eligible.mp member).1

/-- The best candidates have the same score in the same form. -/
theorem Best.score_unique (capped : policy.Capped)
    (done : scoreAll policy deposit intents = .ok scored) {first second : Scored}
    (best : Best (eligible scored) first) (also : Best (eligible scored) second) :
    first.score = second.score := by
  obtain ⟨i, -, made⟩ := exists_of_mem_mapM done (mem_eligible.mp best.member).1
  obtain ⟨j, -, built⟩ := exists_of_mem_mapM done (mem_eligible.mp also.member).1
  exact Matching.score_unique capped made built (best.score_eq also)

theorem Chosen.contested (accepted : policy.check = .ok ())
    (done : scoreAll policy deposit intents = .ok scored)
    (chosen : Chosen policy (eligible scored) leader selection)
    (several : selection.ambiguous = true) : Contested policy (eligible scored) selection := by
  have capped := Policy.capped_of_check accepted
  have bounded := bounded_of_eligible capped done
  have inside := (mem_tied.mp chosen.oldest.member).1
  have near := (confidenceOf_near capped (bounded selection.winner inside) chosen.worth).1
  rw [several] at near
  refine ⟨near.trans (min_le_right _ _), Policy.ambiguousCap_lt_high accepted, ?_⟩
  intro best high each member close
  have same := high.score_unique capped done chosen.leads.best
  rw [Near, same] at close
  apply chosen.oldest.first
  rw [mem_tied, isTied_iff (bounded leader chosen.leads.mem) (bounded each member)]
  exact ⟨member, Or.inr close⟩

theorem select_eq_error (capped : policy.Capped) (number : policy.tieDelta.isNan = false)
    (bounded : ∀ each ∈ scored, each.Bounded policy) {fault : Fault}
    (failed : select policy scored = .error fault) :
    ∃ a ∈ eligible scored, ∃ b ∈ eligible scored,
      a.intent.created.sameKind b.intent.created = false := by
  by_contra none
  have alike : ∀ a ∈ eligible scored, ∀ b ∈ eligible scored,
      a.intent.created.sameKind b.intent.created = true := by
    intro a first b second
    by_contra apart
    exact none ⟨a, first, b, second, Bool.eq_false_of_not_eq_true apart⟩
  rcases select_cases capped number bounded alike with ⟨-, nothing⟩ | ⟨selection, -, chosen, -⟩
  · rw [nothing] at failed
    cases failed
  · rw [chosen] at failed
    cases failed

/-- Intents that last for some time and have scores go by clocks of one kind. -/
theorem alike_of_scoreAll (lasting : ∀ intent ∈ intents, intent.created.instant <
      intent.expires.instant)
    (done : scoreAll policy deposit intents = .ok scored) :
    ∀ a ∈ scored, ∀ b ∈ scored, a.intent.created.sameKind b.intent.created = true := by
  have kind : ∀ each ∈ scored, each.intent.created.isNaive = deposit.confirmed.isNaive := by
    intro each member
    obtain ⟨intent, inside, made⟩ := exists_of_mem_mapM done member
    rw [(score_eq_ok made).1]
    obtain ⟨alike, -⟩ := timeScore_of_window (lasting intent inside) (timeScore_of_score made)
    exact (Timestamp.sameKind_iff.mp alike).symm
  intro a first b second
  rw [Timestamp.sameKind_iff, kind a first, kind b second]

/-- Under an accepted policy there is no choice exactly if no intent is eligible. A choice fails
only among clocks that cannot be compared, and never if each intent lasts for some time. A winner
that is worth enough to be taken for sure, or is not tied, is clear. What a match is worth is its
score, or for a tied match no more than the cap, cut by less than a ten thousandth. -/
theorem sure_match_is_clear (accepted : policy.check = .ok ()) (finite : policy.tieDelta.isFinite)
    (done : scoreAll policy deposit intents = .ok scored) :
    (select policy scored = .ok none ↔ eligible scored = []) ∧
    (∀ fault, select policy scored = .error fault →
      ∃ a ∈ eligible scored, ∃ b ∈ eligible scored,
        a.intent.created.sameKind b.intent.created = false) ∧
    ((∀ intent ∈ intents, intent.created.instant < intent.expires.instant) →
      ∃ choice, select policy scored = .ok choice) ∧
    ∀ selection, select policy scored = .ok (some selection) →
      selection.winner ∈ eligible scored ∧
      (Policy.highConfidence.toRat ≤ selection.confidence.toRat ∨ selection.ambiguous = false →
        Clear policy (eligible scored) selection.winner) ∧
      (selection.ambiguous = true → Contested policy (eligible scored) selection) ∧
      selection.confidence.toRat ≤ selection.winner.score.toRat ∧
      min selection.winner.score.toRat policy.ambiguousCap.toRat - 1 / 10000 <
        selection.confidence.toRat := by
  have capped := Policy.capped_of_check accepted
  have bounded := bounded_of_scoreAll capped done
  have inside := bounded_of_eligible capped done
  have fails : ∀ fault, select policy scored = .error fault →
      ∃ a ∈ eligible scored, ∃ b ∈ eligible scored,
        a.intent.created.sameKind b.intent.created = false :=
    fun fault => select_eq_error capped (Decimal.isNan_of_isFinite finite) bounded
  refine ⟨⟨select_eq_none bounded, ?_⟩, fails, ?_, ?_⟩
  · intro empty
    unfold select
    rw [show scored.filter (·.eligible) = [] from empty]
  · intro lasting
    cases made : select policy scored with
    | ok choice => exact ⟨choice, rfl⟩
    | error fault =>
      obtain ⟨a, first, b, second, apart⟩ := fails fault made
      have alike := alike_of_scoreAll lasting done a (mem_eligible.mp first).1 b
        (mem_eligible.mp second).1
      rw [apart] at alike
      cases alike
  · intro selection chosen
    obtain ⟨leader, choice⟩ := exists_chosen
      (fun each member => (inside each member).score.isFinite) chosen
    have member := (mem_tied.mp choice.oldest.member).1
    obtain ⟨high, low⟩ := confidenceOf_near capped (inside _ member) choice.worth
    refine ⟨member, ?_, choice.contested accepted done, high.trans (worth_le_score _), ?_⟩
    · intro sure
      apply choice.clear capped finite inside
      by_contra several
      -- A tied match is not worth enough.
      have contested := choice.contested accepted done (Bool.eq_true_of_not_eq_false several)
      exact absurd (sure.resolve_right several)
        (not_le.mpr (contested.atMost.trans_lt contested.unsure))
    · have above := @le_worth policy selection.winner selection.ambiguous
      linarith

end

namespace Sample

def deposit (amount : Decimal) (second : Int) : Deposit :=
  ⟨"t", ⟨"v", 1, "r"⟩, amount, .one, .utc (second * Timestamp.second), none⟩

def intent (id : String) (amount : Decimal) (second : Int) : Intent :=
  ⟨id, "acme", ⟨"v", 1, "r"⟩, amount, .utc (second * Timestamp.second),
    .utc ((second + 3600) * Timestamp.second), [], .pending⟩

end Sample

namespace Clarity

def deposit : Deposit := Sample.deposit (.finite false 100 0) 0

/-- One intent is for the amount of the deposit, the other is further off than a tie allows. -/
def intents : List Intent :=
  [Sample.intent "exact" (.finite false 100 0) 0, Sample.intent "near" (.finite false 997 (-1)) 0]

/-- The usual policy, but scores are tied only if they are the same. -/
def policy : Policy :=
  { Policy.usual with tieDelta := .zero, inferredCap := .finite false 9999 (-4) }

end Clarity

/-- The intent for the amount of the deposit is a clear winner among two. -/
theorem sure_match_is_clear_exact :
    ∃ scored selection, scoreAll Clarity.policy Clarity.deposit Clarity.intents = .ok scored ∧
      select Clarity.policy scored = .ok (some selection) ∧
      (eligible scored).length = 2 ∧
      Policy.highConfidence.toRat ≤ selection.confidence.toRat ∧
      Clear Clarity.policy (eligible scored) selection.winner := by
  have answered : (do
      let scored ← scoreAll Clarity.policy Clarity.deposit Clarity.intents
      let choice ← select Clarity.policy scored
      return ((eligible scored).length, choice.map (·.confidence)) :
        Except Fault (Nat × Option Decimal)).toOption =
      some (2, some (.finite false 9999 (-4))) := by
    decide +kernel
  obtain ⟨scored, done, answered⟩ := bind_eq_ok.mp (toOption_eq_some.mp answered)
  obtain ⟨choice, chosen, answered⟩ := bind_eq_ok.mp answered
  obtain ⟨count, value⟩ := Prod.mk.inj (Except.ok.inj answered)
  obtain ⟨selection, rfl, confidence⟩ := Option.map_eq_some_iff.mp value
  have sure : Policy.highConfidence.toRat ≤ selection.confidence.toRat := by
    rw [confidence, Policy.highConfidence, Decimal.toRat_false, Decimal.toRat_false]
    norm_num
  obtain ⟨-, -, -, picks⟩ := sure_match_is_clear rfl rfl done
  obtain ⟨-, clear, -⟩ := picks selection chosen
  exact ⟨scored, selection, done, chosen, count, sure, clear (Or.inl sure)⟩

end Reconcile.Matching
