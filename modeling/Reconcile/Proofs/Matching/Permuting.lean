import Mathlib.Data.List.Perm.Basic
import Reconcile.Proofs.Matching.Choosing

set_option autoImplicit false

/-
What the order of the intents decides. Any of the best can lead. Those near its score are the same
for each of them, but its amount score can bring in others. So the choice is the same in every
order exactly if, where the amounts of the best differ, none brings in an intent that is older than
all those near.
-/
namespace Reconcile

theorem one_lt_length_of_mem {α : Type} {a b : α} {values : List α} (first : a ∈ values)
    (second : b ∈ values) (apart : a ≠ b) : 1 < values.length := by
  cases values with
  | nil => cases first
  | cons head rest =>
    cases rest with
    | nil =>
      rw [List.mem_singleton] at first second
      exact absurd (first.trans second.symm) apart
    | cons next rest => simp

namespace Matching

section

variable {policy : Policy} {deposit : Deposit}

section Scores

variable {intents others : List Intent} {scored kept : List Scored}

theorem scoreAll_of_perm (done : scoreAll policy deposit intents = .ok scored)
    (perm : intents.Perm others) :
    ∃ kept, scoreAll policy deposit others = .ok kept ∧ scored.Perm kept := by
  obtain ⟨kept, made, same⟩ := List.perm_comp_forall₂ perm.symm (mapM_eq_ok.mp done)
  exact ⟨kept, mapM_eq_ok.mpr made, same.symm⟩

/-- Every order of the scored is that of some order of the intents. -/
theorem exists_perm_of_scored (done : scoreAll policy deposit intents = .ok scored)
    (perm : scored.Perm kept) :
    ∃ others, intents.Perm others ∧ scoreAll policy deposit others = .ok kept := by
  have both : Relation.Comp (List.Forall₂ fun intent each =>
      score policy deposit intent = .ok each) List.Perm intents kept :=
    ⟨scored, mapM_eq_ok.mp done, perm⟩
  rw [List.forall₂_comp_perm_eq_perm_comp_forall₂] at both
  obtain ⟨others, same, made⟩ := both
  exact ⟨others, same, mapM_eq_ok.mpr made⟩

theorem blend_eq_ok_div {amount time mean : Decimal} (done : blend policy amount time = .ok mean) :
    ∃ sum weight : Decimal, sum.div weight = .ok mean := by
  obtain ⟨weight, -, done⟩ := bind_eq_ok.mp done
  obtain ⟨left, -, done⟩ := bind_eq_ok.mp done
  obtain ⟨right, -, done⟩ := bind_eq_ok.mp done
  obtain ⟨sum, -, divided⟩ := bind_eq_ok.mp done
  exact ⟨sum, weight, divided⟩

/-- A score is zero or, above it, the cap or a quotient below the cap. -/
theorem score_form (capped : policy.Capped) {intent : Intent} {each : Scored}
    (done : score policy deposit intent = .ok each) :
    each.score = .zero ∨ 0 < each.score.toRat ∧ (each.score = policy.inferredCap ∨
      (∃ sum weight : Decimal, sum.div weight = .ok each.score) ∧ each.score.isFinite ∧
        each.score.toRat < policy.inferredCap.toRat) := by
  obtain ⟨-, -, -, mean, blended, clamped⟩ := score_eq_ok done
  rcases Decimal.clamp_cases capped.isFinite clamped with
    zero | ⟨above, most | ⟨same, finite, below⟩⟩
  · exact Or.inl zero
  · exact Or.inr ⟨above, Or.inl most⟩
  · rw [← same] at blended
    exact Or.inr ⟨above, Or.inr ⟨blend_eq_ok_div blended, finite, below⟩⟩

theorem score_unique (capped : policy.Capped) {i j : Intent} {a b : Scored}
    (first : score policy deposit i = .ok a) (second : score policy deposit j = .ok b)
    (same : a.score.toRat = b.score.toRat) : a.score = b.score := by
  rcases score_form capped first with zero | ⟨above, form⟩ <;>
    rcases score_form capped second with none | ⟨positive, other⟩
  · rw [zero, none]
  · rw [← same, zero, Decimal.toRat_zero] at positive
    exact absurd positive (lt_irrefl 0)
  · rw [same, none, Decimal.toRat_zero] at above
    exact absurd above (lt_irrefl 0)
  · rcases form with most | ⟨⟨sum, weight, divided⟩, finite, below⟩ <;>
      rcases other with top | ⟨⟨total, share, parted⟩, limited, under⟩
    · rw [most, top]
    · rw [← same, most] at under
      exact absurd under (lt_irrefl _)
    · rw [same, top] at below
      exact absurd below (lt_irrefl _)
    · exact Decimal.div_unique divided parted finite limited above same

end Scores

section Leaders

/-- One of the candidates with the highest score. -/
structure Best (candidates : List Scored) (best : Scored) : Prop where
  member : best ∈ candidates
  highest : ∀ each ∈ candidates, each.score.toRat ≤ best.score.toRat

theorem Leads.best {candidates : List Scored} {leader : Scored}
    (leads : Leads candidates leader) : Best candidates leader :=
  ⟨leads.mem, leads.le⟩

/-- A candidate near the leader's score goes before all that share the leader's amount score. -/
def NearFirst (policy : Policy) (candidates : List Scored) (leader : Scored) : Prop :=
  ∀ each ∈ candidates, each.amountScore.same? leader.amountScore = .ok true →
    ∃ near ∈ candidates, Near policy leader near ∧ ¬ each.intent.OlderThan near.intent

/-- Scored candidates among whom the order by age is total and equal scores are written alike. -/
structure Ranked (policy : Policy) (candidates : List Scored) : Prop where
  bounded : ∀ each ∈ candidates, each.Bounded policy
  alike : ∀ a ∈ candidates, ∀ b ∈ candidates,
    a.intent.created.sameKind b.intent.created = true
  total : ∀ a ∈ candidates, ∀ b ∈ candidates, a.intent.YieldsTo b.intent →
    b.intent.YieldsTo a.intent → a = b
  score_unique : ∀ a ∈ candidates, ∀ b ∈ candidates, a.score.toRat = b.score.toRat →
    a.score = b.score

theorem Ranked.of_subset {candidates kept : List Scored} (ranked : Ranked policy candidates)
    (inside : ∀ each ∈ kept, each ∈ candidates) : Ranked policy kept where
  bounded each member := ranked.bounded each (inside each member)
  alike a memberA b memberB := ranked.alike a (inside a memberA) b (inside b memberB)
  total a memberA b memberB := ranked.total a (inside a memberA) b (inside b memberB)
  score_unique a memberA b memberB := ranked.score_unique a (inside a memberA) b (inside b memberB)

variable {candidates : List Scored} {first second winner other : Scored}
  (ranked : Ranked policy candidates)

theorem Best.score_eq (best : Best candidates first) (also : Best candidates second) :
    first.score.toRat = second.score.toRat :=
  le_antisymm (also.highest first best.member) (best.highest second also.member)

include ranked

/-- What is near one of the best is near each of them. -/
theorem Best.near_iff (best : Best candidates first) (also : Best candidates second)
    (each : Scored) : Near policy first each ↔ Near policy second each := by
  rw [Near, Near, ranked.score_unique first best.member second also.member (best.score_eq also)]

/-- The best are near each other, if any difference is allowed for a tie. -/
theorem Best.near (notBelow : Decimal.zero.le? policy.tieDelta = .ok true)
    (best : Best candidates first) (also : Best candidates second) : Near policy first second := by
  rw [Near, ranked.score_unique first best.member second also.member (best.score_eq also),
    bind_of_ok (Decimal.sub_self_eq (ranked.bounded second also.member).score.isFinite)]
  exact notBelow

theorem mem_tied_iff (best : Best candidates first) {each : Scored} :
    each ∈ tied policy first candidates ↔ each ∈ candidates ∧
      (each.amountScore.same? first.amountScore = .ok true ∨ Near policy first each) := by
  rw [mem_tied]
  exact and_congr_right fun member =>
    isTied_iff (ranked.bounded first best.member) (ranked.bounded each member)

/-- The same are tied with two of the best that have one amount score. -/
theorem tied_eq (best : Best candidates first) (also : Best candidates second)
    (same : first.amountScore.same? second.amountScore = .ok true) :
    tied policy first candidates = tied policy second candidates := by
  refine List.filter_congr fun each member => ?_
  have number := ranked.bounded each member
  rw [decide_eq_decide, toOption_eq_some, toOption_eq_some,
    isTied_iff (ranked.bounded first best.member) number,
    isTied_iff (ranked.bounded second also.member) number, best.near_iff ranked also each]
  refine or_congr_left ?_
  obtain ⟨numberF, numberS, value, sign⟩ := Decimal.same?_iff.mp same
  rw [Decimal.same?_iff, Decimal.same?_iff, numberF, numberS, value, sign]

/-- The oldest of the tied is near its leader exactly if one that is near goes first. -/
theorem nearFirst_iff (best : Best candidates first)
    (oldest : Oldest (tied policy first candidates) winner) :
    NearFirst policy candidates first ↔ Near policy first winner := by
  obtain ⟨member, reason⟩ := (mem_tied_iff ranked best).mp oldest.member
  constructor
  · intro goes
    rcases reason with same | near
    · obtain ⟨each, inside, near, notOlder⟩ := goes winner member same
      have yields := oldest.first each ((mem_tied_iff ranked best).mpr ⟨inside, Or.inr near⟩)
      have back : winner.intent.YieldsTo each.intent :=
        ⟨ranked.alike winner member each inside, notOlder⟩
      rwa [ranked.total winner member each inside back yields]
    · exact near
  · intro near each inside same
    have yields := oldest.first each ((mem_tied_iff ranked best).mpr ⟨inside, Or.inl same⟩)
    exact ⟨winner, member, near, yields.2⟩

/-- Two of the best bring the same winner exactly if they have one amount score or, for each of
them, one that is near goes first. -/
theorem winner_eq_iff (best : Best candidates first) (also : Best candidates second)
    (oldest : Oldest (tied policy first candidates) winner)
    (eldest : Oldest (tied policy second candidates) other) :
    winner = other ↔ first.amountScore.same? second.amountScore = .ok true ∨
      NearFirst policy candidates first ∧ NearFirst policy candidates second := by
  obtain ⟨member, reason⟩ := (mem_tied_iff ranked best).mp oldest.member
  obtain ⟨inside, cause⟩ := (mem_tied_iff ranked also).mp eldest.member
  rw [nearFirst_iff ranked best oldest, nearFirst_iff ranked also eldest]
  constructor
  · rintro rfl
    rw [best.near_iff ranked also] at reason ⊢
    rw [and_self]
    refine or_iff_not_imp_right.mpr fun far => ?_
    -- It is tied with both by its amount, so the amounts of the two are the same.
    obtain ⟨-, numberF, valueF, signF⟩ := Decimal.same?_iff.mp (reason.resolve_right far)
    obtain ⟨-, numberS, valueS, signS⟩ := Decimal.same?_iff.mp (cause.resolve_right far)
    exact Decimal.same?_iff.mpr
      ⟨numberF, numberS, valueF.symm.trans valueS, signF.symm.trans signS⟩
  · intro agree
    have crossed : winner ∈ tied policy second candidates ∧
        other ∈ tied policy first candidates := by
      rcases agree with same | ⟨near, nearOther⟩
      · rw [tied_eq ranked best also same] at oldest ⊢
        exact ⟨oldest.member, eldest.member⟩
      · rw [mem_tied_iff ranked best, mem_tied_iff ranked also]
        exact ⟨⟨member, Or.inr ((best.near_iff ranked also winner).mp near)⟩,
          inside, Or.inr ((best.near_iff ranked also other).mpr nearOther)⟩
    exact ranked.total winner member other inside (eldest.first winner crossed.1)
      (oldest.first other crossed.2)

/-- Two of the best are both tied with others or both alone. -/
theorem ambiguous_eq (notBelow : Decimal.zero.le? policy.tieDelta = .ok true)
    (best : Best candidates first) (also : Best candidates second) :
    1 < (tied policy first candidates).length ↔ 1 < (tied policy second candidates).length := by
  by_cases same : first.amountScore.same? second.amountScore = .ok true
  · rw [tied_eq ranked best also same]
  · have apart : first ≠ second := by
      rintro rfl
      have number := (ranked.bounded first best.member).amount
      exact same (Decimal.same?_iff.mpr ⟨number, number, rfl, rfl⟩)
    have both : ∀ leader, Best candidates leader → 1 < (tied policy leader candidates).length := by
      intro leader leads
      have near : ∀ each, Best candidates each → each ∈ tied policy leader candidates :=
        fun each high => (mem_tied_iff ranked leads).mpr
          ⟨high.member, Or.inr (leads.near ranked notBelow high)⟩
      exact one_lt_length_of_mem (near first best) (near second also) apart
    exact iff_of_true (both first best) (both second also)

end Leaders

section Choices

variable {intents : List Intent} {scored kept candidates others : List Scored}
  {leader rival : Scored} {selection other : Selection}

/-- A selection among candidates, whatever their order. -/
structure Picked (policy : Policy) (candidates : List Scored) (leader : Scored)
    (selection : Selection) : Prop where
  best : Best candidates leader
  oldest : Oldest (tied policy leader candidates) selection.winner
  ambiguous : selection.ambiguous = decide (1 < (tied policy leader candidates).length)
  worth : confidenceOf policy selection.winner selection.ambiguous = .ok selection.confidence
  count : selection.eligibleCount = candidates.length

theorem Chosen.picked (chosen : Chosen policy others leader selection)
    (perm : others.Perm candidates) : Picked policy candidates leader selection := by
  have same : (tied policy leader others).Perm (tied policy leader candidates) := perm.filter _
  refine ⟨⟨?_, ?_⟩, ⟨?_, ?_⟩, ?_, chosen.worth, chosen.count.trans perm.length_eq⟩
  · exact perm.mem_iff.mp chosen.leads.mem
  · exact fun each member => chosen.leads.le each (perm.mem_iff.mpr member)
  · exact same.mem_iff.mp chosen.oldest.member
  · exact fun each member => chosen.oldest.first each (same.mem_iff.mpr member)
  · rw [chosen.ambiguous, same.length_eq]

theorem Picked.ambiguous_eq (ranked : Ranked policy candidates)
    (notBelow : Decimal.zero.le? policy.tieDelta = .ok true)
    (first : Picked policy candidates leader selection)
    (second : Picked policy candidates rival other) : selection.ambiguous = other.ambiguous := by
  rw [first.ambiguous, second.ambiguous, decide_eq_decide]
  exact Matching.ambiguous_eq ranked notBelow first.best second.best

theorem Picked.eq_iff (ranked : Ranked policy candidates)
    (notBelow : Decimal.zero.le? policy.tieDelta = .ok true)
    (first : Picked policy candidates leader selection)
    (second : Picked policy candidates rival other) :
    selection = other ↔ leader.amountScore.same? rival.amountScore = .ok true ∨
      NearFirst policy candidates leader ∧ NearFirst policy candidates rival := by
  rw [← winner_eq_iff ranked first.best second.best first.oldest second.oldest]
  refine ⟨congrArg Selection.winner, fun same => ?_⟩
  have flags := first.ambiguous_eq ranked notBelow second
  have counts := first.count.trans second.count.symm
  have worth := first.worth
  rw [same, flags, second.worth] at worth
  have confidences := Except.ok.inj worth
  cases selection
  cases other
  simp_all only

/-- Scored intents have a rank each, if their clocks can be compared and no two were declared at
one instant under one id. -/
theorem ranked_of_scoreAll (capped : policy.Capped)
    (done : scoreAll policy deposit intents = .ok scored)
    (alike : ∀ a ∈ intents, ∀ b ∈ intents, a.created.sameKind b.created = true)
    (distinct : (intents.map fun intent => (intent.created.instant, intent.id)).Nodup) :
    Ranked policy scored := by
  have sources : scored.map Scored.intent = intents := by
    have each := (mapM_eq_ok.mp done).imp fun intent scored made => (score_eq_ok made).1.symm
    rw [← List.forall₂_map_right_iff, List.forall₂_eq_eq_eq] at each
    exact each.symm
  have inside : ∀ each ∈ scored, each.intent ∈ intents := fun each member =>
    sources ▸ List.mem_map_of_mem member
  rw [← sources, List.map_map] at distinct
  refine ⟨bounded_of_scoreAll capped done, ?_, ?_, ?_⟩
  · exact fun a memberA b memberB => alike _ (inside a memberA) _ (inside b memberB)
  · intro a memberA b memberB yields back
    have keys := Table.eq_of_not_before Intent.created Intent.id
      (fun older => yields.2 ⟨yields.1, older⟩) fun older => back.2 ⟨back.1, older⟩
    exact List.inj_on_of_nodup_map distinct memberA memberB (Prod.ext keys.1 keys.2)
  · intro a memberA b memberB same
    obtain ⟨i, -, first⟩ := exists_of_mem_mapM done memberA
    obtain ⟨j, -, second⟩ := exists_of_mem_mapM done memberB
    exact score_unique capped first second same

section Orders

variable (capped : policy.Capped) (number : policy.tieDelta.isNan = false)
  (ranked : Ranked policy scored)
include capped number ranked

theorem select_of_perm (perm : scored.Perm kept) :
    (eligible kept = [] ∧ select policy kept = .ok none) ∨
      ∃ selection leader, select policy kept = .ok (some selection) ∧
        Chosen policy (eligible kept) leader selection := by
  have inside := ranked.of_subset fun each (member : each ∈ kept) => perm.mem_iff.mpr member
  exact select_cases capped number inside.bounded fun a memberA b memberB =>
    inside.alike a (mem_eligible.mp memberA).1 b (mem_eligible.mp memberB).1

variable (done : scoreAll policy deposit intents = .ok scored)
include done

/-- In every order of the intents a choice is made among the same candidates. -/
theorem choose_of_perm {orders : List Intent} (perm : intents.Perm orders) :
    (eligible scored = [] ∧ choose policy deposit orders = .ok none) ∨
      ∃ leader selection, choose policy deposit orders = .ok (some selection) ∧
        Picked policy (eligible scored) leader selection := by
  obtain ⟨kept, scores, reordered⟩ := scoreAll_of_perm done perm
  have same : (eligible scored).Perm (eligible kept) := reordered.filter _
  rw [choose, bind_of_ok scores]
  rcases select_of_perm capped number ranked reordered with
    ⟨empty, nothing⟩ | ⟨selection, leader, found, chosen⟩
  · rw [empty] at same
    exact Or.inl ⟨same.eq_nil, nothing⟩
  · exact Or.inr ⟨leader, selection, found, chosen.picked same.symm⟩

/-- There is a choice in every order or in none. -/
theorem choose_perm_cases :
    (eligible scored = [] ∧
      ∀ orders, intents.Perm orders → choose policy deposit orders = .ok none) ∨
    (eligible scored ≠ [] ∧ ∀ orders, intents.Perm orders → ∃ leader selection,
      choose policy deposit orders = .ok (some selection) ∧
        Picked policy (eligible scored) leader selection) := by
  by_cases empty : eligible scored = []
  · refine Or.inl ⟨empty, fun orders perm => ?_⟩
    rcases choose_of_perm capped number ranked done perm with ⟨-, nothing⟩ | ⟨_, _, -, picked⟩
    · exact nothing
    · exact absurd picked.best.member (empty ▸ List.not_mem_nil)
  · exact Or.inr ⟨empty, fun orders perm =>
      (choose_of_perm capped number ranked done perm).resolve_left fun none => empty none.1⟩

theorem exists_perm_of_best (best : Best (eligible scored) leader) :
    ∃ orders selection, intents.Perm orders ∧
      choose policy deposit orders = .ok (some selection) ∧
      Picked policy (eligible scored) leader selection := by
  obtain ⟨member, passes⟩ := mem_eligible.mp best.member
  obtain ⟨before, after, split⟩ := List.append_of_mem member
  have perm : scored.Perm (leader :: (before ++ after)) := split ▸ List.perm_middle
  obtain ⟨orders, permuted, scores⟩ := exists_perm_of_scored done perm
  have same : (eligible scored).Perm (eligible (leader :: (before ++ after))) := perm.filter _
  have front : eligible (leader :: (before ++ after)) = leader :: eligible (before ++ after) :=
    List.filter_cons_of_pos passes
  rcases select_of_perm capped number ranked perm with
    ⟨empty, -⟩ | ⟨selection, first, found, chosen⟩
  · rw [front] at empty
    cases empty
  · have leads := chosen.leads
    rw [front] at leads same
    obtain rfl := leads.eq_head fun each member =>
      best.highest each (same.mem_iff.mpr (List.mem_cons_of_mem leader member))
    exact ⟨orders, selection, permuted, (bind_of_ok scores).trans found,
      chosen.picked (front ▸ same.symm)⟩

end Orders

/-- In every order of the intents there is a choice or in none, and it is ambiguous and has the
same number of candidates in each or in none. It is the same in every order exactly if any two of
the best candidates have one amount score or, for both, one near them goes before all that share
their amount score. -/
theorem choice_of_permuted_iff (accepted : policy.check = .ok ())
    (notBelow : Decimal.zero.le? policy.tieDelta = .ok true)
    (done : scoreAll policy deposit intents = .ok scored)
    (alike : ∀ a ∈ intents, ∀ b ∈ intents, a.created.sameKind b.created = true)
    (distinct : (intents.map fun intent => (intent.created.instant, intent.id)).Nodup) :
    (∀ others, intents.Perm others →
      (choose policy deposit intents = .ok none ∧ choose policy deposit others = .ok none) ∨
      ∃ selection other, choose policy deposit intents = .ok (some selection) ∧
        choose policy deposit others = .ok (some other) ∧
        selection.ambiguous = other.ambiguous ∧
        selection.eligibleCount = other.eligibleCount) ∧
    ((∀ others, intents.Perm others →
        choose policy deposit others = choose policy deposit intents) ↔
      ∀ first second, Best (eligible scored) first → Best (eligible scored) second →
        first.amountScore.same? second.amountScore = .ok true ∨
          NearFirst policy (eligible scored) first ∧
            NearFirst policy (eligible scored) second) := by
  have capped := Policy.capped_of_check accepted
  have number := (Decimal.numbers_of_le? notBelow).2
  have ranked := ranked_of_scoreAll capped done alike distinct
  have candidates := ranked.of_subset fun each member => (mem_eligible.mp member).1
  rcases choose_perm_cases capped number ranked done with ⟨empty, never⟩ | ⟨-, always⟩
  · have nothing := never intents (.refl intents)
    refine ⟨fun others perm => Or.inl ⟨nothing, never others perm⟩, iff_of_true ?_ ?_⟩
    · exact fun others perm => (never others perm).trans nothing.symm
    · intro first second best
      exact absurd best.member (empty ▸ List.not_mem_nil)
  · obtain ⟨leader, selection, chosen, picked⟩ := always intents (.refl intents)
    rw [chosen]
    refine ⟨?_, ?_, ?_⟩
    · intro others perm
      obtain ⟨rival, other, found, also⟩ := always others perm
      exact Or.inr ⟨selection, other, rfl, found,
        picked.ambiguous_eq candidates notBelow also, picked.count.trans also.count.symm⟩
    · intro same first second best also
      have reached : ∀ each, Best (eligible scored) each →
          Picked policy (eligible scored) each selection := by
        intro each high
        obtain ⟨others, other, perm, found, also⟩ :=
          exists_perm_of_best capped number ranked done high
        cases found.symm.trans (same others perm)
        exact also
      exact ((reached first best).eq_iff candidates notBelow (reached second also)).mp rfl
    · intro agree others perm
      obtain ⟨rival, other, found, also⟩ := always others perm
      rw [found, (picked.eq_iff candidates notBelow also).mpr
        (agree leader rival picked.best also.best)]

end Choices

end

namespace Permuting

def deposit : Deposit :=
  ⟨"t", ⟨"v", 1, "r"⟩, .finite false 100 0, .one, .utc (3600 * Timestamp.second), none⟩

def intent (id : String) (amount : Decimal) (second : Int) : Intent :=
  ⟨id, "acme", ⟨"v", 1, "r"⟩, amount, .utc (second * Timestamp.second),
    .utc (7200 * Timestamp.second), [], .pending⟩

/-- Two intents for nearly the same amount, both declared at the confirmation, and an older one for
the amount of the first. -/
def intents : List Intent :=
  [intent "a" (.finite false 100 0) 3600, intent "b" (.finite false 999 (-1)) 3600,
    intent "c" (.finite false 100 0) 0]

def swapped : List Intent :=
  [intent "b" (.finite false 999 (-1)) 3600, intent "a" (.finite false 100 0) 3600,
    intent "c" (.finite false 100 0) 0]

theorem choose_of_winner {orders : List Intent} {id : String}
    (won : (choose .usual deposit orders).toOption.join.map (·.winner.intent.id) = some id) :
    ∃ selection, choose .usual deposit orders = .ok (some selection) ∧
      selection.winner.intent.id = id := by
  obtain ⟨selection, found, same⟩ := Option.map_eq_some_iff.mp won
  exact ⟨selection, toOption_eq_some.mp (Option.join_eq_some_iff.mp found), same⟩

theorem winners_differ :
    ∃ selection other, choose .usual deposit intents = .ok (some selection) ∧
      choose .usual deposit swapped = .ok (some other) ∧
      other.winner.intent ≠ selection.winner.intent := by
  obtain ⟨selection, chosen, third⟩ : ∃ selection,
      choose .usual deposit intents = .ok (some selection) ∧
        selection.winner.intent.id = "c" := choose_of_winner (by decide +kernel)
  obtain ⟨other, found, first⟩ : ∃ other,
      choose .usual deposit swapped = .ok (some other) ∧
        other.winner.intent.id = "a" := choose_of_winner (by decide +kernel)
  refine ⟨selection, other, chosen, found, fun same => ?_⟩
  rw [same, third] at first
  exact absurd first (by decide)

end Permuting

/-- Two of three intents have the highest score. Their amounts differ, and one of them brings in
the third, which is older than both. -/
theorem choice_of_permuted_iff_swapped :
    ∃ scored, scoreAll .usual Permuting.deposit Permuting.intents = .ok scored ∧
      ∃ first second, Best (eligible scored) first ∧ Best (eligible scored) second ∧
        first.amountScore.same? second.amountScore ≠ .ok true ∧
        ¬ (NearFirst .usual (eligible scored) first ∧
          NearFirst .usual (eligible scored) second) := by
  obtain ⟨selection, other, chosen, found, apart⟩ := Permuting.winners_differ
  obtain ⟨scored, done, -⟩ := bind_eq_ok.mp chosen
  refine ⟨scored, done, ?_⟩
  have agree := (choice_of_permuted_iff rfl rfl done (by decide) (by decide)).2.mpr
  by_contra all
  push Not at all
  have same := agree (fun first second best also =>
    or_iff_not_imp_left.mpr (all first second best also)) Permuting.swapped (.swap _ _ _)
  rw [chosen, found] at same
  cases same
  exact apart rfl

/-- The order of the intents can decide which of them is chosen. -/
theorem order_of_intents_matters :
    ¬ ∀ (policy : Policy) (deposit : Deposit) (intents others : List Intent)
      (scored : List Scored) (selection other : Selection), policy.check = .ok () →
      Decimal.zero.le? policy.tieDelta = .ok true →
      scoreAll policy deposit intents = .ok scored →
      (∀ a ∈ intents, ∀ b ∈ intents, a.created.sameKind b.created = true) →
      (intents.map fun intent => (intent.created.instant, intent.id)).Nodup →
      intents.Perm others →
      choose policy deposit intents = .ok (some selection) →
      choose policy deposit others = .ok (some other) →
      other.winner.intent = selection.winner.intent := by
  intro claim
  obtain ⟨selection, other, chosen, found, apart⟩ := Permuting.winners_differ
  obtain ⟨scored, done, -⟩ := bind_eq_ok.mp chosen
  exact apart (claim .usual _ _ _ scored selection other rfl rfl done (by decide) (by decide)
    (.swap _ _ _) chosen found)

end Matching

end Reconcile
