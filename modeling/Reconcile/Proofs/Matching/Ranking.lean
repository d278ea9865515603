import Reconcile.Proofs.Decimal.Quotient
import Reconcile.Proofs.Matching.Confidence
import Reconcile.Proofs.Table.Queue

set_option autoImplicit false

/-
The orders that a choice goes by. Candidates are led by the first one with the highest score, and
of those that are tied the oldest wins: the one that was declared first, or at the same instant
under the least id.
-/
namespace Reconcile

open Table (Before)

namespace Decimal

variable {a b r : Decimal}

theorem isNan_of_isFinite (finite : a.isFinite) : a.isNan = false := by
  obtain ⟨s, c, e, rfl⟩ := eq_finite_of_isFinite finite
  rfl

theorem le?_of_numbers (numberA : a.isNan = false) (numberB : b.isNan = false) :
    ∃ le, a.le? b = .ok le := by
  refine ⟨a.order b != .gt, ?_⟩
  rw [le?, compare?, numberA, numberB]
  rfl

theorem numbers_of_le? {le : Bool} (done : a.le? b = .ok le) :
    a.isNan = false ∧ b.isNan = false := by
  rw [← Bool.or_eq_false_iff]
  by_contra nan
  rw [le?, compare?, if_pos (Bool.eq_true_of_not_eq_false nan)] at done
  cases done

theorem max?_isNan (done : a.max? b = .ok r) : r.isNan = false := by
  have compared : (a.isNan || b.isNan) = false := by
    by_contra nan
    rw [max?, lt?, compare?, if_pos (Bool.eq_true_of_not_eq_false nan)] at done
    cases done
  rw [Bool.or_eq_false_iff] at compared
  rcases max?_eq_ok done with ⟨-, rfl⟩ | ⟨-, rfl⟩
  · exact compared.2
  · exact compared.1

/-- What is at most one has few enough digits before the point. -/
theorem truncate_eq_ok (finite : a.isFinite) (nonneg : 0 ≤ a.toRat) (small : a.toRat ≤ 1) :
    ∃ r, a.truncateToFourPlaces = .ok r := by
  obtain ⟨s, c, e, rfl⟩ := eq_finite_of_isFinite finite
  by_cases none : c = 0
  · exact ⟨_, if_pos none⟩
  · rw [← abs_of_nonneg nonneg, abs_toRat] at small
    have leading : (10 : ℚ) ^ (e + digitCount c - 1) ≤ 10 ^ (0 : ℤ) := by
      rw [zpow_zero]
      exact (le_magnitude none e).trans small
    have places := (zpow_le_zpow_iff_right₀ (by norm_num)).mp leading
    have few : ¬ (precision : ℤ) < e + 4 + digitCount c := by
      have enough : (5 : ℤ) ≤ precision := by decide
      omega
    exact ⟨_, (if_neg none).trans (if_neg few)⟩

end Decimal

theorem Timestamp.sameKind_iff {a b : Timestamp} :
    a.sameKind b = true ↔ a.isNaive = b.isNaive := by
  rw [sameKind, beq_iff_eq]

namespace Intent

/-- One intent was declared before another. There is no order between clocks of which only one has
a zone. -/
def OlderThan (a b : Intent) : Prop :=
  a.created.sameKind b.created = true ∧ Before created id a b

instance (a b : Intent) : Decidable (a.OlderThan b) := inferInstanceAs (Decidable (_ ∧ _))

variable {a b c : Intent}

theorem OlderThan.asymm (older : a.OlderThan b) : ¬ b.OlderThan a :=
  fun younger => older.2.asymm created id younger.2

theorem OlderThan.irrefl (a : Intent) : ¬ a.OlderThan a :=
  fun older => Before.irrefl created id a older.2

/-- An intent can be compared with another and is not older. -/
def YieldsTo (a b : Intent) : Prop :=
  a.created.sameKind b.created = true ∧ ¬ a.OlderThan b

theorem YieldsTo.refl (a : Intent) : a.YieldsTo a :=
  ⟨Timestamp.sameKind_iff.mpr rfl, OlderThan.irrefl a⟩

theorem OlderThan.yieldsTo (older : a.OlderThan b) : b.YieldsTo a :=
  ⟨Timestamp.sameKind_iff.mpr (Timestamp.sameKind_iff.mp older.1).symm, older.asymm⟩

theorem OlderThan.of_not (older : a.OlderThan b) (yields : c.YieldsTo b) : a.OlderThan c := by
  refine ⟨?_, older.2.of_not created id fun before => yields.2 ⟨yields.1, before⟩⟩
  have alike := yields.1
  rw [Timestamp.sameKind_iff] at alike ⊢
  exact (Timestamp.sameKind_iff.mp older.1).trans alike.symm

theorem YieldsTo.trans (first : a.YieldsTo b) (second : b.YieldsTo c) : a.YieldsTo c := by
  refine ⟨?_, fun older => first.2 (older.of_not second)⟩
  rw [Timestamp.sameKind_iff]
  exact (Timestamp.sameKind_iff.mp first.1).trans (Timestamp.sameKind_iff.mp second.1)

end Intent

namespace Matching

open Intent (OlderThan YieldsTo)

section Age

variable {a b : Intent}

theorem declaredBefore_of_alike (alike : a.created.sameKind b.created = true) :
    declaredBefore a b = .ok (decide (Before Intent.created Intent.id a b)) := by
  unfold declaredBefore
  rw [Timestamp.same, alike, Bool.true_and, Timestamp.compare?, if_pos alike]
  by_cases same : a.created.instant = b.created.instant
  · rw [if_pos (beq_iff_eq.mpr same)]
    simp [Before, same]
    rfl
  · rw [if_neg fun equal => same (beq_iff_eq.mp equal)]
    rcases lt_or_gt_of_ne same with earlier | later
    · simp [Before, earlier, compare_lt_iff_lt.mpr earlier]
      rfl
    · simp [Before, same, not_lt_of_gt later, compare_gt_iff_gt.mpr later]
      rfl

theorem declaredBefore_cases {older : Bool} (done : declaredBefore a b = .ok older) :
    a.created.sameKind b.created = true ∧ (older = true ↔ a.OlderThan b) := by
  by_cases alike : a.created.sameKind b.created = true
  · rw [declaredBefore_of_alike alike] at done
    refine ⟨alike, ?_⟩
    rw [← Except.ok.inj done, decide_eq_true_eq]
    exact (and_iff_right alike).symm
  · have apart := Bool.eq_false_of_not_eq_true alike
    unfold declaredBefore at done
    rw [Timestamp.same, Timestamp.compare?, apart] at done
    cases done

end Age

section Leading

/-- The first of the candidates with the highest score. -/
def Leads (candidates : List Scored) (leader : Scored) : Prop :=
  ∃ before after, candidates = before ++ leader :: after ∧
    (∀ each ∈ before, each.score.toRat < leader.score.toRat) ∧
    ∀ each ∈ after, each.score.toRat ≤ leader.score.toRat

variable {candidates : List Scored} {best leader : Scored} {rest : List Scored}

theorem Leads.mem (leads : Leads candidates leader) : leader ∈ candidates := by
  obtain ⟨before, after, rfl, -, -⟩ := leads
  exact List.mem_append_right before List.mem_cons_self

theorem Leads.le (leads : Leads candidates leader) :
    ∀ each ∈ candidates, each.score.toRat ≤ leader.score.toRat := by
  obtain ⟨before, after, rfl, less, atMost⟩ := leads
  intro each member
  rcases List.mem_append.mp member with first | last
  · exact (less each first).le
  · rcases List.mem_cons.mp last with rfl | last
    · exact le_rfl
    · exact atMost each last

/-- A candidate that stands first and is not surpassed leads. -/
theorem Leads.eq_head (leads : Leads (best :: rest) leader)
    (highest : ∀ each ∈ rest, each.score.toRat ≤ best.score.toRat) : leader = best := by
  obtain ⟨before, after, same, less, -⟩ := leads
  cases before with
  | nil => exact (List.cons.inj same).1.symm
  | cons first others =>
    obtain ⟨rfl, rest_eq⟩ := List.cons.inj same
    have below := less best List.mem_cons_self
    have member : leader ∈ rest := by
      rw [rest_eq]
      exact List.mem_append_right others List.mem_cons_self
    exact absurd below (not_lt.mpr (highest leader member))

theorem leaderFrom_leads (finite : ∀ each ∈ best :: rest, each.score.isFinite = true)
    (done : leaderFrom best rest = .ok leader) : Leads (best :: rest) leader := by
  induction rest generalizing best with
  | nil =>
    cases done
    exact ⟨[], [], rfl, by simp, by simp⟩
  | cons next rest ih =>
    rw [List.forall_mem_cons, List.forall_mem_cons] at finite
    obtain ⟨finiteBest, finiteNext, finiteRest⟩ := finite
    rw [leaderFrom, Decimal.lt?_eq finiteBest finiteNext] at done
    by_cases less : best.score.toRat < next.score.toRat
    · rw [decide_eq_true less] at done
      have leads := ih (List.forall_mem_cons.mpr ⟨finiteNext, finiteRest⟩) done
      have above := less.trans_le (leads.le next List.mem_cons_self)
      obtain ⟨before, after, split, before_lt, after_le⟩ := leads
      exact ⟨best :: before, after, by rw [split]; rfl,
        List.forall_mem_cons.mpr ⟨above, before_lt⟩, after_le⟩
    · rw [decide_eq_false less] at done
      have leads := ih (List.forall_mem_cons.mpr ⟨finiteBest, finiteRest⟩) done
      have notAbove := (not_lt.mp less).trans (leads.le best List.mem_cons_self)
      obtain ⟨before, after, split, before_lt, after_le⟩ := leads
      cases before with
      | nil =>
        obtain ⟨rfl, rfl⟩ := List.cons.inj split
        exact ⟨[], next :: rest, rfl, by simp, List.forall_mem_cons.mpr ⟨notAbove, after_le⟩⟩
      | cons first others =>
        obtain ⟨rfl, rfl⟩ := List.cons.inj split
        have below := before_lt best List.mem_cons_self
        refine ⟨best :: next :: others, after, rfl, ?_, after_le⟩
        have behind := (not_lt.mp less).trans_lt below
        exact List.forall_mem_cons.mpr ⟨below,
          List.forall_mem_cons.mpr ⟨behind, (List.forall_mem_cons.mp before_lt).2⟩⟩

theorem leaderFrom_eq_ok (finite : ∀ each ∈ best :: rest, each.score.isFinite = true) :
    ∃ leader, leaderFrom best rest = .ok leader := by
  induction rest generalizing best with
  | nil => exact ⟨best, rfl⟩
  | cons next rest ih =>
    rw [List.forall_mem_cons, List.forall_mem_cons] at finite
    obtain ⟨finiteBest, finiteNext, finiteRest⟩ := finite
    rw [leaderFrom, Decimal.lt?_eq finiteBest finiteNext]
    by_cases less : best.score.toRat < next.score.toRat
    · rw [decide_eq_true less]
      exact ih (List.forall_mem_cons.mpr ⟨finiteNext, finiteRest⟩)
    · rw [decide_eq_false less]
      exact ih (List.forall_mem_cons.mpr ⟨finiteBest, finiteRest⟩)

end Leading

section Winning

/-- One of the candidates, to which all of them yield. -/
structure Oldest (candidates : List Scored) (winner : Scored) : Prop where
  member : winner ∈ candidates
  first : ∀ each ∈ candidates, each.intent.YieldsTo winner.intent

variable {best winner : Scored} {rest : List Scored}

theorem oldestFrom_oldest (done : oldestFrom best rest = .ok winner) :
    Oldest (best :: rest) winner := by
  induction rest generalizing best with
  | nil =>
    cases done
    refine ⟨List.mem_cons_self, ?_⟩
    intro each member
    rw [List.mem_singleton.mp member]
    exact YieldsTo.refl _
  | cons next rest ih =>
    refine ⟨oldestFrom_mem done, ?_⟩
    obtain ⟨older, compared, done⟩ := bind_eq_ok.mp done
    obtain ⟨alike, older_iff⟩ := declaredBefore_cases compared
    have yields := (ih done).first
    rw [List.forall_mem_cons] at yields
    obtain ⟨keptYields, restYield⟩ := yields
    rw [List.forall_mem_cons, List.forall_mem_cons]
    cases older with
    | true =>
      have nextOlder : next.intent.OlderThan best.intent := older_iff.mp rfl
      exact ⟨nextOlder.yieldsTo.trans keptYields, keptYields, restYield⟩
    | false =>
      have nextYields : next.intent.YieldsTo best.intent :=
        ⟨alike, fun nextOlder => Bool.false_ne_true (older_iff.mpr nextOlder)⟩
      exact ⟨keptYields, nextYields.trans keptYields, restYield⟩

theorem oldestFrom_eq_ok
    (alike : ∀ a ∈ best :: rest, ∀ b ∈ best :: rest,
      a.intent.created.sameKind b.intent.created = true) :
    ∃ winner, oldestFrom best rest = .ok winner := by
  induction rest generalizing best with
  | nil => exact ⟨best, rfl⟩
  | cons next rest ih =>
    have compared := declaredBefore_of_alike (alike next (by simp) best (by simp))
    obtain ⟨winner, done⟩ : ∃ winner, oldestFrom
        (if decide (Before Intent.created Intent.id next.intent best.intent) then next else best)
        rest = .ok winner := by
      apply ih
      have inside : ∀ a, a ∈ (if decide (Before Intent.created Intent.id next.intent best.intent)
          then next else best) :: rest → a ∈ best :: next :: rest := by
        intro a member
        split at member <;> simp at member ⊢ <;> tauto
      intro a memberA b memberB
      exact alike a (inside a memberA) b (inside b memberB)
    exact ⟨winner, (bind_of_ok compared).trans done⟩

end Winning

section Bounds

variable {policy : Policy} {deposit : Deposit} {leader each : Scored}

/-- The amount score is a number or infinite, and the score lies within the cap of the policy. -/
structure Scored.Bounded (policy : Policy) (scored : Scored) : Prop where
  amount : scored.amountScore.isNan = false
  score : Decimal.Within policy.inferredCap scored.score

theorem bounded_of_score {intent : Intent} (capped : policy.Capped)
    (done : score policy deposit intent = .ok each) : each.Bounded policy := by
  obtain ⟨-, -, scoredAmount, mean, -, clamped⟩ := score_eq_ok done
  refine ⟨?_, Decimal.clamp_within capped.isFinite capped.nonneg clamped⟩
  obtain ⟨gap, -, scoredAmount⟩ := bind_eq_ok.mp scoredAmount
  obtain ⟨rest, -, greatest⟩ := bind_eq_ok.mp scoredAmount
  exact Decimal.max?_isNan greatest

theorem bounded_of_scoreAll {intents : List Intent} {scored : List Scored}
    (capped : policy.Capped) (done : scoreAll policy deposit intents = .ok scored) :
    ∀ each ∈ scored, each.Bounded policy := by
  intro each member
  obtain ⟨intent, -, made⟩ := exists_of_mem_mapM done member
  exact bounded_of_score capped made

theorem Scored.Bounded.abs_score_le (bounded : each.Bounded policy) (capped : policy.Capped) :
    |each.score.toRat| ≤ 1 := by
  rw [abs_of_nonneg bounded.score.nonneg]
  exact bounded.score.le.trans capped.belowOne.le

/-- The score is no more below the leader's than the policy allows for a tie. -/
def Near (policy : Policy) (leader each : Scored) : Prop :=
  (do (← leader.score.sub each.score).le? policy.tieDelta) = .ok true

/-- The difference of two scores is compared with the bound for a tie. -/
theorem near_eq_ok (capped : policy.Capped) (number : policy.tieDelta.isNan = false)
    (first : leader.Bounded policy) (second : each.Bounded policy) :
    ∃ near, (do (← leader.score.sub each.score).le? policy.tieDelta) = .ok near := by
  obtain ⟨difference, subtracted, finite⟩ := Decimal.sub_of_small first.score.isFinite
    second.score.isFinite (first.abs_score_le capped) (second.abs_score_le capped)
  obtain ⟨near, compared⟩ := Decimal.le?_of_numbers (Decimal.isNan_of_isFinite finite) number
  exact ⟨near, (bind_of_ok subtracted).trans compared⟩

theorem isTied_eq_ok (capped : policy.Capped) (number : policy.tieDelta.isNan = false)
    (first : leader.Bounded policy) (second : each.Bounded policy) :
    ∃ tied, isTied policy leader each = .ok tied := by
  obtain ⟨same, compared⟩ := Decimal.same?_of_numbers second.amount first.amount
  obtain ⟨near, measured⟩ := near_eq_ok capped number first second
  unfold isTied
  rw [bind_of_ok compared]
  cases same with
  | true => exact ⟨true, rfl⟩
  | false => exact ⟨near, measured⟩

theorem isTied_iff (first : leader.Bounded policy) (second : each.Bounded policy) :
    isTied policy leader each = .ok true ↔
      each.amountScore.same? leader.amountScore = .ok true ∨ Near policy leader each := by
  obtain ⟨same, compared⟩ := Decimal.same?_of_numbers second.amount first.amount
  unfold isTied
  rw [bind_of_ok compared, compared]
  cases same with
  | true => exact iff_of_true rfl (Or.inl rfl)
  | false => exact (or_iff_right fun wrong => Bool.false_ne_true (Except.ok.inj wrong)).symm

theorem isTied_self (bounded : leader.Bounded policy) : isTied policy leader leader = .ok true :=
  (isTied_iff bounded bounded).mpr
    (Or.inl (Decimal.same?_iff.mpr ⟨bounded.amount, bounded.amount, rfl, rfl⟩))

theorem Leads.mem_tied {candidates : List Scored} (leads : Leads candidates leader)
    (bounded : leader.Bounded policy) : leader ∈ tied policy leader candidates :=
  Matching.mem_tied.mpr ⟨leads.mem, isTied_self bounded⟩

theorem confidenceOf_bounded_eq_ok (capped : policy.Capped) (bounded : each.Bounded policy)
    (ambiguous : Bool) : ∃ confidence, confidenceOf policy each ambiguous = .ok confidence := by
  have cut : ∀ {worth : Decimal}, Decimal.Within policy.inferredCap worth →
      ∃ confidence, worth.truncateToFourPlaces = .ok confidence := fun within =>
    Decimal.truncate_eq_ok within.isFinite within.nonneg (within.le.trans capped.belowOne.le)
  cases ambiguous with
  | false => exact cut bounded.score
  | true =>
    have compared := Decimal.lt?_eq capped.ambiguous.isFinite bounded.score.isFinite
    obtain ⟨worth, least⟩ : ∃ worth, each.score.min? policy.ambiguousCap = .ok worth :=
      ⟨_, congrArg (Except.map _) compared⟩
    obtain ⟨confidence, done⟩ := cut (bounded.score.min? capped.ambiguous least)
    exact ⟨confidence, (bind_of_ok least).trans done⟩

end Bounds

end Matching

end Reconcile
