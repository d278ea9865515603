import Reconcile.Matching.Selection
import Reconcile.Proofs.Result

set_option autoImplicit false

/-
What a choice rests on. The chosen intent is one of those that were looked at, its amount is near
enough, and what the match is worth comes from its own score.
-/
namespace Reconcile.Matching

theorem filterChecked_eq {α ε : Type} {test : α → Except ε Bool} {values kept : List α}
    (done : filterChecked test values = .ok kept) :
    kept = values.filter fun a => (test a).toOption = some true := by
  induction values generalizing kept with
  | nil =>
    cases done
    rfl
  | cons first rest ih =>
    obtain ⟨passes, tested, done⟩ := bind_eq_ok.mp done
    obtain ⟨others, tail, done⟩ := bind_eq_ok.mp done
    cases done
    rw [List.filter_cons, tested, ← ih tail]
    cases passes <;> rfl

theorem filterChecked_eq_ok {α ε : Type} {test : α → Except ε Bool} {values : List α}
    (each : ∀ a ∈ values, ∃ passes, test a = .ok passes) :
    ∃ kept, filterChecked test values = .ok kept := by
  induction values with
  | nil => exact ⟨[], rfl⟩
  | cons first rest ih =>
    obtain ⟨passes, tested⟩ := each first List.mem_cons_self
    obtain ⟨others, kept⟩ := ih fun a member => each a (List.mem_cons_of_mem first member)
    exact ⟨_, (bind_of_ok tested).trans (bind_of_ok kept)⟩

def tied (policy : Policy) (leader : Scored) (candidates : List Scored) : List Scored :=
  candidates.filter fun each => (isTied policy leader each).toOption = some true

theorem mem_tied {policy : Policy} {leader each : Scored} {candidates : List Scored} :
    each ∈ tied policy leader candidates ↔
      each ∈ candidates ∧ isTied policy leader each = .ok true := by
  rw [tied, List.mem_filter, decide_eq_true_eq, toOption_eq_some]

theorem oldestFrom_mem {best winner : Scored} {rest : List Scored}
    (done : oldestFrom best rest = .ok winner) : winner ∈ best :: rest := by
  induction rest generalizing best with
  | nil =>
    cases done
    exact List.mem_cons_self
  | cons next rest ih =>
    obtain ⟨older, -, done⟩ := bind_eq_ok.mp done
    rcases List.mem_cons.mp (ih done) with same | member
    · split at same <;> simp [same]
    · exact List.mem_cons_of_mem best (List.mem_cons_of_mem next member)

def eligible (scored : List Scored) : List Scored := scored.filter (·.eligible)

theorem mem_eligible {scored : List Scored} {each : Scored} :
    each ∈ eligible scored ↔ each ∈ scored ∧ each.eligible = true :=
  List.mem_filter

/-- The steps of a choice: a leader is found, then those that are tied with it, and of them the
oldest. -/
theorem select_eq_some {policy : Policy} {scored : List Scored} {selection : Selection}
    (done : select policy scored = .ok (some selection)) :
    ∃ first rest leader candidate others, eligible scored = first :: rest ∧
      leaderFrom first rest = .ok leader ∧
      tied policy leader (eligible scored) = candidate :: others ∧
      oldestFrom candidate others = .ok selection.winner ∧
      selection.ambiguous = !others.isEmpty ∧
      confidenceOf policy selection.winner selection.ambiguous = .ok selection.confidence ∧
      selection.eligibleCount = (eligible scored).length := by
  unfold select at done
  split at done
  · cases done
  · rename_i first rest candidates
    obtain ⟨leader, led, done⟩ := bind_eq_ok.mp done
    obtain ⟨kept, tested, done⟩ := bind_eq_ok.mp done
    split at done
    · cases done
    · rename_i candidate others
      obtain ⟨winner, oldest, done⟩ := bind_eq_ok.mp done
      obtain ⟨confidence, worth, done⟩ := bind_eq_ok.mp done
      cases done
      have same := filterChecked_eq (liftDecimal_eq_ok.mp tested)
      refine ⟨first, rest, leader, candidate, others, candidates, liftDecimal_eq_ok.mp led, ?_,
        oldest, rfl, liftDecimal_eq_ok.mp worth, ?_⟩
      · rw [eligible, candidates]
        exact same.symm
      · rw [eligible, candidates, List.length_cons]

theorem select_eq_ok {policy : Policy} {scored : List Scored} {selection : Selection}
    (done : select policy scored = .ok (some selection)) :
    selection.winner ∈ scored ∧ selection.winner.eligible = true ∧
      confidenceOf policy selection.winner selection.ambiguous = .ok selection.confidence := by
  obtain ⟨first, rest, leader, candidate, others, -, -, tied, oldest, -, worth, -⟩ :=
    select_eq_some done
  have member := oldestFrom_mem oldest
  rw [← tied, mem_tied, mem_eligible] at member
  exact ⟨member.1.1, member.1.2, worth⟩

theorem score_eq_ok {policy : Policy} {deposit : Deposit} {intent : Intent} {scored : Scored}
    (done : score policy deposit intent = .ok scored) :
    scored.intent = intent ∧
      withinTolerance policy intent.amount deposit.amount = .ok scored.eligible ∧
      amountScore intent.amount deposit.amount = .ok scored.amountScore ∧
      ∃ mean, blend policy scored.amountScore scored.timeScore = .ok mean ∧
        clamp mean .zero policy.inferredCap = .ok scored.score := by
  obtain ⟨amount, scoredAmount, done⟩ := bind_eq_ok.mp done
  obtain ⟨time, -, done⟩ := bind_eq_ok.mp done
  obtain ⟨mean, blended, done⟩ := bind_eq_ok.mp done
  obtain ⟨eligible, tolerated, done⟩ := bind_eq_ok.mp done
  obtain ⟨score, clamped, done⟩ := bind_eq_ok.mp done
  cases done
  exact ⟨rfl, liftDecimal_eq_ok.mp tolerated, liftDecimal_eq_ok.mp scoredAmount, mean,
    liftDecimal_eq_ok.mp blended, liftDecimal_eq_ok.mp clamped⟩

theorem timeScore_of_score {policy : Policy} {deposit : Deposit} {intent : Intent}
    {scored : Scored} (done : score policy deposit intent = .ok scored) :
    timeScore intent.created intent.expires deposit.confirmed = .ok scored.timeScore := by
  obtain ⟨amount, -, done⟩ := bind_eq_ok.mp done
  obtain ⟨time, scoredTime, done⟩ := bind_eq_ok.mp done
  obtain ⟨mean, -, done⟩ := bind_eq_ok.mp done
  obtain ⟨eligible, -, done⟩ := bind_eq_ok.mp done
  obtain ⟨score, -, done⟩ := bind_eq_ok.mp done
  cases done
  exact scoredTime

theorem minus?_eq_ok {a b : Timestamp} {n : Int} (done : liftClock (a.minus? b) = .ok n) :
    a.sameKind b = true ∧ n = a.instant - b.instant := by
  rw [liftClock_eq_ok, Timestamp.minus?] at done
  split at done
  · rename_i alike
    exact ⟨alike, (Except.ok.inj done).symm⟩
  · cases done

/-- An intent that lasts for some time is measured by the part of its window that is left. -/
theorem timeScore_of_window {created expires confirmed : Timestamp} {score : Decimal}
    (lasts : created.instant < expires.instant)
    (done : timeScore created expires confirmed = .ok score) :
    confirmed.sameKind created = true ∧
      timeLeft (confirmed.instant - created.instant) (expires.instant - created.instant) =
        .ok score := by
  obtain ⟨window, measured, done⟩ := bind_eq_ok.mp done
  obtain ⟨-, rfl⟩ := minus?_eq_ok measured
  have positive : ¬ expires.instant - created.instant ≤ 0 := by omega
  rw [if_neg positive] at done
  obtain ⟨elapsed, since, done⟩ := bind_eq_ok.mp done
  obtain ⟨alike, rfl⟩ := minus?_eq_ok since
  exact ⟨alike, liftDecimal_eq_ok.mp done⟩

/-- What speaks for a selection: the amounts are near enough, the score of the winner was kept
between zero and the cap, and the confidence was cut from it. -/
structure Justified (policy : Policy) (deposit : Deposit) (selection : Selection) : Prop where
  tolerated : withinTolerance policy selection.winner.intent.amount deposit.amount = .ok true
  clamped : ∃ mean, clamp mean .zero policy.inferredCap = .ok selection.winner.score
  cut : confidenceOf policy selection.winner selection.ambiguous = .ok selection.confidence

def choose (policy : Policy) (deposit : Deposit) (intents : List Intent) :
    Except Fault (Option Selection) := do
  select policy (← scoreAll policy deposit intents)

theorem choose_eq_ok {policy : Policy} {deposit : Deposit} {intents : List Intent}
    {selection : Selection}
    (done : choose policy deposit intents = .ok (some selection)) :
    selection.winner.intent ∈ intents ∧ Justified policy deposit selection := by
  obtain ⟨scored, made, done⟩ := bind_eq_ok.mp done
  obtain ⟨member, eligible, worth⟩ := select_eq_ok done
  obtain ⟨intent, inside, scoring⟩ := exists_of_mem_mapM made member
  obtain ⟨same, tolerated, -, mean, -, clamped⟩ := score_eq_ok scoring
  rw [eligible, ← same] at tolerated
  exact ⟨same ▸ inside, tolerated, ⟨mean, clamped⟩, worth⟩

end Reconcile.Matching
