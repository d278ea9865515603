import Reconcile.Proofs.Matching.Choosing

set_option autoImplicit false

/-
Who comes first among intents for one amount. The oldest of the tied wins, but a younger intent can
be tied by its score alone, while the oldest one for its amount, which has less time left, is not.
-/
namespace Reconcile

namespace Decimal

/-- What is divided by a value that is no number is no number. -/
theorem div_isNan {a b r : Decimal} (nan : b.isNan = true) (done : a.div b = .ok r) :
    r.isNan = true := by
  cases b with
  | finite s c e => cases nan
  | infinite s => cases nan
  | nan s signaling payload =>
    have spreads : a.spread (.nan s signaling payload) = .ok r := by
      cases a <;> exact done
    unfold spread at spreads
    split_ifs at spreads
    cases a <;> cases spreads <;> rfl

end Decimal

namespace Matching

section

variable {policy : Policy} {deposit : Deposit}

/-- The amount of an intent within tolerance is a number or infinite. -/
theorem isNan_of_tolerated {declared actual : Decimal}
    (tolerated : withinTolerance policy declared actual = .ok true) : declared.isNan = false := by
  obtain ⟨gap, measured, tolerated⟩ := bind_eq_ok.mp tolerated
  obtain ⟨bound, -, compared⟩ := bind_eq_ok.mp tolerated
  obtain ⟨difference, -, measured⟩ := bind_eq_ok.mp measured
  obtain ⟨size, -, divided⟩ := bind_eq_ok.mp measured
  by_contra nan
  have none := Decimal.div_isNan (Bool.eq_true_of_not_eq_false nan) divided
  rw [(Decimal.numbers_of_le? compared).1] at none
  cases none

/-- A candidate whose intent was declared for the amount of another. -/
structure Rivals (scored : List Scored) (winner each : Scored) : Prop where
  candidate : each ∈ eligible scored
  amount : each.intent.amount.same? winner.intent.amount = .ok true

theorem Rivals.refl {intents : List Intent} {scored : List Scored} {each : Scored}
    (done : scoreAll policy deposit intents = .ok scored) (member : each ∈ eligible scored) :
    Rivals scored each each := by
  obtain ⟨inside, passes⟩ := mem_eligible.mp member
  obtain ⟨intent, -, made⟩ := exists_of_mem_mapM done inside
  obtain ⟨same, tolerated, -⟩ := score_eq_ok made
  rw [passes, ← same] at tolerated
  have number := isNan_of_tolerated tolerated
  exact ⟨member, Decimal.same?_iff.mpr ⟨number, number, rfl, rfl⟩⟩

/-- Under an accepted policy the winner is the oldest candidate for its amount exactly if an oldest
one for that amount is tied with the leader, the first of the candidates with the highest score. -/
theorem oldest_of_amount_wins_iff {intents : List Intent} {scored : List Scored}
    {selection : Selection} (accepted : policy.check = .ok ())
    (done : scoreAll policy deposit intents = .ok scored)
    (chosen : select policy scored = .ok (some selection)) :
    ∃ leader, Leads (eligible scored) leader ∧
      ((∀ each, Rivals scored selection.winner each →
          ¬ each.intent.OlderThan selection.winner.intent) ↔
        ∃ oldest, Rivals scored selection.winner oldest ∧
          (∀ each, Rivals scored selection.winner each →
            ¬ each.intent.OlderThan oldest.intent) ∧
          isTied policy leader oldest = .ok true) := by
  have bounded := bounded_of_scoreAll (Policy.capped_of_check accepted) done
  have finite : ∀ each ∈ eligible scored, each.score.isFinite = true := fun each member =>
    (bounded each (mem_eligible.mp member).1).score.isFinite
  obtain ⟨leader, choice⟩ := exists_chosen finite chosen
  obtain ⟨member, tied⟩ := mem_tied.mp choice.oldest.member
  refine ⟨leader, choice.leads, ?_, ?_⟩
  · intro first
    exact ⟨selection.winner, .refl done member, first, tied⟩
  · rintro ⟨oldest, rival, first, oldestTied⟩ each other older
    -- The winner is no younger than the oldest, and so what is older than it is older than that.
    have yields := choice.oldest.first oldest (mem_tied.mpr ⟨rival.candidate, oldestTied⟩)
    exact first each other (older.of_not yields)

end

namespace Precedence

def deposit : Deposit :=
  ⟨"t", ⟨"v", 1, "r"⟩, .finite false 100 0, .one, .utc (1800 * Timestamp.second), none⟩

def intent (id : String) (amount : Decimal) (second : Int) : Intent :=
  ⟨id, "acme", ⟨"v", 1, "r"⟩, amount, .utc (second * Timestamp.second),
    .utc ((second + 3600) * Timestamp.second), [], .pending⟩

/-- The first intent is for the amount of the deposit, the others are for 99.9. The second was
declared just before the first, and the third half an hour earlier. -/
def intents : List Intent :=
  [intent "leader" (.finite false 100 0) 1740, intent "younger" (.finite false 999 (-1)) 1730,
    intent "older" (.finite false 999 (-1)) 0]

/-- Whether a candidate older than the winner was declared for the same amount. -/
def overtakes : Except Fault Bool := do
  let scored ← scoreAll .usual deposit intents
  let choice ← select .usual scored
  return choice.any fun selection => (eligible scored).any fun each =>
    (each.intent.amount.same? selection.winner.intent.amount).toOption = some true ∧
      each.intent.OlderThan selection.winner.intent

/-- The intent that was declared just before the leader wins. -/
theorem younger_wins :
    ∃ scored selection, scoreAll .usual deposit intents = .ok scored ∧
      select .usual scored = .ok (some selection) ∧
      ∃ each, Rivals scored selection.winner each ∧
        each.intent.OlderThan selection.winner.intent := by
  have loses : overtakes.toOption = some true := by decide +kernel
  obtain ⟨scored, done, loses⟩ := bind_eq_ok.mp (toOption_eq_some.mp loses)
  obtain ⟨choice, chosen, loses⟩ := bind_eq_ok.mp loses
  cases choice with
  | none => cases loses
  | some selection =>
    obtain ⟨each, member, found⟩ := List.any_eq_true.mp (Except.ok.inj loses)
    obtain ⟨same, older⟩ := of_decide_eq_true found
    exact ⟨scored, selection, done, chosen, each, ⟨member, toOption_eq_some.mp same⟩, older⟩

end Precedence

/-- Of three intents one wins that is not the oldest for its amount, so no oldest one for that
amount is tied with the leader. -/
theorem oldest_of_amount_wins_iff_overtaken :
    ∃ scored selection, scoreAll .usual Precedence.deposit Precedence.intents = .ok scored ∧
      select .usual scored = .ok (some selection) ∧
      ∃ leader, Leads (eligible scored) leader ∧
        ¬ ∃ oldest, Rivals scored selection.winner oldest ∧
          (∀ each, Rivals scored selection.winner each →
            ¬ each.intent.OlderThan oldest.intent) ∧
          isTied .usual leader oldest = .ok true := by
  obtain ⟨scored, selection, done, chosen, each, rival, older⟩ := Precedence.younger_wins
  obtain ⟨leader, leads, wins⟩ := oldest_of_amount_wins_iff rfl done chosen
  exact ⟨scored, selection, done, chosen, leader, leads,
    fun oldest => wins.mpr oldest each rival older⟩

/-- An older intent for the same amount can lose. -/
theorem older_intent_of_amount_loses :
    ¬ ∀ (policy : Policy) (deposit : Deposit) (intents : List Intent) (scored : List Scored)
      (selection : Selection), policy.check = .ok () →
      scoreAll policy deposit intents = .ok scored →
      select policy scored = .ok (some selection) →
      ∀ each, Rivals scored selection.winner each →
        ¬ each.intent.OlderThan selection.winner.intent := by
  intro claim
  obtain ⟨scored, selection, done, chosen, each, rival, older⟩ := Precedence.younger_wins
  exact claim .usual _ _ scored selection rfl done chosen each rival older

end Matching

end Reconcile
