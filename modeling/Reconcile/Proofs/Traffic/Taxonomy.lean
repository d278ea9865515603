import Reconcile.Proofs.Traffic.Evidence
import Reconcile.Proofs.Traffic.Tags

set_option autoImplicit false

/-
The kinds of attributions. What a delivery decides is what the writer of the tables lets pass, and
so every attribution is a partner's own, a match of limited confidence or credited to nobody.
-/
namespace Reconcile

theorem Deposit.partner?_ne_empty {deposit : Deposit} {partner : String}
    (named : deposit.partner? = some partner) : partner ≠ "" := by
  unfold Deposit.partner? partnerOfTag at named
  dsimp only at named
  split at named
  · cases named
  · rename_i notEmpty
    rw [← Option.some.inj named]
    simpa using notEmpty

namespace Decision

theorem check_explicit (deposit : Deposit) {partner : String} (named : partner ≠ "")
    (intent : Option String) : (explicit deposit partner intent).check = .ok () := by
  have notEmpty : (explicit deposit partner intent).namesPartner = true := by
    simpa [namesPartner, explicit] using named
  change (if (true && (explicit deposit partner intent).namesPartner) = true then
    Except.ok () else _) = _
  rw [notEmpty]
  rfl

theorem check_inferred (deposit : Deposit) (intent : Intent) {confidence : Decimal}
    (finite : confidence.isFinite) (nonneg : 0 ≤ confidence.toRat)
    (below : confidence.toRat < 1) : (inferred deposit intent confidence).check = .ok () := by
  have notBelow : Decimal.zero.le? confidence = .ok true := by
    rw [Decimal.le?_eq rfl finite, Decimal.toRat_zero, decide_eq_true nonneg]
  have notAbove : confidence.le? .one = .ok true := by
    rw [Decimal.le?_eq finite rfl, Decimal.toRat_one, decide_eq_true below.le]
  have uncertain : confidence.same? .one = .ok false := by
    rw [Decimal.same?_eq finite rfl, Decimal.toRat_one, decide_eq_false below.ne]
  simp only [check, inferred, notBelow, notAbove, uncertain]
  rfl

end Decision

/-- What the tables speak for passes the writer's rules. -/
theorem Store.Backs.check {policy : Policy} {store : Store} {deposit : Deposit}
    {decision : Decision} (capped : policy.Capped) (backs : store.Backs policy deposit decision) :
    decision.check = .ok () := by
  cases backs with
  | named named => exact Decision.check_explicit deposit (Deposit.partner?_ne_empty named) none
  | exact named exactly =>
    exact Decision.check_explicit deposit (Deposit.partner?_ne_empty named) _
  | chosen nameless expects justified =>
    obtain ⟨within, -⟩ := justified.confidence_within capped
    exact Decision.check_inferred deposit _ within.isFinite within.nonneg
      (within.le.trans_lt capped.belowOne)
  | nobody => rfl

namespace Attribution

/-- How a deposit got its attribution: its partner was named on it, it was matched with an intent,
or neither. -/
inductive Kind
  | named
  | matched
  | nobody

/-- What a row of each kind holds. Only one that was named is certain. The confidence of one that
was matched is a whole number of ten thousandths within the cap of the policy, which is below
one. -/
def IsOf (policy : Policy) (store : Store) (row : Attribution) : Kind → Prop
  | .named => ∃ partner, partner ≠ "" ∧ row.NamedBy partner
  | .matched => row.source = .inferred ∧
    (∃ intent, store.intent? intent.id = some intent ∧ row.intent = some intent.id ∧
      row.partner = some intent.partner) ∧
    Decimal.Within policy.inferredCap row.confidence ∧ policy.inferredCap.toRat < 1 ∧
    ∃ n : Nat, row.confidence.toRat = n / 10000
  | .nobody => row.source = .inferred ∧ row.isTerminal = true

variable {policy : Policy} {store : Store} {row : Attribution}

theorem isTerminal_iff :
    row.isTerminal = true ↔
      row.partner = none ∧ row.intent = none ∧ row.confidence.isZero = true := by
  simp [isTerminal, and_assoc]

theorem IsOf.unique {kind other : Kind} (first : row.IsOf policy store kind)
    (second : row.IsOf policy store other) : kind = other := by
  -- The source tells a named row from the others, and the link tells those apart.
  have explicit : row.IsOf policy store .named → row.source = .explicit := by
    rintro ⟨partner, -, named⟩
    exact named.1
  have linked : row.IsOf policy store .matched → row.source = .inferred ∧ row.intent ≠ none := by
    rintro ⟨inferred, ⟨intent, -, link, -⟩, -⟩
    exact ⟨inferred, by simp [link]⟩
  have unlinked : row.IsOf policy store .nobody → row.source = .inferred ∧ row.intent = none := by
    rintro ⟨inferred, terminal⟩
    exact ⟨inferred, (isTerminal_iff.mp terminal).2.1⟩
  cases kind <;> cases other <;> simp_all

end Attribution

namespace Store

variable {policy : Policy} {store : Store}

/-- The row that the columns make of a decision is of the kind of the decision. -/
theorem Backs.kind {deposit : Deposit} {decision : Decision} {now : Timestamp} {row : Attribution}
    (capped : policy.Capped) (keyed : (store.intents.map (·.id)).Nodup)
    (backs : store.Backs policy deposit decision)
    (made : attributionRow (.ofDecision deposit.txHash decision now) = .ok row) :
    ∃ kind, row.IsOf policy store kind := by
  cases backs with
  | named named =>
    exact ⟨.named, _, Deposit.partner?_ne_empty named, explicit_row made⟩
  | exact named exactly =>
    exact ⟨.named, _, Deposit.partner?_ne_empty named, explicit_row made⟩
  | @chosen selection nameless expects justified =>
    obtain ⟨-, sameIntent, samePartner, sameSource, kept⟩ := attributionRow_eq_ok made
    obtain ⟨within, n, places⟩ := justified.confidence_within capped
    obtain ⟨s, c, e, finite⟩ := Decimal.eq_finite_of_isFinite within.isFinite
    have number : selection.confidence.isNan = false := by
      rw [finite]
      rfl
    obtain ⟨-, finiteRow, same⟩ :=
      justified.confidence_kept number (Column.decimal_eq_ok.mp kept)
    obtain ⟨status, found⟩ := expects.lists.intent? keyed
    refine ⟨.matched, sameSource, ⟨{ selection.winner.intent with status }, found, sameIntent,
      samePartner⟩, ?_, capped.belowOne, n, ?_⟩
    · exact ⟨finiteRow, same ▸ within.nonneg, same ▸ within.le⟩
    · rw [same, places]
  | nobody =>
    have inferred : row.source = .inferred := (attributionRow_eq_ok made).2.2.2.1
    exact ⟨.nobody, inferred, unattributed_row made⟩

end Store

namespace Traffic

/-- Under a policy that keeps its rules, whatever the tables hold and whoever else is at work, what
a delivery decides is let pass by the writer. On tables that were empty at first, every attribution
then is of exactly one kind. -/
theorem attributions_of_one_kind (policy : Policy) (accepted : policy.check = .ok ()) :
    (∀ (store : Store) (schedule : List Move), GoesBy policy schedule →
      ∀ (n : Nat) (task : Delivery.Task) (stage : Delivery.Stage) (decision : Decision),
        ((on store).run schedule).calls[n]? = some (.delivery task stage) →
        stage.Decides task.deposit decision → decision.check = .ok ()) ∧
    ∀ schedule : List Move, GoesBy policy schedule →
      ∀ row ∈ ((on .empty).run schedule).store.attributions,
        ∃! kind, row.IsOf policy ((on .empty).run schedule).store kind := by
  have capped := Policy.capped_of_check accepted
  have returns : Store.Returns fun _ => True := fun _ _ _ _ _ _ _ _ => Or.inr True.intro
  have evident : ∀ (store : Store) (schedule : List Move), GoesBy policy schedule →
      Holds (Store.Evident policy (fun _ => True) store.attributions)
        (Informed policy fun _ => True) ((on store).run schedule) :=
    fun store schedule goes =>
      run_evident (fun _ _ => True.intro) returns schedule goes fun _ _ => True.intro
  refine ⟨?_, ?_⟩
  · intro store schedule goes n task stage decision present decides
    obtain ⟨same, -, knows⟩ := (evident store schedule goes).calls n _ present
    exact (knows.backs decides).check (same ▸ capped)
  · intro schedule goes row member
    obtain old | ⟨deposit, decision, now, -, backs, made⟩ :=
      (evident .empty schedule goes).store.attributions row member
    · cases old
    · have keyed := (run_sound schedule).intents.nodup
      obtain ⟨kind, fits⟩ := backs.kind capped keyed made
      exact ⟨kind, fits, fun other also => also.unique fits⟩

def decision? : Activity → Option (Deposit × Decision)
  | .delivery task (.claimExact partner (intent :: _)) =>
    some (task.deposit, .explicit task.deposit partner (some intent))
  | .delivery task (.record partner) => some (task.deposit, .explicit task.deposit partner none)
  | .delivery task (.claim _ _ selection) =>
    some (task.deposit, .inferred task.deposit selection.winner.intent selection.confidence)
  | _ => none

theorem decision?_eq_some {call : Activity} {deposit : Deposit} {decision : Decision}
    (found : decision? call = some (deposit, decision)) :
    ∃ task stage, call = .delivery task stage ∧ stage.Decides task.deposit decision := by
  unfold decision? at found
  split at found
  · cases found
    exact ⟨_, _, rfl, .linked _ _ _⟩
  · cases found
    exact ⟨_, _, rfl, .unlinked _⟩
  · cases found
    exact ⟨_, _, rfl, .inferred _ _ _⟩
  · cases found

def claiming : List Move :=
  [.declare Sample.intent, .deliver .usual (.parsed Sample.deposit) (.utc 0)] ++
    List.replicate 4 (.advance 0)

theorem claiming_goes : GoesBy .usual (claiming ++ [.advance 0]) := by
  intro other parcel now began
  simp [claiming] at began
  exact began.1

theorem attributions_of_one_kind_matched :
    (∃ task stage decision,
      ((on .empty).run claiming).calls[0]? = some (.delivery task stage) ∧
      stage.Decides task.deposit decision ∧ decision.check = .ok ()) ∧
    ∃ row ∈ ((on .empty).run (claiming ++ [.advance 0])).store.attributions,
      row.source = .inferred ∧
        ∃! kind, row.IsOf .usual ((on .empty).run (claiming ++ [.advance 0])).store kind := by
  obtain ⟨passes, kinds⟩ := attributions_of_one_kind .usual (by rfl)
  refine ⟨?_, ?_⟩
  · have decides : (((on .empty).run claiming).calls[0]?.bind decision?).isSome := by
      decide +kernel
    obtain ⟨⟨deposit, decision⟩, found⟩ := Option.isSome_iff_exists.mp decides
    obtain ⟨call, present, about⟩ := Option.bind_eq_some_iff.mp found
    obtain ⟨task, stage, rfl, decides⟩ := decision?_eq_some about
    have goes : GoesBy .usual claiming := fun other parcel now began =>
      claiming_goes other parcel now (List.mem_append_left _ began)
    exact ⟨task, stage, decision, present, decides,
      passes .empty claiming goes 0 task stage decision present decides⟩
  · have matched : ((on .empty).run (claiming ++ [.advance 0])).store.attributions.any
        (·.source = .inferred) := by
      decide +kernel
    obtain ⟨row, member, inferred⟩ := List.any_eq_true.mp matched
    exact ⟨row, member, of_decide_eq_true inferred,
      kinds (claiming ++ [.advance 0]) claiming_goes row member⟩

end Traffic

end Reconcile
