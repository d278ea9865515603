import Reconcile.Proofs.Engine.Declaring
import Reconcile.Proofs.Engine.Redelivery

set_option autoImplicit false

/-
What becomes of the amounts in payloads. The tables keep a nearest number of those that have a
canonical form, so an amount is kept exactly if it has one, and any other amount is changed.
-/
namespace Reconcile

open Decimal (Rounds Representable)

namespace Delivery

/-- Until a delivery has ended its transaction has no attribution. One that it then tells has the
amounts of the deposit, and so has the row. -/
structure Stage.Credits (task : Task) (stage : Stage) (store : Store) : Prop where
  fresh : (∀ ending, stage ≠ .done ending) → store.attribution? task.deposit.txHash = none
  told : ∀ ending attribution, stage = .done ending → ending.result = .ok (some attribution) →
    attribution.assets = task.deposit.amount ∧ attribution.shares = some task.deposit.shares ∧
      ∃ row, store.attribution? task.deposit.txHash = some row ∧
        row.assets = task.deposit.amount ∧ row.shares = some task.deposit.shares

theorem Stage.Decides.amounts {deposit : Deposit} {stage : Stage} {decision : Decision}
    (decides : stage.Decides deposit decision) :
    decision.assets = deposit.amount ∧ decision.shares = some deposit.shares := by
  cases decides <;> exact ⟨rfl, rfl⟩

/-- The row of a decision keeps the amounts of the deposit, which are in canonical form. -/
theorem row_amounts {deposit : Deposit} {decision : Decision} {now : Timestamp}
    {row : Attribution} (canonical : deposit.Canonical) (assets : decision.assets = deposit.amount)
    (shares : decision.shares = some deposit.shares)
    (made : Store.attributionRow (.ofDecision deposit.txHash decision now) = .ok row) :
    row.assets = deposit.amount ∧ row.shares = some deposit.shares := by
  obtain ⟨-, keptAssets, keptShares, -, -⟩ := Store.attributionRow_passes made
  simp only [Attribution.ofDecision, assets, shares] at keptAssets keptShares
  rw [canonical.amount] at keptAssets
  rw [canonical.someShares] at keptShares
  exact ⟨(Except.ok.inj keptAssets).symm, (Except.ok.inj keptShares).symm⟩

theorem Task.Leads.fresh {task : Task} {store after : Store} {stage next : Stage}
    (leads : task.Leads false store stage next after)
    (absent : store.attribution? task.deposit.txHash = none)
    (going : ∀ ending, next ≠ .done ending) :
    after.attribution? task.deposit.txHash = none := by
  rcases leads.onlyObserved with kept | ⟨attribution, ended⟩
  · rw [Store.attribution?, kept.attributions]
    exact absent
  · exact absurd ended (going _)

theorem Stage.Credits.ofLeads {task : Task} {store after : Store} {stage next : Stage}
    (canonical : task.deposit.Canonical) (credits : stage.Credits task store)
    (leads : task.Leads false store stage next after) : next.Credits task after := by
  by_cases ended : ∃ ending, stage = .done ending
  · obtain ⟨ending, rfl⟩ := ended
    cases leads with
    | failed stage other => exact ⟨fun going => absurd rfl (going _), by rintro _ _ ⟨⟩ ⟨⟩⟩
    | ended ending => exact credits
    | recorded decides => cases decides
    | rivalled decides => cases decides
    | conflicted intent decides => cases decides
  · have absent := credits.fresh fun ending same => ended ⟨ending, same⟩
    refine ⟨leads.fresh absent, ?_⟩
    intro ending attribution last answered
    cases leads with
    | found present =>
      rw [absent] at present
      cases present
    | @recorded _ decision _ _ _ decides claims done =>
      cases last
      cases answered
      obtain ⟨assets, shares⟩ := decides.amounts
      obtain ⟨row, made, placed⟩ :=
        Store.attribution?_of_record (claims.resolve_left Bool.false_ne_true) done
          task.deposit.txHash
      rw [(Store.commit_eq_ok done).2.1]
      rw [if_pos rfl] at placed
      exact ⟨assets, shares, row, placed, row_amounts canonical assets shares made⟩
    | reread =>
      cases last
      rw [absent] at answered
      cases answered
    | noneFits | givenUp | conflicted | failed =>
      cases last
      cases answered
    | ended => exact absurd ⟨_, rfl⟩ ended
    | known present looks | observedTwice present looks | observed done looks =>
      subst last
      cases looks
    | _ => cases last

end Delivery

namespace Engine

/-- The first attribution of a transaction, and its row, have the amounts of the deposit. -/
theorem deliverDeposit_amounts {engine : Engine} {deposit : Deposit} {now : Timestamp}
    {attribution : Attribution} (canonical : deposit.Canonical)
    (answered : (engine.deliverDeposit deposit now .absent).result = .ok (some attribution))
    (absent : engine.store.attribution? deposit.txHash = none) :
    attribution.assets = deposit.amount ∧ attribution.shares = some deposit.shares ∧
      ∃ row, (engine.deliverDeposit deposit now .absent).engine.store.attribution?
          deposit.txHash = some row ∧
        row.assets = deposit.amount ∧ row.shares = some deposit.shares := by
  let task : Delivery.Task := ⟨engine.settings.matching, deposit, now⟩
  have start : Delivery.Stage.lookUp.Credits task engine.store :=
    ⟨fun _ => absent, by rintro _ _ ⟨⟩⟩
  have enough : Delivery.Stage.lookUp.left ≤ Delivery.mostSteps := by decide
  obtain ⟨ending, ended⟩ := Delivery.run_done task Delivery.mostSteps .absent
    ⟨.lookUp, engine.store, []⟩ enough
  have credits := Delivery.run_invariant task
    (fun stage store credits => credits.ofLeads canonical (task.step_leads false stage store))
    Delivery.mostSteps ⟨.lookUp, engine.store, []⟩ start
  refine credits.told ending attribution ended ?_
  rw [← answered]
  simp only [deliverDeposit, Delivery.process, task] at ended ⊢
  rw [ended]
  rfl

/-- The amount of a declared intent and the assets and shares of an attributed deposit are nearest
to what the payload holds, of all numbers that a decimal with 28 digits can stand for, and the same
exactly if it is one of those. -/
theorem amounts_kept_to_nearest (engine : Engine) (payload : Json) (now : Timestamp) :
    (∀ intent, (engine.declare payload now false).result = .ok intent →
      ∃ sent stored, Payload.Holds payload ["amount"] sent ∧
        (engine.declare payload now false).engine.store.getIntent intent.id = .ok stored ∧
        Rounds sent.toRat stored.amount ∧
        (stored.amount.toRat = sent.toRat ↔ Representable sent.toRat)) ∧
    (∀ attribution, (engine.deliver payload now .absent).result = .ok (some attribution) →
      engine.store.attribution? attribution.txHash = none →
      ∃ stored, (engine.deliver payload now .absent).engine.store.attribution?
          attribution.txHash = some stored ∧
        stored.assets = attribution.assets ∧ stored.shares = attribution.shares ∧
        (∃ sent, Payload.Holds payload Payload.Delivery.amountNames sent ∧
          Rounds sent.toRat attribution.assets ∧
          (attribution.assets.toRat = sent.toRat ↔ Representable sent.toRat)) ∧
        ∃ shares, attribution.shares = some shares ∧
          ((∃ sent, Payload.Holds payload Payload.Delivery.sharesNames sent ∧
            Rounds sent.toRat shares ∧ (shares.toRat = sent.toRat ↔ Representable sent.toRat)) ∨
            Payload.Lacks payload Payload.Delivery.sharesNames ∧ shares = .zero)) := by
  have kept : ∀ {names : List String} {sent canonical : Decimal},
      Payload.Holds payload names sent → sent.normalize = .ok canonical →
      Rounds sent.toRat canonical := by
    intro names sent canonical held made
    exact Decimal.rounds_of_normalize held.isFinite made
  refine ⟨?_, ?_⟩
  · intro intent done
    obtain ⟨declaration, read, amount, -, -, added⟩ := declare_eq_ok done
    obtain ⟨held, -⟩ := Payload.Declaration.read_amount read
    obtain ⟨row, made, found, -⟩ := Store.insertIntent_eq_row added
    have column := (Store.intentRow_passes made).amount
    -- The amount is in canonical form by now, so the column keeps it as it is.
    have same : intent.amount = row.amount := by
      rw [Column.decimal_eq_ok, Decimal.normalize_idem amount] at column
      exact Except.ok.inj column
    rw [same] at amount
    refine ⟨declaration.amount, row, held, ?_, kept held amount, (kept held amount).eq_iff⟩
    rw [Store.getIntent, found]
  · intro attribution answered absent
    unfold deliver at answered ⊢
    split at answered
    · cases answered
    · rename_i deposit read
      have canonical := Payload.Delivery.read_canonical read
      obtain ⟨-, -, -, named⟩ := deliverDeposit_stored canonical answered
      rw [named] at absent ⊢
      obtain ⟨assets, shares, row, found, rowAssets, rowShares⟩ :=
        deliverDeposit_amounts canonical answered absent
      obtain ⟨⟨amount, heldAmount, -, madeAmount⟩, readShares⟩ :=
        Payload.Delivery.read_amounts read
      rw [← assets] at madeAmount rowAssets
      rw [← shares] at rowShares
      refine ⟨row, found, rowAssets, rowShares, ⟨amount, heldAmount, kept heldAmount madeAmount,
        (kept heldAmount madeAmount).eq_iff⟩, deposit.shares, shares, ?_⟩
      rcases readShares with ⟨sent, held, -, made⟩ | lacks
      · exact Or.inl ⟨sent, held, kept held made, (kept held made).eq_iff⟩
      · exact Or.inr lacks

def Amounts.long : Int := 12345678901234567890123456789

def Amounts.declaration : Json :=
  .object [("id", .string "i"), ("partnerId", .string "acme"), ("vaultId", .string "v"),
    ("chainId", .int 1), ("receiver", .string "0x1"), ("amount", .int Amounts.long),
    ("createdAt", .string "1970-01-01T00:00:00Z"), ("expiresAt", .string "1970-01-01T01:00:00Z")]

def Amounts.delivery : Json :=
  .object [("txHash", .string "0xab"), ("vaultId", .string "v"), ("chainId", .int 1),
    ("receiver", .string "0x1"), ("amount", .int Amounts.long), ("shares", .int 1),
    ("confirmedAt", .string "1970-01-01T00:00:00Z"), ("explicitPartnerTag", .string "acme")]

/-- The declared and the delivered amount both lose their last digit. -/
theorem amounts_kept_to_nearest_long :
    (∃ sent stored,
      ((start .usual).declare Amounts.declaration (.utc 0) false).engine.store.getIntent "i" =
        .ok stored ∧
      Payload.Holds Amounts.declaration ["amount"] sent ∧ Rounds sent.toRat stored.amount) ∧
    ∃ sent attribution,
      ((start .usual).deliver Amounts.delivery (.utc 0) .absent).result = .ok (some attribution) ∧
      Payload.Holds Amounts.delivery Payload.Delivery.amountNames sent ∧
      Rounds sent.toRat attribution.assets := by
  have declared : ((start .usual).declare Amounts.declaration (.utc 0)
      false).result.toOption.map (·.id) = some "i" := by
    decide +kernel
  have delivered : (((start .usual).deliver Amounts.delivery (.utc 0)
      .absent).result.toOption.bind id).isSome := by
    decide +kernel
  refine ⟨?_, ?_⟩
  · obtain ⟨intent, told, named⟩ := Option.map_eq_some_iff.mp declared
    obtain ⟨declares, -⟩ := amounts_kept_to_nearest (start .usual) Amounts.declaration (.utc 0)
    obtain ⟨sent, stored, held, found, rounds, -⟩ := declares intent (toOption_eq_some.mp told)
    rw [named] at found
    exact ⟨sent, stored, found, held, rounds⟩
  · obtain ⟨attribution, found⟩ := Option.isSome_iff_exists.mp delivered
    obtain ⟨_, told, rfl⟩ := Option.bind_eq_some_iff.mp found
    have answered := toOption_eq_some.mp told
    obtain ⟨-, delivers⟩ := amounts_kept_to_nearest (start .usual) Amounts.delivery (.utc 0)
    obtain ⟨-, -, -, -, ⟨sent, held, rounds, -⟩, -⟩ := delivers attribution answered rfl
    exact ⟨sent, attribution, answered, held, rounds⟩

/-- The stored amount of an intent is not always the amount that its payload holds. -/
theorem amount_of_29_digits_changed :
    ∃ sent stored, Payload.Holds Amounts.declaration ["amount"] sent ∧
      ((start .usual).declare Amounts.declaration (.utc 0) false).engine.store.getIntent "i" =
        .ok stored ∧
      stored.amount.toRat ≠ sent.toRat := by
  have kept : (((start .usual).declare Amounts.declaration (.utc 0) false).engine.store.getIntent
      "i").toOption.map (·.amount) = some (.finite false 1234567890123456789012345679 1) := by
    decide +kernel
  obtain ⟨stored, found, amount⟩ := Option.map_eq_some_iff.mp kept
  refine ⟨.ofInt Amounts.long, stored, ⟨_, _, _, rfl, rfl, rfl⟩, toOption_eq_some.mp found, ?_⟩
  have sent : Decimal.ofInt Amounts.long = .finite false 12345678901234567890123456789 0 := rfl
  rw [amount, sent, Decimal.toRat_false, Decimal.toRat_false]
  norm_num

end Engine

end Reconcile
