import Reconcile.Payload.Declaration
import Reconcile.Proofs.Decimal.Rounding
import Reconcile.Proofs.Payload.Delivery

set_option autoImplicit false

/-
The amounts in payloads. A field holds a finite decimal, which is above zero for an amount and at
least zero for shares. It is taken with all its digits; only its canonical form is rounded.
-/
namespace Reconcile

namespace Payload

/-- A payload holds a decimal under the first of these names that it has. -/
def Holds (payload : Json) (names : List String) (sent : Decimal) : Prop :=
  ∃ fields name value, payload = .object fields ∧ given? fields names = some (name, value) ∧
    decimal value = .ok sent

/-- A payload has none of these names. -/
def Lacks (payload : Json) (names : List String) : Prop :=
  ∃ fields, payload = .object fields ∧ given? fields names = none

theorem withDefault_eq_good {α : Type} {fields : Json.Fields} {names : List String}
    {absent : α} {read : Json → Reading α} {value : α} :
    withDefault fields names absent read = .good value ↔
      (given? fields names = none ∧ value = absent) ∨
        ∃ name written, given? fields names = some (name, written) ∧
          read written = .ok value := by
  unfold withDefault
  split
  · rename_i name written given
    rw [given, checked_eq_good]
    constructor
    · intro done
      exact Or.inr ⟨name, written, rfl, done⟩
    · rintro (⟨none, -⟩ | ⟨other, kept, same, done⟩)
      · cases none
      · cases same
        exact done
  · rename_i none
    simp [none, eq_comm]

theorem isFinite_of_kept {reading : Reading Decimal} {sent : Decimal}
    (done : (do
      let read ← reading
      if read.isFinite then .ok read else wrong .notFinite) = .ok sent) : sent.isFinite := by
  obtain ⟨read, -, done⟩ := bind_eq_ok.mp done
  split at done
  · rename_i finite
    cases done
    exact finite
  · cases done

theorem decimal_isFinite {value : Json} {sent : Decimal} (done : decimal value = .ok sent) :
    sent.isFinite := by
  unfold decimal at done
  dsimp only at done
  split at done
  · exact isFinite_of_kept done
  · exact isFinite_of_kept done
  · split at done <;> exact isFinite_of_kept done
  all_goals exact isFinite_of_kept done

theorem Holds.isFinite {payload : Json} {names : List String} {sent : Decimal}
    (holds : Holds payload names sent) : sent.isFinite := by
  obtain ⟨fields, name, value, -, -, held⟩ := holds
  exact decimal_isFinite held

theorem order_zero {a : Decimal} (finite : a.isFinite) : a.order .zero = cmp a.toRat 0 := by
  obtain ⟨s, c, e, rfl⟩ := Decimal.eq_finite_of_isFinite finite
  rw [Decimal.zero, Decimal.order_finite, Decimal.toRat_of_coefficient_zero]

theorem positive_eq_ok {value : Json} {sent : Decimal} (done : positive value = .ok sent) :
    decimal value = .ok sent ∧ 0 < sent.toRat := by
  obtain ⟨read, taken, done⟩ := bind_eq_ok.mp done
  split at done
  · rename_i above
    cases done
    rw [order_zero (decimal_isFinite taken)] at above
    exact ⟨taken, (cmp_eq_gt_iff _ _).mp above⟩
  · cases done

theorem notNegative_eq_ok {value : Json} {sent : Decimal} (done : notNegative value = .ok sent) :
    decimal value = .ok sent ∧ 0 ≤ sent.toRat := by
  obtain ⟨read, taken, done⟩ := bind_eq_ok.mp done
  split at done
  · cases done
  · rename_i notBelow
    cases done
    rw [order_zero (decimal_isFinite taken)] at notBelow
    exact ⟨taken, not_lt.mp fun below => notBelow ((cmp_eq_lt_iff _ _).mpr below)⟩

end Payload

namespace Payload.Declaration

theorem ofFields_eq_good {fields : Json.Fields} {declaration : Declaration}
    (filled : ofFields fields = .good declaration) :
    required fields "amount" [] positive = .good declaration.amount := by
  -- The last field is the first to come off.
  obtain ⟨_, metadata, upToExpires, -, rfl⟩ := Checked.seq_eq_good.mp filled
  obtain ⟨_, expires, upToCreated, -, rfl⟩ := Checked.seq_eq_good.mp upToExpires
  obtain ⟨_, created, upToAmount, -, rfl⟩ := Checked.seq_eq_good.mp upToCreated
  obtain ⟨_, amount, upToReceiver, held, rfl⟩ := Checked.seq_eq_good.mp upToAmount
  obtain ⟨_, receiver, upToChain, -, rfl⟩ := Checked.seq_eq_good.mp upToReceiver
  obtain ⟨_, chain, upToVault, -, rfl⟩ := Checked.seq_eq_good.mp upToChain
  obtain ⟨_, vault, upToPartner, -, rfl⟩ := Checked.seq_eq_good.mp upToVault
  obtain ⟨_, partner, first, -, rfl⟩ := Checked.seq_eq_good.mp upToPartner
  obtain ⟨id, -, rfl⟩ := Checked.map_eq_good.mp first
  exact held

/-- The amount of a declaration is the decimal that its payload holds, and it is above zero. -/
theorem read_amount {payload : Json} {declaration : Declaration}
    (done : read payload = .ok declaration) :
    Holds payload ["amount"] declaration.amount ∧ 0 < declaration.amount.toRat := by
  unfold read at done
  split at done
  · rename_i fields
    split at done
    · rename_i filled
      cases done
      obtain ⟨name, value, given, taken⟩ := required_eq_good.mp (ofFields_eq_good filled)
      obtain ⟨held, above⟩ := positive_eq_ok taken
      exact ⟨⟨fields, name, value, rfl, given, held⟩, above⟩
    · cases done
    · cases done
  · cases done

theorem toIntent_eq_ok {declaration : Declaration} {now : Timestamp} {usual : Duration}
    {issued : Nat} {intent : Intent}
    (done : (declaration.toIntent now usual issued).2 = .ok intent) :
    declaration.amount.normalize = .ok intent.amount := by
  unfold toIntent at done
  split at done
  · cases done
  · obtain ⟨amount, kept, done⟩ := bind_eq_ok.mp done
    cases done
    exact liftDecimal_eq_ok.mp kept

end Payload.Declaration

namespace Payload.Delivery

def amountNames : List String := ["amount", "assets", "assets_dec"]

def sharesNames : List String := ["shares", "shares_amount", "sharesAmount", "shares_dec"]

/-- What a delivery makes of the amounts that its payload holds. Shares that are not given are
zero. -/
theorem read_amounts {payload : Json} {deposit : Deposit} (done : read payload = .ok deposit) :
    (∃ sent, Holds payload amountNames sent ∧ 0 < sent.toRat ∧
      sent.normalize = .ok deposit.amount) ∧
    ((∃ sent, Holds payload sharesNames sent ∧ 0 ≤ sent.toRat ∧
      sent.normalize = .ok deposit.shares) ∨
      Lacks payload sharesNames ∧ deposit.shares = .zero) := by
  obtain ⟨fields, given, rfl, filled, amountKept, sharesKept, -⟩ := read_eq_ok done
  have fills := ofFields_eq_good filled
  refine ⟨?_, ?_⟩
  · obtain ⟨name, value, found, taken⟩ := required_eq_good.mp fills.amount
    obtain ⟨held, above⟩ := positive_eq_ok taken
    exact ⟨given.amount, ⟨fields, name, value, rfl, found, held⟩, above, amountKept⟩
  · rcases withDefault_eq_good.mp fills.shares with ⟨absent, none⟩ | ⟨name, value, found, taken⟩
    · rw [none] at sharesKept
      exact Or.inr ⟨⟨fields, rfl, absent⟩, (Except.ok.inj sharesKept).symm⟩
    · obtain ⟨held, notBelow⟩ := notNegative_eq_ok taken
      exact Or.inl ⟨given.shares, ⟨fields, name, value, rfl, found, held⟩, notBelow, sharesKept⟩

theorem chain_nonneg {value : Json} {n : Int} (done : chain value = .ok n) : 0 ≤ n := by
  obtain ⟨read, -, done⟩ := bind_eq_ok.mp done
  split at done
  · cases done
  · rename_i notBelow
    cases done
    exact not_lt.mp notBelow

theorem read_chain {payload : Json} {deposit : Deposit} (done : read payload = .ok deposit) :
    0 ≤ deposit.bucket.chain := by
  obtain ⟨fields, given, -, filled, -, -, same⟩ := read_eq_ok done
  obtain ⟨name, value, -, taken⟩ := required_eq_good.mp (ofFields_eq_good filled).chain
  rw [same]
  exact chain_nonneg taken

end Payload.Delivery

end Reconcile
