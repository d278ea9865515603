import Reconcile.Proofs.Engine.Failures
import Reconcile.Proofs.Payload.Amounts
import Reconcile.Proofs.Store.Columns

set_option autoImplicit false

/-
What a declaration leaves. The intent is stored as the columns give it back, with the canonical form
of the amount that the payload holds, and it lasts for some time.
-/
namespace Reconcile

namespace Store

theorem insertIntent_eq_row {store after : Store} {intent : Intent}
    (done : store.insertIntent intent = .ok after) :
    ∃ row, intentRow intent = .ok row ∧ after.intent? intent.id = some row ∧
      after = { store with intents := Table.insert Intent.id row store.intents } := by
  obtain ⟨row, made, done⟩ := bind_eq_ok.mp done
  have sameId := (intentRow_passes made).id.symm
  dsimp only at done
  split at done
  · cases done
  · rename_i absent
    cases done
    have missing : store.intent? intent.id = none := by simpa using absent
    have fresh : ∀ other ∈ store.intents, other.id ≠ row.id := by
      rw [sameId]
      exact (Table.find?_eq_none_iff _).mp missing
    refine ⟨row, made, ?_, rfl⟩
    rw [intent?, Table.find?_insert Intent.id intent.id fresh, if_pos sameId]

theorem admits_eq_ok {store : Store} {intent : Intent} (admitted : store.admits intent = .ok ()) :
    intent.created.instant < intent.expires.instant := by
  obtain ⟨order, compared, admitted⟩ := bind_eq_ok.mp admitted
  obtain ⟨later, -⟩ := refuse_eq_ok.mp admitted
  have compared := liftClock_eq_ok.mp compared
  unfold Timestamp.compare? at compared
  split at compared
  · cases compared
    exact compare_gt_iff_gt.mp (by simpa using later)
  · cases compared

end Store

namespace Engine

theorem prepare_eq_ok {settings : Settings} {issued : Nat} {payload : Json} {now : Timestamp}
    {intent : Intent} (done : (prepare settings issued payload now).2 = .ok intent) :
    ∃ declaration, Payload.Declaration.read payload = .ok declaration ∧
      declaration.amount.normalize = .ok intent.amount := by
  unfold prepare at done
  split at done
  · cases done
  · rename_i declaration usual prepared
    obtain ⟨read, taken, prepared⟩ := bind_eq_ok.mp prepared
    obtain ⟨ttl, -, prepared⟩ := bind_eq_ok.mp prepared
    cases prepared
    exact ⟨declaration, taken, Payload.Declaration.toIntent_eq_ok done⟩

theorem register_eq_ok {store after : Store} {intent told : Intent}
    (done : register store intent false = (.ok told, after)) :
    store.admits intent = .ok () ∧ told = { intent with status := .pending } ∧
      store.insertIntent told = .ok after := by
  unfold register at done
  split at done
  · cases done
  · rename_i admitted
    dsimp only at done
    split at done
    · cases done
    · rename_i added
      cases done
      exact ⟨admitted, rfl, added⟩

theorem declare_eq_ok {engine : Engine} {payload : Json} {now : Timestamp} {intent : Intent}
    (done : (engine.declare payload now false).result = .ok intent) :
    ∃ declaration, Payload.Declaration.read payload = .ok declaration ∧
      declaration.amount.normalize = .ok intent.amount ∧
      intent.status = .pending ∧ intent.created.instant < intent.expires.instant ∧
      engine.store.insertIntent intent = .ok (engine.declare payload now false).engine.store := by
  unfold declare at done ⊢
  cases prepared : prepare engine.settings engine.issued payload now with
  | mk issued prepared' =>
    simp only [prepared] at done ⊢
    cases prepared' with
    | error fault => cases done
    | ok sent =>
      cases registered : register engine.store sent false with
      | mk told after =>
        simp only [registered] at done ⊢
        cases told with
        | error fault => cases done
        | ok told =>
          cases done
          obtain ⟨declaration, read, amount⟩ := prepare_eq_ok (congrArg Prod.snd prepared)
          obtain ⟨admitted, rfl, added⟩ := register_eq_ok registered
          exact ⟨declaration, read, amount, rfl, Store.admits_eq_ok admitted, added⟩

end Engine

end Reconcile
