import Reconcile.Proofs.Json.Values
import Reconcile.Store.Column

set_option autoImplicit false

/-
Metadata on their way into a column and out of it. They are kept as a text, so they are refused if
they have no text, and all others are found again as they were. What is found can be kept once more.
-/
namespace Reconcile.Column

/-- Whether a column has a text for metadata: there are none, or they are neither nested too deep
nor hold a whole number of too many digits. -/
def hasText (fields : Json.Fields) : Bool :=
  fields.isEmpty || (Json.object fields).isWritable nestingLimit

theorem metadata_nil : metadata [] = .ok [] := rfl

theorem metadata_eq_error {fields : Json.Fields} (noText : hasText fields = false) :
    metadata fields = .error .unstorable := by
  rw [hasText, Bool.or_eq_false_iff] at noText
  have refused : bindMetadata fields = .error .unstorable := by
    rw [bindMetadata, noText.1, if_neg Bool.false_ne_true, noText.2, if_neg Bool.false_ne_true]
  exact bind_of_error refused

/-- Metadata are found again as they were sent. -/
theorem metadata_of_hasText {fields : Json.Fields} (genuine : (Json.object fields).Genuine)
    (text : hasText fields = true) : metadata fields = .ok fields := by
  cases fields with
  | nil => exact metadata_nil
  | cons field fields =>
    have writable : (Json.object (field :: fields)).isWritable nestingLimit = true := text
    have bound : bindMetadata (field :: fields) = .ok (Json.object (field :: fields)).write := by
      rw [bindMetadata]
      exact if_pos writable
    have found := liftJson_eq_ok.mpr (Json.read_write ⟨genuine, writable⟩)
    exact (bind_of_ok bound).trans (bind_of_ok found)

/-- Whatever is found in a column has a text again. -/
theorem metadata_idem {fields kept : Json.Fields} (done : metadata fields = .ok kept) :
    metadata kept = .ok kept := by
  obtain ⟨written, -, done⟩ := bind_eq_ok.mp done
  obtain ⟨value, found, done⟩ := bind_eq_ok.mp done
  have readable := Json.readable_of_read (liftJson_eq_ok.mp found)
  split at done
  · cases done
    refine metadata_of_hasText readable.genuine ?_
    rw [hasText, readable.writable, Bool.or_true]
  · cases done
    exact metadata_nil

end Reconcile.Column
