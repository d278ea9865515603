import Reconcile.Proofs.Payload.Declaration
import Reconcile.Proofs.Text.Trimming

set_option autoImplicit false

/-
Texts in payloads. The white space around a text is dropped when it is read; the partner that a tag
names is then read once more, without blanks of the greater class.
-/
namespace Reconcile

theorem partnerOfTag_of_trim (written : String) :
    partnerOfTag ((some (Text.trim written)).filter (!·.isEmpty)) =
      if (Text.strip written).isEmpty then none else some (Text.strip written) := by
  by_cases empty : (Text.trim written).isEmpty
  · have nothing : Text.strip written = "" := by
      rw [← Text.strip_trim, String.isEmpty_iff.mp empty]
      rfl
    simp only [partnerOfTag, Option.filter, empty, nothing]
    rfl
  · simp only [partnerOfTag, Option.filter, empty, Bool.not_false, if_true, Option.getD_some,
      Text.strip_trim]

namespace Payload

theorem text_eq_ok {least most : Nat} {value : Json} {result : String} :
    text least most value = .ok result ↔
      ∃ written : String, value = .string written ∧ result = Text.trim written ∧
        least ≤ (Text.trim written).length ∧ (Text.trim written).length ≤ most := by
  unfold text
  split
  · rename_i written
    simp only [Json.string.injEq, Json.Str.text.injEq, exists_eq_left']
    split
    · rename_i short
      refine iff_of_false (by rintro ⟨⟩) ?_
      rintro ⟨-, enough, -⟩
      omega
    · split
      · rename_i long
        refine iff_of_false (by rintro ⟨⟩) ?_
        rintro ⟨-, -, fits⟩
        omega
      · rename_i enough fits
        constructor
        · rintro ⟨⟩
          exact ⟨rfl, not_lt.mp enough, not_lt.mp fits⟩
        · rintro ⟨rfl, -, -⟩
          rfl
  · refine iff_of_false (by rintro ⟨⟩) ?_
    rintro ⟨written, same, -⟩
    cases same
  · rename_i other _
    refine iff_of_false (by rintro ⟨⟩) ?_
    rintro ⟨written, rfl, -⟩
    exact other written rfl

theorem receiver_eq_ok {value : Json} {address : String} (done : receiver value = .ok address) :
    ∃ written, text 1 100 value = .ok written ∧ Address.normalize written = .ok address := by
  obtain ⟨written, taken, done⟩ := bind_eq_ok.mp done
  refine ⟨written, taken, ?_⟩
  split at done
  · rename_i normal
    cases done
    exact normal
  · cases done

end Payload

namespace Payload.Delivery

def hashNames : List String := ["tx_hash", "txHash"]

def tagNames : List String :=
  ["partner_tag", "partnerTag", "explicit_partner_tag", "explicitPartnerTag"]

theorem tag_string {written : String} {result : Option String}
    (done : tag (.string written) = .ok result) :
    result = (some (Text.trim written)).filter (!·.isEmpty) := by
  obtain ⟨before, taken, rfl⟩ := map_eq_ok.mp done
  obtain ⟨trimmed, read, rfl⟩ := map_eq_ok.mp taken
  obtain ⟨_, same, rfl, -⟩ := text_eq_ok.mp read
  cases same
  rfl

/-- The partner that a delivery names is the tag without any blanks around it. -/
theorem read_partner {fields : Json.Fields} {deposit : Deposit}
    (done : read (.object fields) = .ok deposit) {name written : String}
    (given : given? fields tagNames = some (name, .string written)) :
    deposit.partner? =
      if (Text.strip written).isEmpty then none else some (Text.strip written) := by
  obtain ⟨_, sent, same, filled, -, -, kept⟩ := read_eq_ok done
  cases same
  rw [Deposit.partner?, kept]
  rcases withDefault_eq_good.mp (ofFields_eq_good filled).tag with
    ⟨absent, -⟩ | ⟨_, _, found, taken⟩
  · cases absent.symm.trans given
  · cases found.symm.trans given
    rw [tag_string taken]
    exact partnerOfTag_of_trim written

end Payload.Delivery

namespace Payload.Declaration

def partnerNames : List String := ["partner_id", "partnerId"]

theorem read_partner {fields : Json.Fields} {declaration : Declaration}
    (done : read (.object fields) = .ok declaration) {name written : String}
    (given : given? fields partnerNames = some (name, .string written)) :
    declaration.partner = Text.trim written ∧ declaration.partner.isEmpty = false := by
  obtain ⟨_, same, fills⟩ := read_eq_ok done
  cases same
  obtain ⟨_, _, found, taken⟩ := required_eq_good.mp fills.partner
  cases found.symm.trans given
  obtain ⟨_, same, trimmed, long, -⟩ := text_eq_ok.mp taken
  cases same
  refine ⟨trimmed, ?_⟩
  rw [trimmed, Bool.eq_false_iff, Ne, String.isEmpty_iff]
  intro empty
  rw [empty] at long
  exact absurd long (by decide)

end Payload.Declaration

end Reconcile
