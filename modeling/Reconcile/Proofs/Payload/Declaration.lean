import Reconcile.Proofs.Json.Values
import Reconcile.Proofs.Payload.Refusals

set_option autoImplicit false

/-
Declarations as payloads make them. Whatever is wrong with a payload is listed as a problem, unless
a time that it gives leaves the calendar on the way to UTC. What is read has its times in UTC, so
the columns of a table keep them, and a chain number that is not negative.
-/
namespace Reconcile

/-- The failures that a declaration is promised to end in: the payload is rejected, its window is
empty or its id is taken. -/
inductive Fault.Foreseen : Fault → Prop
  | notAnObject (kind : String) : Foreseen (.notAnObject .declaration kind)
  | rejected (problems : List Payload.Problem) : Foreseen (.rejected .declaration problems)
  | emptyWindow (intent : String) (created expires : Timestamp) :
      Foreseen (.emptyWindow intent created expires)
  | duplicateIntent (intent : String) : Foreseen (.duplicateIntent intent)

namespace Payload

variable {α : Type}

theorem nullable_eq_ok_some {read : Json → Reading α} {value : Json} {result : α}
    (done : nullable read value = .ok (some result)) : read value = .ok result := by
  unfold nullable at done
  split at done
  · cases done
  · obtain ⟨before, taken, same⟩ := map_eq_ok.mp done
    cases same
    exact taken

theorem nullable_listed {read : Json → Reading α} (listed : ∀ value, Listed (read value))
    (value : Json) : Listed (nullable read value) := by
  unfold nullable
  split
  · exact .ok _
  · exact (listed value).map _

theorem freeFields_listed (value : Json) : Listed (freeFields value) := by
  unfold freeFields
  split
  · exact .ok _
  · split
    · exact .ok _
    · rintro ⟨⟩
  · exact .wrong _

/-- A null stands for no time, so it does not leave the calendar. -/
theorem nullable_moment_eq_offCalendar {value : Json} :
    nullable moment value = .error .offCalendar ↔ LeavesCalendar value := by
  unfold nullable
  split
  · refine iff_of_false ?_ ?_
    · rintro ⟨⟩
    · rintro ⟨written, clock, same, -⟩
      cases same
  · rw [← moment_eq_offCalendar]
    cases moment value <;> simp [Except.map]

theorem withDefault_eq_offCalendar {fields : Json.Fields} {names : List String}
    {absent : α} {read : Json → Reading α} :
    withDefault fields names absent read = .offCalendar ↔
      ∃ name value, given? fields names = some (name, value) ∧
        read value = .error .offCalendar := by
  unfold withDefault
  split
  · rename_i name value given
    simp only [given, checked_eq_offCalendar, Option.some.injEq, Prod.mk.injEq]
    constructor
    · intro left
      exact ⟨name, value, ⟨rfl, rfl⟩, left⟩
    · rintro ⟨_, _, ⟨rfl, rfl⟩, left⟩
      exact left
  · rename_i missing
    simp [missing]

/-- A time that may be left out is on the calendar and in UTC if it is given. -/
theorem withDefault_moment_eq_good {fields : Json.Fields} {names : List String}
    {t : Timestamp} (filled : withDefault fields names none (nullable moment) = .good (some t)) :
    ∃ micros, Timestamp.onCalendar micros = true ∧ t = .utc micros := by
  rcases withDefault_eq_good.mp filled with ⟨-, none⟩ | ⟨name, value, -, taken⟩
  · cases none
  · exact moment_eq_ok (nullable_eq_ok_some taken)

theorem mem_of_given {fields : Json.Fields} {names : List String} {name : String} {value : Json}
    (given : given? fields names = some (name, value)) : ∃ field ∈ fields, field.2 = value := by
  obtain ⟨other, -, found⟩ := List.exists_of_findSome?_eq_some given
  obtain ⟨held, found, same⟩ := Option.map_eq_some_iff.mp found
  cases same
  obtain ⟨field, first, rfl⟩ := Option.map_eq_some_iff.mp found
  exact ⟨field, List.mem_of_find?_eq_some first, rfl⟩

/-- White space around names is cut off name by name, and of two fields that then have one name the
last counts. -/
theorem trimNames_genuine {fields : Json.Fields}
    (genuine : ∀ field ∈ fields, field.2.Genuine) : (Json.object (trimNames fields)).Genuine := by
  refine List.foldlRecOn (motive := fun kept : Json.Fields => (Json.object kept).Genuine) fields _
    Json.genuine_nil fun kept known field member => ?_
  obtain ⟨distinct, known⟩ := Json.genuine_object.mp known
  split
  · refine Json.genuine_object.mpr ⟨Json.setField_nodup distinct, fun other inside => ?_⟩
    obtain before | rfl := Json.mem_setField inside
    · exact known other before
    · exact genuine field member
  · exact Json.genuine_object.mpr ⟨distinct, known⟩

theorem freeFields_genuine {value : Json} {fields : Json.Fields} (genuine : value.Genuine)
    (taken : freeFields value = .ok fields) : (Json.object fields).Genuine := by
  unfold freeFields at taken
  split at taken
  · cases taken
    exact Json.genuine_nil
  · split at taken
    · cases taken
      exact trimNames_genuine (Json.genuine_object.mp genuine).2
    · cases taken
  · cases taken

end Payload

namespace Payload.Declaration

def createdNames : List String := ["created_at", "createdAt"]

def expiresNames : List String := ["expires_at", "expiresAt"]

/-- Each part of the declaration is read from its own field. -/
structure Fills (fields : Json.Fields) (declaration : Declaration) : Prop where
  id : withDefault fields ["id", "intent_id", "intentId"] none (nullable (text 1 128)) =
    .good declaration.id
  partner : required fields "partner_id" ["partnerId"] (text 1 128) = .good declaration.partner
  vault : required fields "vault_id" ["vaultId"] (text 1 50) = .good declaration.bucket.vault
  chain : required fields "chain_id" ["chainId"] chain = .good declaration.bucket.chain
  receiver : required fields "receiver" [] receiver = .good declaration.bucket.receiver
  amount : required fields "amount" [] positive = .good declaration.amount
  created : withDefault fields createdNames none (nullable moment) = .good declaration.created
  expires : withDefault fields expiresNames none (nullable moment) = .good declaration.expires
  metadata : withDefault fields ["metadata", "meta"] [] freeFields = .good declaration.metadata

theorem fills_of_good {fields : Json.Fields} {declaration : Declaration}
    (filled : ofFields fields = .good declaration) : Fills fields declaration := by
  -- The last field is the first to come off.
  obtain ⟨_, metadata, upToExpires, heldMetadata, rfl⟩ := Checked.seq_eq_good.mp filled
  obtain ⟨_, expires, upToCreated, heldExpires, rfl⟩ := Checked.seq_eq_good.mp upToExpires
  obtain ⟨_, created, upToAmount, heldCreated, rfl⟩ := Checked.seq_eq_good.mp upToCreated
  obtain ⟨_, amount, upToReceiver, heldAmount, rfl⟩ := Checked.seq_eq_good.mp upToAmount
  obtain ⟨_, receiver, upToChain, heldReceiver, rfl⟩ := Checked.seq_eq_good.mp upToReceiver
  obtain ⟨_, chain, upToVault, heldChain, rfl⟩ := Checked.seq_eq_good.mp upToChain
  obtain ⟨_, vault, upToPartner, heldVault, rfl⟩ := Checked.seq_eq_good.mp upToVault
  obtain ⟨_, partner, first, heldPartner, rfl⟩ := Checked.seq_eq_good.mp upToPartner
  obtain ⟨id, heldId, rfl⟩ := Checked.map_eq_good.mp first
  exact ⟨heldId, heldPartner, heldVault, heldChain, heldReceiver, heldAmount, heldCreated,
    heldExpires, heldMetadata⟩

/-- A time that the payload gives leaves the calendar. -/
def Untimely (payload : Json) : Prop :=
  ∃ fields name value, payload = .object fields ∧
    (given? fields createdNames = some (name, value) ∨
      given? fields expiresNames = some (name, value)) ∧ LeavesCalendar value

/-- Only the two times can leave the calendar. -/
theorem ofFields_eq_offCalendar {fields : Json.Fields} :
    ofFields fields = .offCalendar ↔ Untimely (.object fields) := by
  have time : ∀ names,
      withDefault fields names (none : Option Timestamp) (nullable moment) = .offCalendar ↔
        ∃ name value, given? fields names = some (name, value) ∧ LeavesCalendar value := by
    intro names
    rw [withDefault_eq_offCalendar]
    simp only [nullable_moment_eq_offCalendar]
  unfold ofFields
  simp only [Checked.seq_eq_offCalendar, Checked.map_eq_offCalendar, time,
    withDefault_ne_offCalendar (nullable_listed (text_listed 1 128)),
    required_ne_offCalendar (text_listed 1 128), required_ne_offCalendar (text_listed 1 50),
    required_ne_offCalendar chain_listed, required_ne_offCalendar receiver_listed,
    required_ne_offCalendar positive_listed, withDefault_ne_offCalendar freeFields_listed,
    false_or, or_false]
  constructor
  · rintro (⟨name, value, given, leaves⟩ | ⟨name, value, given, leaves⟩)
    · exact ⟨fields, name, value, rfl, Or.inl given, leaves⟩
    · exact ⟨fields, name, value, rfl, Or.inr given, leaves⟩
  · rintro ⟨_, name, value, same, given | given, leaves⟩
    · cases same
      exact Or.inl ⟨name, value, given, leaves⟩
    · cases same
      exact Or.inr ⟨name, value, given, leaves⟩

theorem read_eq_ok {payload : Json} {declaration : Declaration}
    (done : read payload = .ok declaration) :
    ∃ fields, payload = .object fields ∧ Fills fields declaration := by
  unfold read at done
  split at done
  · rename_i fields
    split at done
    · rename_i filled
      cases done
      exact ⟨fields, rfl, fills_of_good filled⟩
    · cases done
    · cases done
  · cases done

theorem read_of_untimely {payload : Json} (untimely : Untimely payload) :
    read payload = .error .outOfRange := by
  obtain ⟨fields, name, value, rfl, given, leaves⟩ := untimely
  have left := ofFields_eq_offCalendar.mpr ⟨fields, name, value, rfl, given, leaves⟩
  simp only [read, left]

section Read

variable {payload : Json} {declaration : Declaration}

theorem read_created (done : read payload = .ok declaration) {t : Timestamp}
    (given : declaration.created = some t) :
    ∃ micros, Timestamp.onCalendar micros = true ∧ t = .utc micros := by
  obtain ⟨fields, -, fills⟩ := read_eq_ok done
  exact withDefault_moment_eq_good (given ▸ fills.created)

theorem read_expires (done : read payload = .ok declaration) {t : Timestamp}
    (given : declaration.expires = some t) :
    ∃ micros, Timestamp.onCalendar micros = true ∧ t = .utc micros := by
  obtain ⟨fields, -, fills⟩ := read_eq_ok done
  exact withDefault_moment_eq_good (given ▸ fills.expires)

theorem read_chain_nonneg (done : read payload = .ok declaration) :
    0 ≤ declaration.bucket.chain := by
  obtain ⟨fields, -, fills⟩ := read_eq_ok done
  obtain ⟨name, value, -, taken⟩ := required_eq_good.mp fills.chain
  exact Delivery.chain_nonneg taken

theorem read_amount_finite (done : read payload = .ok declaration) :
    declaration.amount.isFinite ∧ 0 < declaration.amount.toRat := by
  obtain ⟨held, above⟩ := read_amount done
  exact ⟨held.isFinite, above⟩

/-- Metadata are such that a text can stand for them if the payload is. -/
theorem read_metadata (done : read payload = .ok declaration) (genuine : payload.Genuine) :
    (Json.object declaration.metadata).Genuine := by
  obtain ⟨fields, rfl, fills⟩ := read_eq_ok done
  rcases withDefault_eq_good.mp fills.metadata with ⟨-, none⟩ | ⟨name, value, given, taken⟩
  · rw [none]
    exact Json.genuine_nil
  · obtain ⟨field, member, rfl⟩ := mem_of_given given
    exact freeFields_genuine ((Json.genuine_object.mp genuine).2 field member) taken

end Read

end Payload.Declaration

end Reconcile
