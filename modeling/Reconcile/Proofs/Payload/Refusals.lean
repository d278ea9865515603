import Reconcile.Proofs.Decimal.Operations
import Reconcile.Proofs.Payload.Amounts

set_option autoImplicit false

/-
Payloads that cannot be read and are not rejected either. A time may be on the calendar as it is
written and off it in UTC, and an amount may be too great to be normalized. Whatever else is wrong
with a payload is listed as a problem, and the payload is rejected.
-/
namespace Reconcile

open Decimal (limit)

namespace Decimal

/-- A decimal that is not negative is normalized unless it is too great. -/
theorem normalize_of_nonneg {a : Decimal} (number : a.isFinite) (nonneg : 0 ≤ a.toRat) :
    (limit ≤ a.toRat ∧ a.normalize = .error .overflow) ∨
      (a.toRat < limit ∧ ∃ r, a.normalize = .ok r) := by
  obtain ⟨s, c, e, rfl⟩ := eq_finite_of_isFinite number
  have magnitude : (finite s c e).toRat = (c : ℚ) * 10 ^ e := by
    rw [← abs_of_nonneg nonneg, abs_toRat]
  rw [magnitude]
  rcases normalize_cases s c e with ⟨great, failed⟩ | ⟨small, r, done, -⟩
  · exact Or.inl ⟨great, failed⟩
  · exact Or.inr ⟨small, r, done⟩

end Decimal

namespace Payload

variable {α β : Type}

namespace Checked

theorem seq_eq_offCalendar {f : Checked (α → β)} {a : Checked α} :
    f <*> a = .offCalendar ↔ f = .offCalendar ∨ a = .offCalendar := by
  change both f a = .offCalendar ↔ _
  cases f <;> cases a <;> simp [both]

theorem map_eq_offCalendar {f : α → β} {a : Checked α} :
    f <$> a = .offCalendar ↔ a = .offCalendar := by
  change both (.good f) a = .offCalendar ↔ _
  cases a <;> simp [both]

end Checked

theorem checked_eq_offCalendar {name : String} {reading : Reading α} :
    checked name reading = .offCalendar ↔ reading = .error .offCalendar := by
  cases reading with
  | ok read => simp [checked]
  | error refusal => cases refusal <;> simp [checked]

/-- If a value is not taken, the reason is listed as a problem. -/
def Listed (reading : Reading α) : Prop := reading ≠ .error .offCalendar

namespace Listed

theorem ok (value : α) : Listed (.ok value : Reading α) := by
  rintro ⟨⟩

theorem wrong (mistake : Mistake) : Listed (Payload.wrong mistake : Reading α) := by
  rintro ⟨⟩

theorem bind {first : Reading α} {next : α → Reading β} (head : Listed first)
    (tail : ∀ value, Listed (next value)) : Listed (first >>= next) := by
  intro left
  rcases bind_eq_error.mp left with left | ⟨value, -, left⟩
  · exact head left
  · exact tail value left

theorem map {reading : Reading α} (listed : Listed reading) (change : α → β) :
    Listed (reading.map change) := by
  cases reading with
  | ok value => exact ok (change value)
  | error refusal =>
    intro left
    cases left
    exact listed rfl

end Listed

theorem text_listed (least most : Nat) (value : Json) : Listed (text least most value) := by
  unfold text
  split
  · dsimp only
    split
    · exact .wrong _
    · split
      · exact .wrong _
      · exact .ok _
  · exact .wrong _
  · exact .wrong _

theorem receiver_listed (value : Json) : Listed (receiver value) := by
  refine (text_listed 1 100 value).bind fun written => ?_
  split
  · exact .ok _
  · exact .wrong _

theorem wholeText_listed (written : String) : Listed (wholeText? written) := by
  unfold wholeText?
  dsimp only
  split
  · exact .wrong _
  · split
    · exact .wrong _
    · split
      · exact .wrong _
      · exact .ok _

theorem whole_listed (value : Json) : Listed (whole value) := by
  unfold whole
  split
  · exact .ok _
  · exact .ok _
  · exact wholeText_listed _
  · exact .wrong _
  · split
    · exact .wrong _
    · split
      · exact .ok _
      · exact .wrong _
  · exact .wrong _
  · exact .wrong _

theorem chain_listed (value : Json) : Listed (chain value) := by
  refine (whole_listed value).bind fun n => ?_
  split
  · exact .wrong _
  · exact .ok _

theorem decimal_listed (value : Json) : Listed (decimal value) := by
  have finish : ∀ reading : Reading Decimal, Listed reading →
      Listed (reading >>= fun read => if read.isFinite then .ok read else wrong .notFinite) := by
    intro reading listed
    refine listed.bind fun read => ?_
    split
    · exact .ok _
    · exact .wrong _
  unfold decimal
  dsimp only
  split
  · exact finish _ (.ok _)
  · exact finish _ (.ok _)
  · split
    · exact finish _ (.ok _)
    · exact finish _ (.wrong _)
  · exact finish _ (.wrong _)
  · exact finish _ (.wrong _)

theorem positive_listed (value : Json) : Listed (positive value) := by
  refine (decimal_listed value).bind fun read => ?_
  split
  · exact .ok _
  · exact .wrong _

theorem notNegative_listed (value : Json) : Listed (notNegative value) := by
  refine (decimal_listed value).bind fun read => ?_
  split
  · exact .wrong _
  · exact .ok _

/-- The clock in a text is on the calendar, but in UTC it would be off it. -/
def LeavesCalendar (value : Json) : Prop :=
  ∃ (written : String) (clock : Timestamp), value = .string written ∧
    Calendar.read? written = some clock ∧ Timestamp.onCalendar clock.wall = true ∧
    Timestamp.onCalendar clock.instant = false

theorem momentText_eq_offCalendar {written : String} :
    momentText written = .error .offCalendar ↔ LeavesCalendar (.string written) := by
  unfold momentText
  constructor
  · intro left
    split at left
    · rename_i clock found
      split at left
      · rename_i inside
        split at left
        · cases left
        · rename_i fault gone
          refine ⟨written, clock, rfl, found, inside, ?_⟩
          unfold Timestamp.toUtc? at gone
          split at gone
          · cases gone
          · rename_i outside
            exact Bool.eq_false_iff.mpr outside
      · cases left
    · split at left
      · split at left <;> cases left
      · cases left
  · rintro ⟨_, clock, same, found, inside, outside⟩
    cases same
    have gone : clock.toUtc? = .error .outOfRange := by
      rw [Timestamp.toUtc?, outside]
      rfl
    simp only [found, if_pos inside, gone]

theorem moment_eq_offCalendar {value : Json} :
    moment value = .error .offCalendar ↔ LeavesCalendar value := by
  constructor
  · intro left
    unfold moment at left
    split at left
    · exact momentText_eq_offCalendar.mp left
    · cases left
    · split at left <;> cases left
    · split at left <;> cases left
    · cases left
  · intro leaves
    have kept := leaves
    obtain ⟨written, clock, rfl, -⟩ := leaves
    exact momentText_eq_offCalendar.mpr kept

theorem required_eq_offCalendar {fields : Json.Fields} {first : String}
    {others : List String} {read : Json → Reading α} :
    required fields first others read = .offCalendar ↔
      ∃ name value, given? fields (first :: others) = some (name, value) ∧
        read value = .error .offCalendar := by
  unfold required
  split
  · rename_i name value given
    rw [given, checked_eq_offCalendar]
    constructor
    · intro left
      exact ⟨name, value, rfl, left⟩
    · rintro ⟨other, found, same, left⟩
      cases same
      exact left
  · rename_i absent
    simp [absent]

theorem required_ne_offCalendar {fields : Json.Fields} {first : String}
    {others : List String} {read : Json → Reading α} (listed : ∀ value, Listed (read value)) :
    required fields first others read ≠ .offCalendar := by
  intro left
  obtain ⟨name, value, -, left⟩ := required_eq_offCalendar.mp left
  exact listed value left

theorem withDefault_ne_offCalendar {fields : Json.Fields} {names : List String}
    {absent : α} {read : Json → Reading α} (listed : ∀ value, Listed (read value)) :
    withDefault fields names absent read ≠ .offCalendar := by
  intro left
  unfold withDefault at left
  split at left
  · exact listed _ (checked_eq_offCalendar.mp left)
  · cases left

end Payload

namespace Payload.Delivery

theorem hash_listed (value : Json) : Listed (hash value) := (text_listed 1 100 value).map _

theorem tag_listed (value : Json) : Listed (tag value) := by
  refine Listed.map ?_ _
  unfold nullable
  split
  · exact .ok _
  · exact (text_listed 0 128 value).map _

def timeNames : List String := ["confirmed_at", "confirmedAt", "block_time"]

/-- Only the time can leave the calendar. -/
theorem ofFields_eq_offCalendar {fields : Json.Fields} :
    ofFields fields = .offCalendar ↔
      ∃ name value, given? fields timeNames = some (name, value) ∧ LeavesCalendar value := by
  have time : required fields "confirmed_at" ["confirmedAt", "block_time"] moment = .offCalendar ↔
      ∃ name value, given? fields timeNames = some (name, value) ∧ LeavesCalendar value := by
    rw [required_eq_offCalendar]
    simp only [moment_eq_offCalendar, timeNames]
  unfold ofFields
  simp only [Checked.seq_eq_offCalendar, Checked.map_eq_offCalendar, time,
    required_ne_offCalendar hash_listed, required_ne_offCalendar (text_listed 1 50),
    required_ne_offCalendar chain_listed, required_ne_offCalendar receiver_listed,
    required_ne_offCalendar positive_listed, withDefault_ne_offCalendar notNegative_listed,
    withDefault_ne_offCalendar tag_listed, false_or, or_false]

end Payload.Delivery

end Reconcile
