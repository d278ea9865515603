import Reconcile.Proofs.Address
import Reconcile.Proofs.Calendar.Ends
import Reconcile.Proofs.Decimal.Equal
import Reconcile.Proofs.Payload.Texts

set_option autoImplicit false

/-
Payloads that say the same in another form. Each field may be given under another of its names; a
text may have other white space around it, a hash other capitals, an address another mark and other
zeros in front, a number other digits behind and another exponent, and a point in time another
offset. Fields that are not known do not matter.
-/
namespace Reconcile.Payload

open Text (core)

section Fields

/-- A field is given under one of its names and under no other. -/
def Supplies (fields : Json.Fields) (names : List String) (value : Json) : Prop :=
  ∃ name ∈ names, Json.field? fields name = some value ∧
    ∀ other ∈ names, other ≠ name → Json.field? fields other = none

/-- Two payloads are alike in a field: it is given in neither, or in both, under any of its names
and with values that are related. -/
def Alike (related : Json → Json → Prop) (names : List String)
    (first second : Json.Fields) : Prop :=
  (∀ name ∈ names, Json.field? first name = none ∧ Json.field? second name = none) ∨
    ∃ a b, Supplies first names a ∧ Supplies second names b ∧ related a b

variable {α : Type} {fields first second : Json.Fields} {names : List String}
  {value : Json}

theorem given?_eq_none (missing : ∀ name ∈ names, Json.field? fields name = none) :
    given? fields names = none := by
  refine List.findSome?_eq_none_iff.mpr fun name member => ?_
  rw [missing name member]
  rfl

theorem given?_of_supplies (supplies : Supplies fields names value) :
    ∃ name, given? fields names = some (name, value) := by
  obtain ⟨name, member, found, single⟩ := supplies
  refine ⟨name, ?_⟩
  induction names with
  | nil => cases member
  | cons head rest ih =>
    by_cases here : head = name
    · subst here
      rw [given?, List.findSome?_cons, found]
      rfl
    · rw [given?, List.findSome?_cons, single head List.mem_cons_self here]
      refine ih ?_ fun other inside => single other (List.mem_cons_of_mem head inside)
      exact (List.mem_cons.mp member).resolve_left (Ne.symm here)

/-- Which of the names are present can be looked up. -/
theorem supplies_of_filter (name : String)
    (single : names.filter (fun (other : String) => (Json.field? fields other).isSome) = [name])
    (found : Json.field? fields name = some value) : Supplies fields names value := by
  have present : ∀ other, other ∈ names ∧ (Json.field? fields other).isSome ↔ other = name := by
    intro other
    rw [← @List.mem_singleton _ other name, ← single, List.mem_filter]
  refine ⟨name, ((present name).mpr rfl).1, found, fun other member different => ?_⟩
  rw [← Option.not_isSome_iff_eq_none]
  exact fun here => different ((present other).mp ⟨member, here⟩)

variable {related : Json → Json → Prop} {read : Json → Reading α} {x y : α}

theorem alike_of_filter {a b : Json} (name other : String)
    (single : names.filter (fun (each : String) => (Json.field? first each).isSome) = [name])
    (single' : names.filter (fun (each : String) => (Json.field? second each).isSome) = [other])
    (found : Json.field? first name = some a) (found' : Json.field? second other = some b)
    (holds : related a b) : Alike related names first second :=
  .inr ⟨a, b, supplies_of_filter name single found, supplies_of_filter other single' found', holds⟩

theorem required_alike {name : String} {others : List String}
    (alike : Alike related (name :: others) first second)
    (filled : required first name others read = .good x)
    (filled' : required second name others read = .good y) :
    ∃ a b, related a b ∧ read a = .ok x ∧ read b = .ok y := by
  obtain ⟨_, _, given, taken⟩ := required_eq_good.mp filled
  obtain ⟨_, _, given', taken'⟩ := required_eq_good.mp filled'
  rcases alike with missing | ⟨a, b, supplies, supplies', holds⟩
  · cases given.symm.trans (given?_eq_none fun name member => (missing name member).1)
  · obtain ⟨_, found⟩ := given?_of_supplies supplies
    obtain ⟨_, found'⟩ := given?_of_supplies supplies'
    cases given.symm.trans found
    cases given'.symm.trans found'
    exact ⟨_, _, holds, taken, taken'⟩

theorem withDefault_alike {absent : α} (alike : Alike related names first second)
    (filled : withDefault first names absent read = .good x)
    (filled' : withDefault second names absent read = .good y) :
    (given? first names = none ∧ given? second names = none ∧ x = absent ∧ y = absent) ∨
      ∃ a b, related a b ∧ (∃ name, given? first names = some (name, a)) ∧
        (∃ name, given? second names = some (name, b)) ∧ read a = .ok x ∧ read b = .ok y := by
  rcases alike with missing | ⟨a, b, supplies, supplies', holds⟩
  · have none := given?_eq_none fun name member => (missing name member).1
    have none' := given?_eq_none fun name member => (missing name member).2
    rcases withDefault_eq_good.mp filled with ⟨-, same⟩ | ⟨_, _, given, -⟩
    · rcases withDefault_eq_good.mp filled' with ⟨-, same'⟩ | ⟨_, _, given, -⟩
      · exact Or.inl ⟨none, none', same, same'⟩
      · cases given.symm.trans none'
    · cases given.symm.trans none
  · obtain ⟨name, found⟩ := given?_of_supplies supplies
    obtain ⟨name', found'⟩ := given?_of_supplies supplies'
    rcases withDefault_eq_good.mp filled with ⟨none, -⟩ | ⟨_, _, given, taken⟩
    · cases none.symm.trans found
    · rcases withDefault_eq_good.mp filled' with ⟨none, -⟩ | ⟨_, _, given', taken'⟩
      · cases none.symm.trans found'
      · cases given.symm.trans found
        cases given'.symm.trans found'
        exact Or.inr ⟨_, _, holds, ⟨_, found⟩, ⟨_, found'⟩, taken, taken'⟩

/-- Related values that are both read are read as the same. -/
def ReadAlike (related : Json → Json → Prop) (read : Json → Reading α) : Prop :=
  ∀ a b x y, related a b → read a = .ok x → read b = .ok y → x = y

theorem ReadAlike.of_eq (same : ∀ a b, related a b → read a = read b) :
    ReadAlike related read := by
  intro a b x y holds taken taken'
  exact Except.ok.inj ((taken.symm.trans (same a b holds)).trans taken')

theorem ReadAlike.required {name : String} {others : List String}
    (reads : ReadAlike related read) (alike : Alike related (name :: others) first second)
    (filled : Payload.required first name others read = .good x)
    (filled' : Payload.required second name others read = .good y) : x = y := by
  obtain ⟨a, b, holds, taken, taken'⟩ := required_alike alike filled filled'
  exact reads a b x y holds taken taken'

theorem ReadAlike.withDefault {absent : α} (reads : ReadAlike related read)
    (alike : Alike related names first second)
    (filled : Payload.withDefault first names absent read = .good x)
    (filled' : Payload.withDefault second names absent read = .good y) : x = y := by
  rcases withDefault_alike alike filled filled' with
    ⟨-, -, rfl, rfl⟩ | ⟨a, b, holds, -, -, taken, taken'⟩
  · rfl
  · exact reads a b x y holds taken taken'

end Fields

section Values

/-- Equal values, or texts that are equal without the white space around them. -/
def Spaced (a b : Json) : Prop :=
  a = b ∨ ∃ v w : String, a = .string v ∧ b = .string w ∧ core v = core w

/-- Texts that are equal but for the white space around them and for the case of their letters. -/
def SameLetters (a b : Json) : Prop :=
  ∃ v w : String, a = .string v ∧ b = .string w ∧
    (core v).map Char.toLower = (core w).map Char.toLower

/-- Addresses with the same digits, apart from their case and from zeros in front. -/
def SameDigits (a b : Json) : Prop :=
  ∃ v w : String, a = .string v ∧ b = .string w ∧ Address.digitsOf v = Address.digitsOf w

def SameNumber (a b : Json) : Prop :=
  ∃ x y, decimal a = .ok x ∧ decimal b = .ok y ∧ x.toRat = y.toRat

/-- Equal points in time, or texts of clocks that show one instant. -/
def SameInstant (a b : Json) : Prop :=
  Spaced a b ∨ ∃ (v w : String) (t u : Timestamp), a = .string v ∧ b = .string w ∧
    Calendar.read? (String.ofList (core v)) = some t ∧
    Calendar.read? (String.ofList (core w)) = some u ∧ t.instant = u.instant

/-- Equal names, or texts that are equal without the white space around them. -/
def SameName (a b : Json.Str) : Prop :=
  a = b ∨ ∃ v w : String, a = v ∧ b = w ∧ core v = core w

/-- Equal values, or objects with equal fields under such names. -/
def SameData (a b : Json) : Prop :=
  a = b ∨ ∃ fields others, a = .object fields ∧ b = .object others ∧
    List.Forall₂ (fun field other => SameName field.1 other.1 ∧ field.2 = other.2) fields others

variable {α : Type}

/-- A reading that does not look at the white space around a text reads spaced texts alike. -/
theorem ReadAlike.of_core {read : Json → Reading α}
    (texts : ∀ v w : String, core v = core w → read (.string v) = read (.string w)) :
    ReadAlike Spaced read := by
  refine .of_eq ?_
  rintro a b (rfl | ⟨v, w, rfl, rfl, same⟩)
  · rfl
  · exact texts v w same

theorem text_of_core {least most : Nat} (v w : String) (same : core v = core w) :
    text least most (.string v) = text least most (.string w) := by
  simp only [text, Text.trim_of_core same]

theorem nullable_of_core {least most : Nat} (v w : String) (same : core v = core w) :
    nullable (text least most) (.string v) = nullable (text least most) (.string w) :=
  congrArg (Except.map some) (text_of_core v w same)

theorem tag_of_core (v w : String) (same : core v = core w) :
    Delivery.tag (.string v) = Delivery.tag (.string w) :=
  congrArg (Except.map _) (nullable_of_core v w same)

theorem chain_of_core (v w : String) (same : core v = core w) :
    chain (.string v) = chain (.string w) := by
  simp only [chain, whole, wholeText?, ← Text.trimBy_core, same]

theorem hash_alike : ReadAlike SameLetters Delivery.hash := by
  refine .of_eq ?_
  rintro a b ⟨v, w, rfl, rfl, same⟩
  obtain ⟨length, lowered⟩ := Text.lowercase_trim_of_core same
  simp only [Delivery.hash, text, length]
  split
  · rfl
  · split
    · rfl
    · exact congrArg Except.ok lowered

theorem receiver_alike : ReadAlike SameDigits receiver := by
  have canonical : ∀ {s address : String}, receiver (.string (.text s)) = .ok address →
      address = "0x" ++ String.ofList (Address.padded (Address.digitsOf s)) := by
    intro s address done
    obtain ⟨trimmed, read, normal⟩ := receiver_eq_ok done
    obtain ⟨_, same, rfl, -⟩ := text_eq_ok.mp read
    cases same
    rw [(Address.normalize_eq_ok normal).1, Address.digitsOf, Text.trim, String.toList_ofList,
      Text.trimBy_trimBy Text.isBlank_of_isSpace]
    rfl
  rintro a b x y ⟨v, w, rfl, rfl, same⟩ taken taken'
  rw [canonical taken, canonical taken', same]

theorem moment_of_read {written : String} {t x : Timestamp}
    (read : Calendar.read? written = some t) (taken : moment (.string written) = .ok x) :
    x = .utc t.instant := by
  rw [moment, momentText, read] at taken
  dsimp only at taken
  split at taken
  · rw [Timestamp.toUtc?] at taken
    split at taken
    · rename_i found
      cases taken
      split at found
      · exact (Except.ok.inj found).symm
      · cases found
    · cases taken
  · cases taken

theorem moment_alike : ReadAlike SameInstant moment := by
  rintro a b x y ((rfl | ⟨v, w, rfl, rfl, same⟩) | ⟨v, w, t, u, rfl, rfl, read, read', same⟩)
    taken taken'
  · exact Except.ok.inj (taken.symm.trans taken')
  · obtain rfl : v = w := by
      rw [← moment_core taken, ← moment_core taken', same]
    exact Except.ok.inj (taken.symm.trans taken')
  · rw [moment_core taken] at read
    rw [moment_core taken'] at read'
    rw [moment_of_read read taken, moment_of_read read' taken', same]

section Data

variable {fields others : Json.Fields}
  (same : List.Forall₂ (fun field other => SameName field.1 other.1 ∧ field.2 = other.2)
    fields others)
include same

theorem garbledNames_of_same : garbledNames fields = garbledNames others := by
  unfold garbledNames
  induction same with
  | nil => rfl
  | cons head _ ih =>
    obtain ⟨name | ⟨v, w, left, right, -⟩, -⟩ := head
    · rw [List.filterMap_cons, List.filterMap_cons, name, ih]
    · rw [List.filterMap_cons, List.filterMap_cons, left, right]
      exact ih

theorem trimNames_of_same : trimNames fields = trimNames others := by
  unfold trimNames
  generalize ([] : Json.Fields) = kept
  induction same generalizing kept with
  | nil => rfl
  | cons head _ ih =>
    obtain ⟨name | ⟨v, w, left, right, core⟩, value⟩ := head
    · rw [List.foldl_cons, List.foldl_cons, name, value]
      exact ih _
    · rw [List.foldl_cons, List.foldl_cons, left, right, value]
      simp only [Text.trim_of_core core]
      exact ih _

end Data

theorem freeFields_alike : ReadAlike SameData freeFields := by
  refine .of_eq ?_
  rintro a b (rfl | ⟨fields, others, rfl, rfl, same⟩)
  · rfl
  · simp only [freeFields, garbledNames_of_same same, trimNames_of_same same]

/-- Null stands for no value on both sides or on neither. -/
theorem ReadAlike.nullable {related : Json → Json → Prop} {read : Json → Reading α}
    (reads : ReadAlike related read) (nulls : ∀ a b, related a b → (a = .null ↔ b = .null)) :
    ReadAlike related (Payload.nullable read) := by
  intro a b x y holds taken taken'
  have same := nulls a b holds
  unfold Payload.nullable at taken taken'
  split at taken
  · split at taken'
    · cases taken
      cases taken'
      rfl
    · rename_i other
      exact absurd (same.mp rfl) other
  · rename_i other
    split at taken'
    · exact absurd (same.mpr rfl) other
    · obtain ⟨t, read, rfl⟩ := map_eq_ok.mp taken
      obtain ⟨u, read', rfl⟩ := map_eq_ok.mp taken'
      rw [reads a b t u holds read read']

theorem null_of_instant (a b : Json) (instant : SameInstant a b) : a = .null ↔ b = .null := by
  rcases instant with (rfl | ⟨v, w, rfl, rfl, -⟩) | ⟨v, w, t, u, rfl, rfl, -⟩
  · rfl
  · exact iff_of_false (by rintro ⟨⟩) (by rintro ⟨⟩)
  · exact iff_of_false (by rintro ⟨⟩) (by rintro ⟨⟩)

/-- Equal amounts above zero have one normal form, if they have any. -/
theorem normalize_of_number {a b : Json} {x y : Decimal} (number : SameNumber a b)
    (taken : positive a = .ok x) (taken' : positive b = .ok y) : x.normalize = y.normalize := by
  obtain ⟨held, above⟩ := positive_eq_ok taken
  obtain ⟨held', above'⟩ := positive_eq_ok taken'
  obtain ⟨_, _, read, read', same⟩ := number
  cases held.symm.trans read
  cases held'.symm.trans read'
  have finite := decimal_isFinite held
  have finite' := decimal_isFinite held'
  refine Decimal.normalize_congr finite finite' ?_ same
  rw [Decimal.isNegative_of_pos finite above, Decimal.isNegative_of_pos finite' above']

theorem bucket_eq {bucket other : Bucket} (vault : bucket.vault = other.vault)
    (chain : bucket.chain = other.chain) (receiver : bucket.receiver = other.receiver) :
    bucket = other := by
  cases bucket
  cases other
  cases vault
  cases chain
  cases receiver
  rfl

end Values

namespace Delivery

structure Equivalent (first second : Json.Fields) : Prop where
  txHash : Alike SameLetters hashNames first second
  vault : Alike Spaced ["vault_id", "vaultId"] first second
  chain : Alike Spaced ["chain_id", "chainId"] first second
  receiver : Alike SameDigits ["receiver"] first second
  amount : Alike SameNumber amountNames first second
  shares : Alike SameNumber sharesNames first second
  confirmed : Alike SameInstant timeNames first second
  tag : Alike Spaced tagNames first second

/-- The shares are zero and written with a minus. -/
def MinusShares (payload : Json) : Prop :=
  ∃ sent, Holds payload sharesNames sent ∧ sent.isNegative = true

/-- Deposits with equal parts; the shares are equal as numbers. -/
def Same (deposit other : Deposit) : Prop :=
  deposit = { other with shares := deposit.shares } ∧
    deposit.shares.same? other.shares = .ok true

variable {first second : Json.Fields} {deposit other : Deposit}

theorem minusShares_iff {name : String} {value : Json} {sent : Decimal}
    (given : given? first sharesNames = some (name, value)) (held : decimal value = .ok sent) :
    MinusShares (.object first) ↔ sent.isNegative = true := by
  constructor
  · rintro ⟨_, ⟨_, _, _, same, given', held'⟩, minus⟩
    cases same
    cases given.symm.trans given'
    cases held.symm.trans held'
    exact minus
  · intro minus
    exact ⟨sent, ⟨first, name, value, rfl, given, held⟩, minus⟩

theorem not_minusShares (absent : given? first sharesNames = none) :
    ¬ MinusShares (.object first) := by
  rintro ⟨_, ⟨_, _, _, same, given, -⟩, -⟩
  cases same
  cases absent.symm.trans given

/-- Equal shares are kept as one unless only one of them is written as zero with a minus. -/
theorem shares_of_alike {x y r q : Decimal} (alike : Alike SameNumber sharesNames first second)
    (filled : withDefault first sharesNames .zero notNegative = .good x)
    (filled' : withDefault second sharesNames .zero notNegative = .good y)
    (kept : x.normalize = .ok r) (kept' : y.normalize = .ok q) :
    r.same? q = .ok true ∧
      (r = q ↔ (MinusShares (.object first) ↔ MinusShares (.object second))) := by
  rcases withDefault_alike alike filled filled' with
    ⟨absent, absent', rfl, rfl⟩ | ⟨a, b, number, ⟨_, given⟩, ⟨_, given'⟩, taken, taken'⟩
  · obtain ⟨same, -⟩ := Decimal.normalize_same rfl rfl rfl kept kept'
    obtain rfl : r = q := Except.ok.inj (kept.symm.trans kept')
    exact ⟨same, iff_of_true rfl (iff_of_false (not_minusShares absent) (not_minusShares absent'))⟩
  · obtain ⟨held, -⟩ := notNegative_eq_ok taken
    obtain ⟨held', -⟩ := notNegative_eq_ok taken'
    obtain ⟨_, _, read, read', same⟩ := number
    cases held.symm.trans read
    cases held'.symm.trans read'
    rw [minusShares_iff given held, minusShares_iff given' held', ← Bool.eq_iff_iff]
    exact Decimal.normalize_same (decimal_isFinite held) (decimal_isFinite held') same kept kept'

/-- Deliveries that say the same make the same deposit; the sign of zero shares is kept. -/
theorem read_equivalent (equivalent : Equivalent first second)
    (done : read (.object first) = .ok deposit) (done' : read (.object second) = .ok other) :
    Same deposit other ∧
      (deposit = other ↔ (MinusShares (.object first) ↔ MinusShares (.object second))) := by
  obtain ⟨_, given, same, filled, amount, shares, kept⟩ := read_eq_ok done
  cases same
  obtain ⟨_, given', same, filled', amount', shares', kept'⟩ := read_eq_ok done'
  cases same
  have fills := ofFields_eq_good filled
  have fills' := ofFields_eq_good filled'
  have hash := hash_alike.required equivalent.txHash fills.txHash fills'.txHash
  have vault := (ReadAlike.of_core text_of_core).required equivalent.vault fills.vault fills'.vault
  have chain := (ReadAlike.of_core chain_of_core).required equivalent.chain fills.chain fills'.chain
  have receiver := receiver_alike.required equivalent.receiver fills.receiver fills'.receiver
  have confirmed := moment_alike.required equivalent.confirmed fills.confirmed fills'.confirmed
  have tag := (ReadAlike.of_core tag_of_core).withDefault equivalent.tag fills.tag fills'.tag
  obtain ⟨_, _, number, taken, taken'⟩ := required_alike equivalent.amount fills.amount
    fills'.amount
  have amounts := Except.ok.inj
    ((amount.symm.trans (normalize_of_number number taken taken')).trans amount')
  obtain ⟨equal, signs⟩ := shares_of_alike equivalent.shares fills.shares fills'.shares shares
    shares'
  have parts : deposit = { other with shares := deposit.shares } := by
    rw [kept, kept', hash, bucket_eq vault chain receiver, amounts, confirmed, tag]
  refine ⟨⟨parts, equal⟩, ?_⟩
  rw [← signs]
  constructor
  · rintro rfl
    rfl
  · intro same
    rw [parts, same]

end Delivery

namespace Declaration

structure Equivalent (first second : Json.Fields) : Prop where
  id : Alike Spaced ["id", "intent_id", "intentId"] first second
  partner : Alike Spaced partnerNames first second
  vault : Alike Spaced ["vault_id", "vaultId"] first second
  chain : Alike Spaced ["chain_id", "chainId"] first second
  receiver : Alike SameDigits ["receiver"] first second
  amount : Alike SameNumber ["amount"] first second
  created : Alike SameInstant createdNames first second
  expires : Alike SameInstant expiresNames first second
  metadata : Alike SameData ["metadata", "meta"] first second

variable {first second : Json.Fields} {declaration other : Declaration}

theorem toIntent_congr (parts : declaration = { other with amount := declaration.amount })
    (amount : declaration.amount.normalize = other.amount.normalize) (now : Timestamp)
    (usual : Duration) (issued : Nat) :
    declaration.toIntent now usual issued = other.toIntent now usual issued := by
  unfold toIntent
  rw [amount, parts]
  rfl

/-- How many ids were issued does not matter to an intent that brings its own. -/
theorem toIntent_of_id (given : declaration.id.isSome) (now : Timestamp) (usual : Duration)
    (issued later : Nat) :
    (declaration.toIntent now usual issued).2 = (declaration.toIntent now usual later).2 := by
  obtain ⟨id, named⟩ := Option.isSome_iff_exists.mp given
  unfold toIntent
  cases declaration.window now usual with
  | error fault => rfl
  | ok window =>
    obtain ⟨created, expires⟩ := window
    simp only [named, Option.getD_some]

theorem toIntent_equivalent (equivalent : Equivalent first second)
    (done : read (.object first) = .ok declaration) (done' : read (.object second) = .ok other)
    (now : Timestamp) (usual : Duration) (issued : Nat) :
    declaration.toIntent now usual issued = other.toIntent now usual issued := by
  obtain ⟨_, same, fills⟩ := read_eq_ok done
  cases same
  obtain ⟨_, same, fills'⟩ := read_eq_ok done'
  cases same
  have times := moment_alike.nullable null_of_instant
  have id := (ReadAlike.of_core nullable_of_core).withDefault equivalent.id fills.id fills'.id
  have partner := (ReadAlike.of_core text_of_core).required equivalent.partner fills.partner
    fills'.partner
  have vault := (ReadAlike.of_core text_of_core).required equivalent.vault fills.vault fills'.vault
  have chain := (ReadAlike.of_core chain_of_core).required equivalent.chain fills.chain fills'.chain
  have receiver := receiver_alike.required equivalent.receiver fills.receiver fills'.receiver
  have created := times.withDefault equivalent.created fills.created fills'.created
  have expires := times.withDefault equivalent.expires fills.expires fills'.expires
  have metadata := freeFields_alike.withDefault equivalent.metadata fills.metadata fills'.metadata
  obtain ⟨_, _, number, taken, taken'⟩ := required_alike equivalent.amount fills.amount
    fills'.amount
  refine toIntent_congr ?_ (normalize_of_number number taken taken') now usual issued
  rw [← id, ← partner, ← bucket_eq vault chain receiver, ← created, ← expires, ← metadata]

end Declaration

end Reconcile.Payload
