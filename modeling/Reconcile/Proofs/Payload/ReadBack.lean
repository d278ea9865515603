import Reconcile.Report
import Reconcile.Proofs.Address
import Reconcile.Proofs.Calendar.Printing
import Reconcile.Proofs.Decimal.Printing
import Reconcile.Proofs.Payload.Texts

set_option autoImplicit false

/-
Deposits that are written and read again. Every part of a deposit that was read is in the form that
reading gives it, so it is read as it stands. The limits are another matter: they are set for what
is sent, and small letters can be more than the capitals, and a rounded amount can be zero.
-/
namespace Reconcile

namespace Text

theorem trim_trim (s : String) : trim (trim s) = trim s := by
  rw [trim, trim, String.toList_ofList, trimBy_trimBy fun _ space => space]

/-- Small letters are small letters of themselves, and no white space comes around them. -/
theorem lowercase_trim_settled (s : String) :
    trim (lowercase (trim s)) = lowercase (trim s) ∧
      lowercase (lowercase (trim s)) = lowercase (trim s) := by
  simp only [trim, lowercase, String.toList_ofList]
  refine ⟨?_, ?_⟩
  · rw [trimBy_eq_self (lower_trimmed (trimBy_trimmed isSpace s.toList))]
  · have small : ∀ c ∈ lower (trimBy isSpace s.toList), Settled c :=
      fun c member => lowerFrom_settled member
    exact congrArg String.ofList (lowerFrom_of_toLower [] small rfl).1

theorem length_lowercase (s : String) :
    (lowercase s).length = s.length + s.toList.count '\u0130' := by
  rw [lowercase, String.length_ofList, length_lower, String.length_toList]

end Text

/-- Every part of the deposit is in the form that reading gives it. -/
structure Deposit.Regular (deposit : Deposit) : Prop where
  txHash : Text.trim deposit.txHash = deposit.txHash ∧
    Text.lowercase deposit.txHash = deposit.txHash ∧ 1 ≤ deposit.txHash.length
  vault : Text.trim deposit.bucket.vault = deposit.bucket.vault ∧
    1 ≤ deposit.bucket.vault.length ∧ deposit.bucket.vault.length ≤ 50
  chain : 0 ≤ deposit.bucket.chain
  receiver : Address.Canonical deposit.bucket.receiver
  amount : deposit.amount.Canonical ∧ deposit.amount.isFinite ∧ 0 ≤ deposit.amount.toRat
  shares : deposit.shares.Canonical ∧ deposit.shares.isFinite ∧ 0 ≤ deposit.shares.toRat
  confirmed : ∃ micros, Timestamp.onCalendar micros = true ∧ deposit.confirmed = .utc micros
  tag : ∀ tag, deposit.tag = some tag →
    Text.trim tag = tag ∧ tag.isEmpty = false ∧ tag.length ≤ 128

structure Deposit.Limited (deposit : Deposit) : Prop where
  txHash : 1 ≤ deposit.txHash.length ∧ deposit.txHash.length ≤ 100
  receiver : Address.Canonical deposit.bucket.receiver
  amount : 0 < deposit.amount.toRat
  shares : 0 ≤ deposit.shares.toRat

theorem Deposit.Regular.limited_iff {deposit : Deposit} (regular : deposit.Regular) :
    deposit.Limited ↔ deposit.txHash.length ≤ 100 ∧ 0 < deposit.amount.toRat := by
  constructor
  · intro limited
    exact ⟨limited.txHash.2, limited.amount⟩
  · rintro ⟨short, above⟩
    exact ⟨⟨regular.txHash.2.2, short⟩, regular.receiver, above, regular.shares.2.2⟩

namespace Payload

/-- What was normalized is finite and not below zero if it was not before. -/
theorem normalized_regular {sent kept : Decimal} (finite : sent.isFinite)
    (nonneg : 0 ≤ sent.toRat) (done : sent.normalize = .ok kept) :
    kept.Canonical ∧ kept.isFinite ∧ 0 ≤ kept.toRat := by
  have rounds := Decimal.rounds_of_normalize finite done
  exact ⟨Decimal.canonical_of_normalize done, rounds.fits.isFinite, rounds.nonneg nonneg⟩

theorem nullable_string {α : Type} (read : Json → Reading α) (written : String) :
    nullable read (.string written) = (read (.string written)).map some := rfl

/-- A text without white space around it is read as it stands. -/
theorem text_of_trimmed {least most : Nat} {written : String}
    (whole : Text.trim written = written) (long : least ≤ written.length)
    (short : written.length ≤ most) : text least most (.string written) = .ok written := by
  refine text_eq_ok.mpr ⟨written, rfl, whole.symm, ?_⟩
  rw [whole]
  exact ⟨long, short⟩

/-- What a written amount is read as. -/
theorem decimal_of_canonical {a : Decimal} (canonical : a.Canonical) (finite : a.isFinite) :
    ∃ sent, decimal (.string a.plainText) = .ok sent ∧ sent.toRat = a.toRat ∧
      sent.normalize = .ok a := by
  obtain ⟨sent, found, number, same, normal⟩ := Decimal.read?_of_canonical canonical finite
  refine ⟨sent, ?_, same, normal⟩
  rw [decimal]
  simp only [found]
  exact if_pos number

theorem positive_of_decimal {value : Json} {sent : Decimal} (held : decimal value = .ok sent)
    (above : 0 < sent.toRat) : positive value = .ok sent := by
  refine (bind_of_ok held).trans (if_pos ?_)
  rw [order_zero (decimal_isFinite held)]
  exact (cmp_eq_gt_iff _ _).mpr above

theorem notNegative_of_decimal {value : Json} {sent : Decimal} (held : decimal value = .ok sent)
    (notBelow : 0 ≤ sent.toRat) : notNegative value = .ok sent := by
  refine (bind_of_ok held).trans (if_neg ?_)
  rw [order_zero (decimal_isFinite held)]
  exact fun below => absurd ((cmp_eq_lt_iff _ _).mp below) (not_lt.mpr notBelow)

theorem receiver_of_canonical {address : String} (canonical : Address.Canonical address) :
    receiver (.string address) = .ok address := by
  obtain ⟨length, shown⟩ := canonical.shown
  have visible : ∀ c ∈ address.toList, Text.isSpace c = false := by
    intro c member
    have blank := (Address.settled_of_isMarkOrDigit (shown c member)).2
    rw [Text.isBlank, Bool.or_eq_false_iff] at blank
    exact blank.1
  have whole := Text.trim_of_forall visible
  rw [String.length_toList] at length
  have taken : text 1 100 (.string address) = .ok address :=
    text_of_trimmed whole (by rw [length]; decide) (by rw [length]; decide)
  refine (bind_of_ok taken).trans ?_
  rw [Address.normalize_of_canonical canonical]

theorem moment_of_utc {micros : Int} (inside : Timestamp.onCalendar micros = true) :
    moment (.string (Timestamp.utc micros).text) = .ok (.utc micros) := by
  have wall : Timestamp.onCalendar (Timestamp.utc micros).wall = true := inside
  have kept : (Timestamp.utc micros).toUtc? = .ok (.utc micros) := by
    rw [Timestamp.toUtc?, Column.instant_utc, if_pos inside]
  rw [moment, momentText, Timestamp.read?_text inside]
  simp only [if_pos wall, kept]

end Payload

namespace Payload.Delivery

theorem tag_eq_ok {value : Json} {result : Option String} (done : tag value = .ok result) :
    ∀ name, result = some name →
      Text.trim name = name ∧ name.isEmpty = false ∧ name.length ≤ 128 := by
  obtain ⟨before, taken, rfl⟩ := map_eq_ok.mp done
  intro name kept
  obtain ⟨same, nonempty⟩ := Option.filter_eq_some_iff.mp kept
  subst same
  obtain ⟨written, rfl, rfl, -, short⟩ := text_eq_ok.mp (nullable_eq_ok_some taken)
  exact ⟨Text.trim_trim written, by simpa using nonempty, short⟩

theorem read_regular {payload : Json} {deposit : Deposit} (done : read payload = .ok deposit) :
    deposit.Regular := by
  obtain ⟨fields, given, rfl, filled, amount, shares, same⟩ := read_eq_ok done
  have fills := ofFields_eq_good filled
  rw [same]
  refine ⟨?_, ?_, ?_, ?_, ?_, ?_, ?_, ?_⟩
  · obtain ⟨name, value, -, hashed⟩ := required_eq_good.mp fills.txHash
    obtain ⟨trimmed, taken, small⟩ := map_eq_ok.mp hashed
    obtain ⟨written, -, rfl, long, -⟩ := text_eq_ok.mp taken
    rw [← small]
    obtain ⟨trimmed, lowered⟩ := Text.lowercase_trim_settled written
    refine ⟨trimmed, lowered, ?_⟩
    rw [Text.length_lowercase]
    omega
  · obtain ⟨name, value, -, taken⟩ := required_eq_good.mp fills.vault
    obtain ⟨written, -, trimmed, long, short⟩ := text_eq_ok.mp taken
    rw [trimmed]
    exact ⟨Text.trim_trim written, long, short⟩
  · obtain ⟨name, value, -, taken⟩ := required_eq_good.mp fills.chain
    exact chain_nonneg taken
  · obtain ⟨name, value, -, taken⟩ := required_eq_good.mp fills.receiver
    obtain ⟨written, -, normal⟩ := receiver_eq_ok taken
    exact (Address.normalize_eq_ok normal).2
  · obtain ⟨name, value, -, taken⟩ := required_eq_good.mp fills.amount
    obtain ⟨held, above⟩ := positive_eq_ok taken
    exact normalized_regular (decimal_isFinite held) above.le amount
  · rcases withDefault_eq_good.mp fills.shares with ⟨-, none⟩ | ⟨name, value, -, taken⟩
    · rw [none] at shares
      exact normalized_regular rfl (by rw [Decimal.toRat_zero]) shares
    · obtain ⟨held, notBelow⟩ := notNegative_eq_ok taken
      exact normalized_regular (decimal_isFinite held) notBelow shares
  · obtain ⟨name, value, -, taken⟩ := required_eq_good.mp fills.confirmed
    exact moment_eq_ok taken
  · rcases withDefault_eq_good.mp fills.tag with ⟨-, none⟩ | ⟨name, value, -, taken⟩
    · intro tag given
      cases none.symm.trans given
    · exact tag_eq_ok taken

theorem read_of_fills {fields : Json.Fields} {given deposit : Deposit}
    (fills : Fills fields given) (done : canonical given = .ok deposit) :
    read (.object fields) = .ok deposit := by
  have filled : ofFields fields = .good given := by
    rw [ofFields, fills.txHash, fills.vault, fills.chain, fills.receiver, fills.amount,
      fills.shares, fills.confirmed, fills.tag]
    rfl
  unfold read
  simp only [filled]
  exact done

section Written

variable {deposit : Deposit}

def written (deposit : Deposit) : Json.Fields := [
  ("tx_hash", .string deposit.txHash), ("vault_id", .string deposit.bucket.vault),
  ("chain_id", .int deposit.bucket.chain), ("receiver", .string deposit.bucket.receiver),
  ("amount", .string deposit.amount.plainText), ("shares", .string deposit.shares.plainText),
  ("confirmed_at", .string deposit.confirmed.text), ("partner_tag", .ofString? deposit.tag)]

theorem decimalJson_of_canonical {a : Decimal} (canonical : a.Canonical) :
    decimalJson a = .ok (.string a.plainText) := by
  rw [decimalJson, Decimal.format, Decimal.normalize_of_canonical canonical]
  rfl

theorem toJson_of_regular (regular : deposit.Regular) :
    deposit.toJson = .ok (.object (written deposit)) := by
  rw [Deposit.toJson, Deposit.toFields, decimalJson_of_canonical regular.amount.1,
    decimalJson_of_canonical regular.shares.1]
  rfl

theorem given?_written (deposit : Deposit) :
    given? (written deposit) hashNames = some ("tx_hash", .string deposit.txHash) ∧
    given? (written deposit) ["vault_id", "vaultId"] =
      some ("vault_id", .string deposit.bucket.vault) ∧
    given? (written deposit) ["chain_id", "chainId"] =
      some ("chain_id", .int deposit.bucket.chain) ∧
    given? (written deposit) ["receiver"] =
      some ("receiver", .string deposit.bucket.receiver) ∧
    given? (written deposit) amountNames = some ("amount", .string deposit.amount.plainText) ∧
    given? (written deposit) sharesNames = some ("shares", .string deposit.shares.plainText) ∧
    given? (written deposit) timeNames = some ("confirmed_at", .string deposit.confirmed.text) ∧
    given? (written deposit) tagNames = some ("partner_tag", .ofString? deposit.tag) := by
  simp [given?, written, Json.field?, hashNames, amountNames, sharesNames, timeNames, tagNames]

theorem tag_of_regular (regular : deposit.Regular) :
    tag (.ofString? deposit.tag) = .ok deposit.tag := by
  cases named : deposit.tag with
  | none => rfl
  | some name =>
    obtain ⟨whole, nonempty, short⟩ := regular.tag name named
    rw [tag, Json.ofString?, Json.ofString, nullable_string,
      text_of_trimmed whole name.length.zero_le short, Except.map, Except.map,
      Option.filter_some, nonempty]
    rfl

theorem fills_written (regular : deposit.Regular) (limited : deposit.Limited)
    {amount shares : Decimal} (held : positive (.string deposit.amount.plainText) = .ok amount)
    (held' : notNegative (.string deposit.shares.plainText) = .ok shares) :
    Fills (written deposit) { deposit with amount, shares } := by
  obtain ⟨txHash, vault, chain, receiver, amount, shares, confirmed, tag⟩ := given?_written deposit
  refine ⟨required_eq_good.mpr ⟨_, _, txHash, ?_⟩, required_eq_good.mpr ⟨_, _, vault, ?_⟩,
    required_eq_good.mpr ⟨_, _, chain, if_neg (not_lt.mpr regular.chain)⟩,
    required_eq_good.mpr ⟨_, _, receiver, receiver_of_canonical regular.receiver⟩,
    required_eq_good.mpr ⟨_, _, amount, held⟩,
    withDefault_eq_good.mpr (Or.inr ⟨_, _, shares, held'⟩),
    required_eq_good.mpr ⟨_, _, confirmed, ?_⟩,
    withDefault_eq_good.mpr (Or.inr ⟨_, _, tag, tag_of_regular regular⟩)⟩
  · obtain ⟨whole, small, -⟩ := regular.txHash
    obtain ⟨long, short⟩ := limited.txHash
    exact map_eq_ok.mpr ⟨deposit.txHash, text_of_trimmed whole long short, small⟩
  · obtain ⟨whole, long, short⟩ := regular.vault
    exact text_of_trimmed whole long short
  · obtain ⟨micros, inside, utc⟩ := regular.confirmed
    rw [utc, moment_of_utc inside]

theorem read_written (regular : deposit.Regular) (limited : deposit.Limited) :
    read (.object (written deposit)) = .ok deposit := by
  obtain ⟨amount, heldAmount, sameAmount, keptAmount⟩ :=
    decimal_of_canonical regular.amount.1 regular.amount.2.1
  obtain ⟨shares, heldShares, sameShares, keptShares⟩ :=
    decimal_of_canonical regular.shares.1 regular.shares.2.1
  refine read_of_fills (fills_written regular limited
    (positive_of_decimal heldAmount (sameAmount ▸ limited.amount))
    (notNegative_of_decimal heldShares (sameShares ▸ limited.shares))) ?_
  rw [canonical, liftDecimal_eq_ok.mpr keptAmount, liftDecimal_eq_ok.mpr keptShares]
  rfl

/-- A written deposit is read only within the limits. -/
theorem limited_of_read_written (regular : deposit.Regular) {other : Deposit}
    (done : read (.object (written deposit)) = .ok other) : deposit.Limited := by
  obtain ⟨_, given, same, filled, -⟩ := read_eq_ok done
  cases same
  have fills := ofFields_eq_good filled
  obtain ⟨hashGiven, -, -, -, amountGiven, -⟩ := given?_written deposit
  refine regular.limited_iff.mpr ⟨?_, ?_⟩
  · obtain ⟨_, _, found, hashed⟩ := required_eq_good.mp fills.txHash
    cases hashGiven.symm.trans found
    obtain ⟨_, taken, -⟩ := map_eq_ok.mp hashed
    obtain ⟨_, same, -, -, short⟩ := text_eq_ok.mp taken
    cases same
    rw [regular.txHash.1] at short
    exact short
  · obtain ⟨_, _, found, taken⟩ := required_eq_good.mp fills.amount
    cases amountGiven.symm.trans found
    obtain ⟨held, above⟩ := positive_eq_ok taken
    obtain ⟨sent, read, same, -⟩ := decimal_of_canonical regular.amount.1 regular.amount.2.1
    cases held.symm.trans read
    rw [same] at above
    exact above

end Written

/-- What was sent keeps the limits when it is read: the hash is short enough in small letters, where
a dotted capital I counts twice, and the amount is not rounded to zero. -/
def Lasting (written : String) (sent : Decimal) : Prop :=
  (Text.trim written).length + (Text.trim written).toList.count '\u0130' ≤ 100 ∧
    1 / 2 * 10 ^ Decimal.tinyExponent < sent.toRat

theorem limited_iff_lasting {deposit : Deposit} {written : String} {sent : Decimal}
    (regular : deposit.Regular)
    (hashed : deposit.txHash = Text.lowercase (Text.trim written)) (finite : sent.isFinite)
    (above : 0 < sent.toRat) (kept : sent.normalize = .ok deposit.amount) :
    deposit.Limited ↔ Lasting written sent := by
  obtain ⟨s, c, e, rfl⟩ := Decimal.eq_finite_of_isFinite finite
  have zero := Decimal.normalize_eq_zero_iff kept
  rw [← Decimal.abs_toRat s, abs_of_pos above] at zero
  have kept : 0 < deposit.amount.toRat ↔
      1 / 2 * 10 ^ Decimal.tinyExponent < (Decimal.finite s c e).toRat := by
    rw [← not_iff_not, not_lt, not_lt, ← zero]
    exact ⟨fun below => le_antisymm below regular.amount.2.2, le_of_eq⟩
  rw [regular.limited_iff, Lasting, hashed, Text.length_lowercase, kept]

/-- What a payload makes is in the form that reading gives. It is within the limits, and when it is
written it is read again as it is, exactly if what was sent keeps the limits when it is read. -/
theorem read_back_iff {payload : Json} {deposit : Deposit} (done : read payload = .ok deposit) :
    deposit.Regular ∧
    ∃ (fields : Json.Fields) (name written : String) (sent : Decimal) (json : Json),
      payload = .object fields ∧ given? fields hashNames = some (name, .string written) ∧
      Holds payload amountNames sent ∧ deposit.toJson = .ok json ∧
      (deposit.Limited ↔ Lasting written sent) ∧
      (read json = .ok deposit ↔ Lasting written sent) := by
  have regular := read_regular done
  obtain ⟨⟨sent, holds, above, kept⟩, -⟩ := read_amounts done
  obtain ⟨fields, _, rfl, -⟩ := read_eq_ok done
  obtain ⟨name, value, given, hashed⟩ := read_txHash done
  obtain ⟨sentHash, rfl, small⟩ := hash_eq_ok hashed
  have limits := limited_iff_lasting regular small holds.isFinite above kept
  refine ⟨regular, fields, name, sentHash, sent, _, rfl, given, holds, toJson_of_regular regular,
    limits, ?_⟩
  rw [← limits]
  exact ⟨limited_of_read_written regular, read_written regular⟩

def ofHash (hash : String) : Json.Fields :=
  [("txHash", .string hash), ("vaultId", .string " v"), ("chainId", .string "1"),
    ("receiver", .string "0XAB"), ("assets", .string "1.50e2"), ("sharesAmount", .double .zero),
    ("block_time", .string "2026-03-02T12:00:00+02:00"), ("partnerTag", .string "")]

/-- A payload that is written in another way throughout gives a deposit that is read again. -/
theorem read_back_iff_mixed :
    ∃ deposit json, read (.object (ofHash " 0xAB ")) = .ok deposit ∧ deposit.Regular ∧
      deposit.Limited ∧ deposit.toJson = .ok json ∧ read json = .ok deposit := by
  have within : (read (.object (ofHash " 0xAB "))).toOption.map (fun deposit =>
      decide (deposit.txHash.length ≤ 100) && deposit.amount == .finite false 15 1) =
        some true := by
    decide +kernel
  obtain ⟨deposit, taken, within⟩ := Option.map_eq_some_iff.mp within
  rw [Bool.and_eq_true, decide_eq_true_eq, beq_iff_eq] at within
  obtain ⟨short, amount⟩ := within
  have done := toOption_eq_some.mp taken
  obtain ⟨regular, fields, name, written, sent, json, -, -, -, wrote, limits, back⟩ :=
    read_back_iff done
  have above : 0 < deposit.amount.toRat := by
    rw [amount, Decimal.toRat_finite]
    norm_num [Decimal.sign]
  have limited := regular.limited_iff.mpr ⟨short, above⟩
  exact ⟨deposit, json, done, regular, limited, wrote, back.mpr (limits.mp limited)⟩

/-- Another hash that can be read takes the place of this one. -/
theorem read_ofHash {sent kept : String} {deposit : Deposit}
    (reads : hash (.string sent) = .ok kept)
    (done : read (.object (ofHash "0xAB")) = .ok deposit) :
    read (.object (ofHash sent)) = .ok { deposit with txHash := kept } := by
  obtain ⟨fields, given, same, filled, amount, shares, whole⟩ := read_eq_ok done
  cases same
  have fills := ofFields_eq_good filled
  have filled' : Fills (ofHash sent) { given with txHash := kept } :=
    ⟨required_eq_good.mpr ⟨"txHash", .string sent, rfl, reads⟩, fills.vault, fills.chain,
      fills.receiver, fills.amount, fills.shares, fills.confirmed, fills.tag⟩
  refine read_of_fills filled' ?_
  rw [canonical, liftDecimal_eq_ok.mpr amount, liftDecimal_eq_ok.mpr shares, whole]
  rfl

def capitals (n : Nat) : String := String.ofList (List.replicate n '\u0130')

theorem length_capitals (n : Nat) : (capitals n).length = n := by
  rw [capitals, String.length_ofList, List.length_replicate]

theorem trim_capitals (n : Nat) : Text.trim (capitals n) = capitals n := by
  refine Text.trim_of_forall fun c member => ?_
  rw [capitals, String.toList_ofList] at member
  rw [List.eq_of_mem_replicate member]
  decide

theorem length_lowercase_capitals (n : Nat) :
    (Text.lowercase (capitals n)).length = n + n := by
  rw [Text.length_lowercase, length_capitals, capitals, String.toList_ofList,
    List.count_replicate_self]

theorem hash_capitals {n : Nat} (some : 1 ≤ n) (few : n ≤ 100) :
    hash (.string (capitals n)) = .ok (Text.lowercase (capitals n)) := by
  rw [← length_capitals n] at some few
  rw [hash, text_of_trimmed (trim_capitals n) some few]
  rfl

/-- A hundred dotted capitals are two hundred characters in small letters. -/
theorem outgrown_hash_not_read_back :
    ∃ deposit json, read (.object (ofHash (capitals 100))) = .ok deposit ∧
      deposit.txHash.length = 200 ∧ ¬ deposit.Limited ∧ deposit.toJson = .ok json ∧
      ∀ other, read json ≠ .ok other := by
  have plain : (read (.object (ofHash "0xAB"))).toOption.isSome := by decide +kernel
  obtain ⟨deposit, found⟩ := Option.isSome_iff_exists.mp plain
  have done := read_ofHash (hash_capitals (n := 100) (by decide) le_rfl)
    (toOption_eq_some.mp found)
  have regular := read_regular done
  have long := length_lowercase_capitals 100
  have outgrown : ¬ { deposit with txHash := Text.lowercase (capitals 100) }.Limited := by
    intro limited
    have short : (Text.lowercase (capitals 100)).length ≤ 100 := limited.txHash.2
    omega
  exact ⟨_, _, done, long, outgrown, toJson_of_regular regular,
    fun other again => outgrown (limited_of_read_written regular again)⟩

end Payload.Delivery

end Reconcile
