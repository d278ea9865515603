import Reconcile.Payload.Delivery
import Reconcile.Proofs.Store.Columns

set_option autoImplicit false

/-
Deposits as payloads report them. Their amounts are in canonical form and their times in UTC, so
the columns of a table keep them as they are.
-/
namespace Reconcile

namespace Payload

namespace Checked

variable {α β : Type}

theorem seq_eq_good {f : Checked (α → β)} {a : Checked α} {result : β} :
    f <*> a = .good result ↔ ∃ g value, f = .good g ∧ a = .good value ∧ g value = result := by
  change both f a = .good result ↔ _
  cases f <;> cases a <;> simp [both]

theorem map_eq_good {f : α → β} {a : Checked α} {result : β} :
    f <$> a = .good result ↔ ∃ value, a = .good value ∧ f value = result := by
  change both (.good f) a = .good result ↔ _
  cases a <;> simp [both]

end Checked

variable {α : Type}

theorem checked_eq_good {name : String} {reading : Reading α} {value : α} :
    checked name reading = .good value ↔ reading = .ok value := by
  cases reading with
  | ok read => simp [checked]
  | error refusal => cases refusal <;> simp [checked]

theorem required_eq_good {fields : Json.Fields} {first : String} {others : List String}
    {read : Json → Reading α} {value : α} :
    required fields first others read = .good value ↔
      ∃ name written, given? fields (first :: others) = some (name, written) ∧
        read written = .ok value := by
  unfold required
  split
  · rename_i name written given
    rw [given, checked_eq_good]
    constructor
    · intro done
      exact ⟨name, written, rfl, done⟩
    · rintro ⟨other, kept, same, done⟩
      cases same
      exact done
  · rename_i absent
    simp [absent]

theorem momentAt?_eq_some {micros : Int} {t : Timestamp} (found : momentAt? micros = some t) :
    Timestamp.onCalendar micros = true ∧ t = .utc micros := by
  unfold momentAt? at found
  split at found
  · rename_i inside
    exact ⟨inside, (Option.some.inj found).symm⟩
  · cases found

theorem momentText_eq_ok {written : String} {t : Timestamp} (read : momentText written = .ok t) :
    ∃ micros, Timestamp.onCalendar micros = true ∧ t = .utc micros := by
  unfold momentText at read
  split at read
  · split at read
    · split at read
      · rename_i utc converted
        cases read
        unfold Timestamp.toUtc? at converted
        split at converted
        · rename_i inside
          exact ⟨_, inside, (Except.ok.inj converted).symm⟩
        · cases converted
      · cases read
    · cases read
  · split at read
    · split at read
      · rename_i found
        cases read
        exact ⟨_, momentAt?_eq_some found⟩
      · cases read
    · cases read

theorem moment_eq_ok {value : Json} {t : Timestamp} (read : moment value = .ok t) :
    ∃ micros, Timestamp.onCalendar micros = true ∧ t = .utc micros := by
  unfold moment at read
  split at read
  · exact momentText_eq_ok read
  · cases read
  · split at read
    · rename_i found
      cases read
      exact ⟨_, momentAt?_eq_some found⟩
    · cases read
  · split at read
    · rename_i found
      cases read
      obtain ⟨micros, -, found⟩ := Option.bind_eq_some_iff.mp found
      exact ⟨micros, momentAt?_eq_some found⟩
    · cases read
  · cases read

end Payload

namespace Payload.Delivery

/-- Each part of the deposit is read from its own field. -/
structure Fills (fields : Json.Fields) (deposit : Deposit) : Prop where
  txHash : required fields "tx_hash" ["txHash"] hash = .good deposit.txHash
  vault : required fields "vault_id" ["vaultId"] (text 1 50) = .good deposit.bucket.vault
  chain : required fields "chain_id" ["chainId"] chain = .good deposit.bucket.chain
  receiver : required fields "receiver" [] receiver = .good deposit.bucket.receiver
  amount : required fields "amount" ["assets", "assets_dec"] positive = .good deposit.amount
  shares : withDefault fields ["shares", "shares_amount", "sharesAmount", "shares_dec"] .zero
    notNegative = .good deposit.shares
  confirmed : required fields "confirmed_at" ["confirmedAt", "block_time"] moment =
    .good deposit.confirmed
  tag : withDefault fields ["partner_tag", "partnerTag", "explicit_partner_tag",
    "explicitPartnerTag"] none tag = .good deposit.tag

theorem ofFields_eq_good {fields : Json.Fields} {deposit : Deposit}
    (filled : ofFields fields = .good deposit) : Fills fields deposit := by
  -- The last field is the first to come off.
  obtain ⟨_, tag, upToTime, heldTag, rfl⟩ := Checked.seq_eq_good.mp filled
  obtain ⟨_, confirmed, upToShares, heldTime, rfl⟩ := Checked.seq_eq_good.mp upToTime
  obtain ⟨_, shares, upToAmount, heldShares, rfl⟩ := Checked.seq_eq_good.mp upToShares
  obtain ⟨_, amount, upToReceiver, heldAmount, rfl⟩ := Checked.seq_eq_good.mp upToAmount
  obtain ⟨_, receiver, upToChain, heldReceiver, rfl⟩ := Checked.seq_eq_good.mp upToReceiver
  obtain ⟨_, chain, upToVault, heldChain, rfl⟩ := Checked.seq_eq_good.mp upToChain
  obtain ⟨_, vault, first, heldVault, rfl⟩ := Checked.seq_eq_good.mp upToVault
  obtain ⟨txHash, heldHash, rfl⟩ := Checked.map_eq_good.mp first
  exact ⟨heldHash, heldVault, heldChain, heldReceiver, heldAmount, heldShares, heldTime, heldTag⟩

theorem read_eq_ok {payload : Json} {deposit : Deposit} (done : read payload = .ok deposit) :
    ∃ fields given, payload = .object fields ∧ ofFields fields = .good given ∧
      given.amount.normalize = .ok deposit.amount ∧ given.shares.normalize = .ok deposit.shares ∧
      deposit = { given with amount := deposit.amount, shares := deposit.shares } := by
  unfold read at done
  split at done
  · rename_i fields
    split at done
    · rename_i given filled
      obtain ⟨amount, amountKept, done⟩ := bind_eq_ok.mp done
      obtain ⟨shares, sharesKept, done⟩ := bind_eq_ok.mp done
      cases done
      exact ⟨fields, given, rfl, filled, liftDecimal_eq_ok.mp amountKept,
        liftDecimal_eq_ok.mp sharesKept, rfl⟩
    · cases done
    · cases done
  · cases done

/-- What a payload reports goes into the columns as it is. -/
theorem read_canonical {payload : Json} {deposit : Deposit} (done : read payload = .ok deposit) :
    deposit.Canonical := by
  obtain ⟨fields, given, -, filled, amount, shares, same⟩ := read_eq_ok done
  obtain ⟨-, value, -, time⟩ := required_eq_good.mp (ofFields_eq_good filled).confirmed
  obtain ⟨micros, inside, confirmed⟩ := moment_eq_ok time
  have utc : deposit.confirmed = .utc micros := by rw [same, ← confirmed]
  refine ⟨?_, ?_, ?_⟩
  · simp only [Column.decimal, Decimal.normalize_idem amount]
  · simp only [Column.decimal, Decimal.normalize_idem shares]
  · rw [utc, Column.moment_utc inside]

theorem hash_eq_ok {value : Json} {txHash : String} (done : hash value = .ok txHash) :
    ∃ written : String, value = .string written ∧
      txHash = Text.lowercase (Text.trim written) := by
  obtain ⟨trimmed, taken, rfl⟩ := map_eq_ok.mp done
  unfold text at taken
  split at taken
  · rename_i written
    dsimp only at taken
    split at taken
    · cases taken
    · split at taken
      · cases taken
      · cases taken
        exact ⟨written, rfl, rfl⟩
  · cases taken
  · cases taken

theorem read_txHash {fields : Json.Fields} {deposit : Deposit}
    (done : read (.object fields) = .ok deposit) :
    ∃ name value, given? fields ["tx_hash", "txHash"] = some (name, value) ∧
      hash value = .ok deposit.txHash := by
  obtain ⟨_, given, same, filled, -, -, kept⟩ := read_eq_ok done
  cases same
  rw [kept]
  exact required_eq_good.mp (ofFields_eq_good filled).txHash

end Payload.Delivery

end Reconcile
