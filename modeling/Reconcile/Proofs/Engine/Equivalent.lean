import Reconcile.Engine.Views
import Reconcile.Proofs.Engine.Frame
import Reconcile.Proofs.Payload.Equivalent

set_option autoImplicit false

/-
Payloads that say the same have the same effect, on the tables, on the counters and on what is
noted, whatever the tables hold. The sign of zero shares is part of a deposit, and the values in the
metadata belong to the partner, so both are kept as they are sent.
-/
namespace Reconcile.Engine

open Payload (Declaration)
open Payload.Delivery (Same MinusShares)

variable {first second : Json.Fields}

theorem deliver_of_read {deposit : Deposit} (engine : Engine) (now : Timestamp)
    (rival : Delivery.Rival) (done : Payload.Delivery.read (.object first) = .ok deposit) :
    engine.deliver (.object first) now rival = engine.deliverDeposit deposit now rival := by
  simp only [deliver, done]

theorem prepare_of_read {declaration other : Declaration} (settings : Settings) (issued : Nat)
    (now : Timestamp) (done : Declaration.read (.object first) = .ok declaration)
    (done' : Declaration.read (.object second) = .ok other)
    (intents : ∀ usual, declaration.toIntent now usual issued = other.toIntent now usual issued) :
    prepare settings issued (.object first) now = prepare settings issued (.object second) now := by
  rw [prepare, prepare, bind_of_ok done, bind_of_ok done']
  cases liftClock settings.ttl with
  | error fault => rfl
  | ok usual => exact intents usual

/-- Deliveries that say the same make deposits with equal parts, and the same deposit and the same
effect unless just one of them has a zero with a minus for its shares. Declarations that say the
same and bring their id make the same intent and have the same effect. -/
theorem equivalent_payloads_act_alike (first second : Json.Fields) :
    (∀ deposit other, Payload.Delivery.Equivalent first second →
      Payload.Delivery.read (.object first) = .ok deposit →
      Payload.Delivery.read (.object second) = .ok other →
      Same deposit other ∧
      (deposit = other ↔ (MinusShares (.object first) ↔ MinusShares (.object second))) ∧
      ((MinusShares (.object first) ↔ MinusShares (.object second)) →
        ∀ (engine : Engine) now rival,
          engine.deliver (.object first) now rival =
            engine.deliver (.object second) now rival)) ∧
    ∀ declaration other, Declaration.Equivalent first second →
      Declaration.read (.object first) = .ok declaration →
      Declaration.read (.object second) = .ok other → declaration.id.isSome →
      (∀ now usual issued later,
        (declaration.toIntent now usual issued).2 = (other.toIntent now usual later).2) ∧
      ∀ (engine : Engine) now rival,
        engine.declare (.object first) now rival =
          engine.declare (.object second) now rival := by
  refine ⟨?_, ?_⟩
  · intro deposit other equivalent done done'
    obtain ⟨same, signs⟩ := Payload.Delivery.read_equivalent equivalent done done'
    refine ⟨same, signs, fun sign engine now rival => ?_⟩
    rw [deliver_of_read engine now rival done, deliver_of_read engine now rival done',
      signs.mpr sign]
  · intro declaration other equivalent done done' named
    have intents := Declaration.toIntent_equivalent equivalent done done'
    refine ⟨fun now usual issued later => ?_, fun engine now rival => ?_⟩
    · rw [Declaration.toIntent_of_id named now usual issued later, intents]
    · have prepared := prepare_of_read engine.settings engine.issued now done done'
        fun usual => intents now usual engine.issued
      simp only [declare, prepared]

/-- A delivery and a declaration, each in a plain form and in another one. -/
def Rewritten.delivery : Json.Fields :=
  [("tx_hash", .string "0xABC"), ("vault_id", .string "v"), ("chain_id", .string "1"),
    ("receiver", .string "0xAB"), ("amount", .string "150"), ("shares", .string "0.50"),
    ("confirmed_at", .string "2026-03-02T12:00:00Z"), ("partner_tag", .string "acme")]

def Rewritten.delivered : Json.Fields :=
  [("block_time", .string "2026-03-02T14:00:00+02:00"), ("note", .null),
    ("txHash", .string " 0xabc"), ("vaultId", .string "v\t"), ("chainId", .string " 1 "),
    ("receiver", .string " 00ab"), ("assets", .string "1.50e2"),
    ("sharesAmount", .string " 5E-1 "), ("explicitPartnerTag", .string " acme ")]

def Rewritten.declaration : Json.Fields :=
  [("id", .string "i"), ("partner_id", .string "acme"), ("vault_id", .string "v"),
    ("chain_id", .string "1"), ("receiver", .string "0xAB"), ("amount", .string "150"),
    ("created_at", .string "2026-03-02T12:00:00Z"), ("metadata", .object [("note", .int 1)])]

def Rewritten.declared : Json.Fields :=
  [("meta", .object [(" note", .int 1)]), ("createdAt", .string "2026-03-02T14:00:00+02:00"),
    ("note", .null), ("intentId", .string "i "), ("partnerId", .string " acme"),
    ("vaultId", .string "v\t"), ("chainId", .string " 1 "), ("receiver", .string " 00ab"),
    ("amount", .string "1.50e2")]

theorem Rewritten.deliveries : Payload.Delivery.Equivalent delivery delivered where
  txHash := Payload.alike_of_filter "tx_hash" "txHash" (by decide +kernel) (by decide +kernel)
    rfl rfl ⟨_, _, rfl, rfl, by decide +kernel⟩
  vault := Payload.alike_of_filter "vault_id" "vaultId" (by decide +kernel) (by decide +kernel)
    rfl rfl (.inr ⟨_, _, rfl, rfl, by decide +kernel⟩)
  chain := Payload.alike_of_filter "chain_id" "chainId" (by decide +kernel) (by decide +kernel)
    rfl rfl (.inr ⟨_, _, rfl, rfl, by decide +kernel⟩)
  receiver := Payload.alike_of_filter "receiver" "receiver" (by decide +kernel) (by decide +kernel)
    rfl rfl ⟨_, _, rfl, rfl, by decide +kernel⟩
  amount := Payload.alike_of_filter "amount" "assets" (by decide +kernel) (by decide +kernel)
    rfl rfl ⟨.finite false 150 0, .finite false 150 0, by decide +kernel, by decide +kernel, rfl⟩
  shares := Payload.alike_of_filter "shares" "sharesAmount" (by decide +kernel) (by decide +kernel)
    rfl rfl ⟨.finite false 50 (-2), .finite false 5 (-1), by decide +kernel, by decide +kernel,
      by norm_num [Decimal.toRat_finite]⟩
  confirmed := Payload.alike_of_filter "confirmed_at" "block_time" (by decide +kernel)
    (by decide +kernel) rfl rfl (.inr ⟨_, _, ⟨1772452800000000, some 0⟩,
      ⟨1772460000000000, some 7200⟩, rfl, rfl, by decide +kernel, by decide +kernel, by decide⟩)
  tag := Payload.alike_of_filter "partner_tag" "explicitPartnerTag" (by decide +kernel)
    (by decide +kernel) rfl rfl (.inr ⟨_, _, rfl, rfl, by decide +kernel⟩)

theorem Rewritten.declarations : Payload.Declaration.Equivalent declaration declared where
  id := Payload.alike_of_filter "id" "intentId" (by decide +kernel) (by decide +kernel)
    rfl rfl (.inr ⟨_, _, rfl, rfl, by decide +kernel⟩)
  partner := Payload.alike_of_filter "partner_id" "partnerId" (by decide +kernel)
    (by decide +kernel) rfl rfl (.inr ⟨_, _, rfl, rfl, by decide +kernel⟩)
  vault := Payload.alike_of_filter "vault_id" "vaultId" (by decide +kernel) (by decide +kernel)
    rfl rfl (.inr ⟨_, _, rfl, rfl, by decide +kernel⟩)
  chain := Payload.alike_of_filter "chain_id" "chainId" (by decide +kernel) (by decide +kernel)
    rfl rfl (.inr ⟨_, _, rfl, rfl, by decide +kernel⟩)
  receiver := Payload.alike_of_filter "receiver" "receiver" (by decide +kernel) (by decide +kernel)
    rfl rfl ⟨_, _, rfl, rfl, by decide +kernel⟩
  amount := Payload.alike_of_filter "amount" "amount" (by decide +kernel) (by decide +kernel)
    rfl rfl ⟨.finite false 150 0, .finite false 150 0, by decide +kernel, by decide +kernel, rfl⟩
  created := Payload.alike_of_filter "created_at" "createdAt" (by decide +kernel)
    (by decide +kernel) rfl rfl (.inr ⟨_, _, ⟨1772452800000000, some 0⟩,
      ⟨1772460000000000, some 7200⟩, rfl, rfl, by decide +kernel, by decide +kernel, by decide⟩)
  expires := .inl (by
    simp [Payload.Declaration.expiresNames, Json.field?, declaration, declared])
  metadata := Payload.alike_of_filter "metadata" "meta" (by decide +kernel) (by decide +kernel)
    rfl rfl (.inr ⟨_, _, rfl, rfl, .cons ⟨.inr ⟨_, _, rfl, rfl, by decide +kernel⟩, rfl⟩ .nil⟩)

/-- All ways to say the same at once. -/
theorem equivalent_payloads_act_alike_rewritten :
    (∃ deposit, Payload.Delivery.read (.object Rewritten.delivery) = .ok deposit ∧
      Payload.Delivery.read (.object Rewritten.delivered) = .ok deposit ∧
      ∀ (engine : Engine) now rival,
        engine.deliver (.object Rewritten.delivery) now rival =
          engine.deliver (.object Rewritten.delivered) now rival) ∧
    ∃ declaration other,
      Declaration.read (.object Rewritten.declaration) = .ok declaration ∧
      Declaration.read (.object Rewritten.declared) = .ok other ∧
      (∀ now usual issued later,
        (declaration.toIntent now usual issued).2 = (other.toIntent now usual later).2) ∧
      ∀ (engine : Engine) now rival,
        engine.declare (.object Rewritten.declaration) now rival =
          engine.declare (.object Rewritten.declared) now rival := by
  obtain ⟨deliveries, -⟩ := equivalent_payloads_act_alike Rewritten.delivery Rewritten.delivered
  obtain ⟨-, declarations⟩ :=
    equivalent_payloads_act_alike Rewritten.declaration Rewritten.declared
  have reads : (Payload.Delivery.read (.object Rewritten.delivery)).toOption.isSome ∧
      (Payload.Delivery.read (.object Rewritten.delivered)).toOption.isSome := by
    decide +kernel
  have declares : ((Declaration.read (.object Rewritten.declaration)).toOption.map
      (·.id.isSome)) = some true ∧
      (Declaration.read (.object Rewritten.declared)).toOption.isSome := by
    decide +kernel
  refine ⟨?_, ?_⟩
  · obtain ⟨deposit, taken⟩ := Option.isSome_iff_exists.mp reads.1
    obtain ⟨other, taken'⟩ := Option.isSome_iff_exists.mp reads.2
    have done := toOption_eq_some.mp taken
    have done' := toOption_eq_some.mp taken'
    obtain ⟨-, signs, effects⟩ := deliveries deposit other Rewritten.deliveries done done'
    have plus : MinusShares (.object Rewritten.delivery) ↔
        MinusShares (.object Rewritten.delivered) := by
      have sent : Payload.decimal (.string "0.50") = .ok (.finite false 50 (-2)) := by
        decide +kernel
      have sent' : Payload.decimal (.string " 5E-1 ") = .ok (.finite false 5 (-1)) := by
        decide +kernel
      rw [@Payload.Delivery.minusShares_iff Rewritten.delivery "shares" _ _ rfl sent,
        @Payload.Delivery.minusShares_iff Rewritten.delivered "sharesAmount" _ _ rfl sent']
      rfl
    obtain rfl := signs.mpr plus
    exact ⟨deposit, done, done', effects plus⟩
  · obtain ⟨declaration, taken, named⟩ := Option.map_eq_some_iff.mp declares.1
    obtain ⟨other, taken'⟩ := Option.isSome_iff_exists.mp declares.2
    have done := toOption_eq_some.mp taken
    have done' := toOption_eq_some.mp taken'
    obtain ⟨intents, effects⟩ :=
      declarations declaration other Rewritten.declarations done done' named
    exact ⟨declaration, other, done, done', intents, effects⟩

def Rewritten.noted (note : String) : Json :=
  .object [("id", .string "i"), ("partner_id", .string "acme"), ("vault_id", .string "v"),
    ("chain_id", .int 1), ("receiver", .string "0x1"), ("amount", .int 1),
    ("metadata", .object [("note", .string note)])]

def Rewritten.note (intent : Intent) : Option String :=
  match Json.field? intent.metadata "note" with
  | some (.string (.text written)) => some written
  | _ => none

def Rewritten.shared (shares : String) : Json :=
  .object [("tx_hash", .string "0xabc"), ("vault_id", .string "v"), ("chain_id", .int 1),
    ("receiver", .string "0x1"), ("amount", .int 1), ("shares", .string shares),
    ("confirmed_at", .int 0), ("partner_tag", .string "acme")]

/-- The shares that are told of a transaction after its delivery. -/
def Rewritten.toldShares (shares : String) : Option String :=
  ((((start .usual).deliver (shared shares) (.utc 0) .absent).engine.getAttribution
    "0xabc").result.toOption.bind id).bind fun told => told.shares.map Decimal.plainText

/-- White space around a value in the metadata is kept, and so is the sign of zero shares. -/
theorem metadata_and_minus_kept :
    ((start .usual).declare (Rewritten.noted " hi ") (.utc 0) false).result.toOption.bind
      Rewritten.note = some " hi " ∧
    ((start .usual).declare (Rewritten.noted "hi") (.utc 0) false).result.toOption.bind
      Rewritten.note = some "hi" ∧
    Rewritten.toldShares "-0" = some "-0" ∧ Rewritten.toldShares "0" = some "0" := by
  decide +kernel

end Reconcile.Engine
