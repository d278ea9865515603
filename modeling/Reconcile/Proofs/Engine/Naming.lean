import Reconcile.Proofs.Engine.Accepting
import Reconcile.Proofs.Engine.Amounts
import Reconcile.Proofs.Engine.Blocking
import Reconcile.Proofs.Engine.Expiry
import Reconcile.Proofs.Payload.Texts
import Reconcile.Proofs.Store.Booked

set_option autoImplicit false

/-
Names that come from outside. A hash that is asked for and a partner that a tag names lose blanks of
a greater class than hashes and partners that are delivered and declared. So one text names the same
thing on both ways exactly if no separator is left at its ends with the white space gone.
-/
namespace Reconcile

open Relation (ReflTransGen)

namespace Delivery

/-- Until a delivery has ended its transaction has no attribution, and one that it then tells is of
a decision that the tables speak for. -/
structure Stage.Founded (task : Task) (stage : Stage) (store : Store) : Prop where
  knows : task.Knows store stage
  fresh : (∀ ending, stage ≠ .done ending) → store.attribution? task.deposit.txHash = none
  told : ∀ ending attribution, stage = .done ending → ending.result = .ok (some attribution) →
    ∃ decision, store.Backs task.policy task.deposit decision ∧
      attribution = .ofDecision task.deposit.txHash decision task.now

theorem Stage.Founded.step {task : Task} {stage : Stage} {store : Store}
    (founded : stage.Founded task store) :
    (task.step false stage store).stage.Founded task (task.step false stage store).store := by
  have knows := founded.knows.step false
  have leads := task.step_leads false stage store
  generalize (task.step false stage store).stage = next at leads knows
  generalize (task.step false stage store).store = after at leads knows
  by_cases ended : ∃ ending, stage = .done ending
  · obtain ⟨ending, rfl⟩ := ended
    cases leads with
    | failed stage other => exact ⟨knows, fun going => absurd rfl (going _), by rintro _ _ ⟨⟩ ⟨⟩⟩
    | ended ending => exact founded
    | recorded decides => cases decides
    | rivalled decides => cases decides
    | conflicted intent decides => cases decides
  · have absent := founded.fresh fun ending same => ended ⟨ending, same⟩
    have changes := leads.changes
    refine ⟨knows, leads.fresh absent, ?_⟩
    intro ending attribution last answered
    cases leads with
    | found present =>
      rw [absent] at present
      cases present
    | recorded decides claims done =>
      cases last
      cases answered
      exact ⟨_, (founded.knows.backs decides).changes changes, (Store.commit_eq_ok done).2.1⟩
    | reread =>
      cases last
      rw [absent] at answered
      cases answered
    | noneFits | givenUp | conflicted | failed =>
      cases last
      cases answered
    | ended => exact absurd ⟨_, rfl⟩ ended
    | known present looks | observedTwice present looks | observed done looks =>
      subst last
      cases looks
    | _ => cases last

end Delivery

namespace Store

/-- The tables hold one intent. It awaits the deposit, which is new, and expects its amount; whether
the partner is the same is left open. -/
structure Meets (store : Store) (deposit : Deposit) (intent : Intent) : Prop where
  only : store.intents = [intent]
  waits : awaits deposit.bucket deposit.confirmed intent = true
  amount : intent.amount.same? deposit.amount = .ok true
  fresh : store.attribution? deposit.txHash = none

variable {store : Store} {deposit : Deposit} {intent : Intent}

theorem Meets.exactCandidates (meets : store.Meets deposit intent) (ready : deposit.Ready) :
    store.exactCandidates intent.partner deposit.bucket deposit.amount deposit.confirmed =
      .ok [intent] := by
  have found : store.candidates deposit.bucket deposit.confirmed = .ok [intent] := by
    refine (bind_of_ok ready.canonical.confirmed).trans ((bind_of_ok ready.chain).trans ?_)
    rw [meets.only, List.filter_cons_of_pos meets.waits, List.filter_nil, Table.byTime,
      List.mergeSort_singleton]
    rfl
  refine (bind_of_ok found).trans ?_
  simp only [List.filterMapM_cons, List.filterMapM_nil, meets.amount]
  rfl

/-- What is told of the only intent comes from its own partner. -/
theorem Backs.sole {policy : Policy} {after : Store} {decision : Decision}
    (backs : after.Backs policy deposit decision) (descends : store.Descends after)
    (only : store.intents = [intent]) (explicit : decision.source = .explicit)
    (links : decision.intent = some intent.id) : deposit.partner? = some intent.partner := by
  cases backs with
  | named => cases links
  | chosen | nobody => cases explicit
  | @exact partner found named exactly =>
    obtain ⟨status, member⟩ := exactly.expects.lists
    obtain ⟨old, inside, earlier, same⟩ := descends _ member
    rw [only, List.mem_singleton] at inside
    have owner : found.partner = old.partner := by injection same
    rw [named, ← exactly.owner, owner, inside]

end Store

namespace Delivery.Task

/-- A delivery that names the partner of the only intent takes it. -/
theorem comes_linked (task : Task) {store : Store} {intent : Intent} (orderly : store.Orderly)
    (ready : task.deposit.Ready) (meets : store.Meets task.deposit intent)
    (named : task.deposit.partner? = some intent.partner) {kept : Timestamp}
    (timed : Column.moment task.now = .ok kept) :
    ∃ after, task.Comes task.firstQuery store
      (.attributed (.ofDecision task.deposit.txHash
        (.explicit task.deposit intent.partner (some intent.id)) task.now)) after := by
  have pending : ∀ other ∈ [intent], store.isPending other.id = true := by
    intro other member
    apply Store.isPending_of_awaits orderly.keyed (meets.only ▸ member)
    rw [List.mem_singleton.mp member]
    exact meets.waits
  obtain ⟨claimed, row, -, -, comes⟩ := comes_of_exact orderly.sound ready meets.fresh named
    (meets.exactCandidates ready) pending timed
  exact ⟨_, comes⟩

end Delivery.Task

namespace Engine

variable {engine : Engine} {deposit : Deposit} {intent : Intent} {now : Timestamp}

theorem deliverDeposit_founded {attribution : Attribution}
    (fresh : engine.store.attribution? deposit.txHash = none)
    (answered : (engine.deliverDeposit deposit now .absent).result = .ok (some attribution)) :
    ∃ after decision, engine.store.Descends after ∧
      after.Backs engine.settings.matching deposit decision ∧
      attribution = .ofDecision deposit.txHash decision now := by
  let task : Delivery.Task := ⟨engine.settings.matching, deposit, now⟩
  have start : Delivery.Stage.lookUp.Founded task engine.store :=
    ⟨.lookUp, fun _ => fresh, by rintro _ _ ⟨⟩⟩
  have enough : Delivery.Stage.lookUp.left ≤ Delivery.mostSteps := by decide
  obtain ⟨ending, ended⟩ := Delivery.run_done task Delivery.mostSteps .absent
    ⟨.lookUp, engine.store, []⟩ enough
  have founded := Delivery.run_invariant task (fun _ _ => Delivery.Stage.Founded.step)
    Delivery.mostSteps ⟨.lookUp, engine.store, []⟩ start
  have told : ending.result = .ok (some attribution) := by
    rw [← answered]
    simp only [deliverDeposit, Delivery.process, task] at ended ⊢
    rw [ended]
    rfl
  obtain ⟨decision, backs, same⟩ := founded.told ending attribution ended told
  exact ⟨_, decision, Delivery.run_descends task _ ⟨.lookUp, engine.store, []⟩, backs, same⟩

/-- The delivery links the only intent as an explicit one exactly if it names its partner. -/
theorem deliverDeposit_links_iff (orderly : engine.store.Orderly) (ready : deposit.Ready)
    (meets : engine.store.Meets deposit intent) {kept : Timestamp}
    (timed : Column.moment now = .ok kept) :
    (∃ attribution, (engine.deliverDeposit deposit now .absent).result = .ok (some attribution) ∧
      attribution.source = .explicit ∧ attribution.intent = some intent.id) ↔
    deposit.partner? = some intent.partner := by
  constructor
  · rintro ⟨attribution, answered, explicit, links⟩
    obtain ⟨after, decision, descends, backs, rfl⟩ := deliverDeposit_founded meets.fresh answered
    exact backs.sole descends meets.only explicit links
  · intro named
    let task : Delivery.Task := ⟨engine.settings.matching, deposit, now⟩
    rcases Store.entered_cases ready meets.fresh now with
      ⟨-, entered, entering⟩ | ⟨-, -, -, unkept⟩
    · have still : entered.Meets task.deposit intent :=
        ⟨entering.intents.trans meets.only, meets.waits, meets.amount, entering.fresh⟩
      obtain ⟨after, comes⟩ := task.comes_linked (entering.orderly orderly) ready still named timed
      have told := deliverDeposit_of_comes (task.comes_of_firstQuery meets.fresh entering comes)
      exact ⟨_, told.1, rfl, rfl⟩
    · rw [unkept] at timed
      cases timed

theorem prepare_partner {settings : Settings} {issued : Nat} {payload : Json}
    (done : (prepare settings issued payload now).2 = .ok intent) :
    ∃ declaration, Payload.Declaration.read payload = .ok declaration ∧
      declaration.partner = intent.partner := by
  unfold prepare at done
  split at done
  · cases done
  · rename_i declaration usual prepared
    obtain ⟨read, taken, prepared⟩ := bind_eq_ok.mp prepared
    obtain ⟨ttl, -, prepared⟩ := bind_eq_ok.mp prepared
    cases prepared
    rw [Payload.Declaration.toIntent_result] at done
    obtain ⟨window, -, done⟩ := bind_eq_ok.mp done
    obtain ⟨amount, -, done⟩ := bind_eq_ok.mp done
    cases done
    exact ⟨declaration, taken, rfl⟩

theorem declare_row {payload : Json}
    (done : (engine.declare payload now false).result = .ok intent) :
    ∃ declaration row, Payload.Declaration.read payload = .ok declaration ∧
      (engine.declare payload now false).engine.store.intent? intent.id = some row ∧
      row.partner = declaration.partner := by
  obtain ⟨-, -, -, -, -, added⟩ := declare_eq_ok done
  obtain ⟨row, made, found, -⟩ := Store.insertIntent_eq_row added
  have owner : row.partner = intent.partner := congrArg Label.partner (Store.intentRow_label made)
  rw [declare_prepared] at done
  obtain ⟨sent, prepared, registered⟩ := bind_eq_ok.mp done
  obtain ⟨-, told, -⟩ := register_eq_ok (Prod.ext registered rfl)
  obtain ⟨declaration, read, named⟩ := prepare_partner prepared
  refine ⟨declaration, row, read, found, ?_⟩
  rw [owner, told, named]

/-- What the deposit meets is in a column, and so its chain number fits. -/
theorem ready_of_meets {payload : Json} (reached : engine.store.Reached)
    (read : Payload.Delivery.read payload = .ok deposit)
    (meets : engine.store.Meets deposit intent) : deposit.Ready := by
  have member : intent ∈ engine.store.intents := meets.only ▸ List.mem_singleton_self intent
  have kept := reached.numbered intent member
  have waits := meets.waits
  simp only [Store.awaits, Bool.and_eq_true, decide_eq_true_eq] at waits
  apply ready_of_read read
  rw [← waits.1.1]
  unfold Column.word at kept
  split at kept
  · rename_i fits
    exact fits.2
  · cases kept

/-- The only intent of the tables, if one was declared before, is that one with its partner. -/
theorem sole_of_declared {later : Engine} {row declared : Intent}
    (keyed : engine.store.Keyed) (changes : ReflTransGen Store.Change engine.store later.store)
    (found : engine.store.intent? intent.id = some declared)
    (meets : later.store.Meets deposit row) :
    row.id = intent.id ∧ row.partner = declared.partner := by
  obtain ⟨moved, present, status, rfl, -⟩ :=
    (Store.changes_keep keyed changes).intent? (keyed.changes changes) found
  obtain ⟨member, same⟩ := Table.mem_of_find? Intent.id present
  rw [meets.only, List.mem_singleton] at member
  rw [← member]
  exact ⟨same, rfl⟩

/-- A name without its blanks is the one that a tag gives exactly if it is bare. -/
theorem partner_agrees_iff {partner : String} (nonempty : (Text.trim partner).isEmpty = false) :
    (if (Text.strip partner).isEmpty then none else some (Text.strip partner)) =
      some (Text.trim partner) ↔ Text.Bare partner := by
  rw [← Text.strip_eq_trim_iff]
  constructor
  · intro named
    split at named
    · cases named
    · exact Option.some.inj named
  · intro same
    rw [same, nonempty]
    rfl

/-- A transaction that a delivery was attributed under is found again under the text that was
delivered, whatever happens in between, exactly if that text is bare. -/
theorem attribution_found_iff {engine : Engine} {fields : Json.Fields} {now : Timestamp}
    {attribution : Attribution} {name written : String}
    (given : Payload.given? fields Payload.Delivery.hashNames = some (name, .string written))
    (answered : (engine.deliver (.object fields) now .absent).result = .ok (some attribution))
    (operations : List Operation) :
    (∃ row, (((engine.deliver (.object fields) now .absent).engine.run operations).getAttribution
        written).result = .ok (some row) ∧ row.Agrees attribution) ↔ Text.Bare written := by
  cases read : Payload.Delivery.read (.object fields) with
  | error fault =>
    simp only [deliver, read] at answered
    cases answered
  | ok deposit =>
    simp only [deliver, read] at answered ⊢
    obtain ⟨stored, found, agrees, named⟩ :=
      deliverDeposit_stored (Payload.Delivery.read_canonical read) answered
    obtain ⟨_, _, same, hashed⟩ := Payload.Delivery.read_txHash read
    cases same.symm.trans given
    obtain ⟨_, same, small⟩ := Payload.Delivery.hash_eq_ok hashed
    cases same
    have still := Store.changes_keep_attribution
      (run_changes (engine.deliverDeposit deposit now .absent).engine operations) found
    simp only [getAttribution, query, Store.lookUp, Except.ok.injEq]
    constructor
    · rintro ⟨row, asked, alike⟩
      obtain ⟨-, key⟩ := Table.mem_of_find? Attribution.txHash asked
      apply Text.bare_of_lowercase_strip
      rw [← key, alike.txHash, named, small]
    · intro bare
      rw [(Text.strip_eq_trim_iff written).mpr bare, ← small]
      exact ⟨stored, still, agrees⟩

/-- A delivery that meets the only intent and has the text that declared its partner as its tag
links the intent exactly if that text is bare. -/
theorem declared_intent_linked_iff {settings : Settings} {before after : List Operation}
    {engine later : Engine} {payload fields : Json.Fields} {declared now kept : Timestamp}
    {intent row : Intent} {deposit : Deposit} {name field written : String}
    (begun : engine = (start settings).run before)
    (given : Payload.given? payload Payload.Declaration.partnerNames =
      some (name, .string written))
    (taken : (engine.declare (.object payload) declared false).result = .ok intent)
    (next : later = (engine.declare (.object payload) declared false).engine.run after)
    (tagged : Payload.given? fields Payload.Delivery.tagNames = some (field, .string written))
    (read : Payload.Delivery.read (.object fields) = .ok deposit)
    (meets : later.store.Meets deposit row) (timed : Column.moment now = .ok kept) :
    (∃ attribution,
        (later.deliver (.object fields) now .absent).result = .ok (some attribution) ∧
          attribution.source = .explicit ∧ attribution.intent = some intent.id) ↔
      Text.Bare written := by
  obtain ⟨declaration, first, declares, found, owner⟩ := declare_row taken
  obtain ⟨trimmed, nonempty⟩ := Payload.Declaration.read_partner declares given
  rw [trimmed] at nonempty
  -- The declaration is one more operation of the run.
  have entered : (engine.declare (.object payload) declared false).engine =
      (start settings).run (before ++ [.declare (.object payload) declared]) := by
    rw [run_append, ← begun]
    rfl
  have whole : later = (start settings).run
      ((before ++ [.declare (.object payload) declared]) ++ after) := by
    rw [run_append, ← entered]
    exact next
  have orderly : later.store.Orderly := whole ▸ run_orderly settings _
  have reached : later.store.Reached := whole ▸ run_reached settings _
  have changes := run_changes (engine.declare (.object payload) declared false).engine after
  rw [← next] at changes
  obtain ⟨same, still⟩ := sole_of_declared (entered ▸ run_keyed settings _) changes found meets
  simp only [deliver, read]
  rw [← same, deliverDeposit_links_iff orderly (ready_of_meets reached read meets) meets timed,
    Payload.Delivery.read_partner read tagged, still, owner, trimmed,
    partner_agrees_iff nonempty]

/-- One text names the same thing on both ways exactly if it is bare. A hash that a delivery was
attributed under is found again under the text that was delivered. A partner's intent, if it is the
only one and the deposit meets it, is linked by a delivery that has the text of the declaration as
its tag. -/
theorem names_agree_when_bare (written : String) (fields : Json.Fields)
    (now : Timestamp) :
    (∀ (engine : Engine) (attribution : Attribution) (operations : List Operation) (name : String),
      Payload.given? fields Payload.Delivery.hashNames = some (name, .string written) →
      (engine.deliver (.object fields) now .absent).result = .ok (some attribution) →
      ((∃ row, (((engine.deliver (.object fields) now .absent).engine.run operations).getAttribution
          written).result = .ok (some row) ∧ row.Agrees attribution) ↔ Text.Bare written)) ∧
    ∀ (settings : Settings) (before after : List Operation) (engine later : Engine)
      (payload : Json.Fields) (declared kept : Timestamp) (intent row : Intent)
      (deposit : Deposit) (name field : String),
      engine = (start settings).run before →
      Payload.given? payload Payload.Declaration.partnerNames = some (name, .string written) →
      (engine.declare (.object payload) declared false).result = .ok intent →
      later = (engine.declare (.object payload) declared false).engine.run after →
      Payload.given? fields Payload.Delivery.tagNames = some (field, .string written) →
      Payload.Delivery.read (.object fields) = .ok deposit →
      later.store.Meets deposit row → Column.moment now = .ok kept →
      ((∃ attribution,
          (later.deliver (.object fields) now .absent).result = .ok (some attribution) ∧
            attribution.source = .explicit ∧ attribution.intent = some intent.id) ↔
        Text.Bare written) := by
  refine ⟨?_, ?_⟩
  · intro engine attribution operations name given answered
    exact attribution_found_iff given answered operations
  · intro settings before after engine later payload declared kept intent row deposit name field
      begun given taken next tagged read meets timed
    exact declared_intent_linked_iff begun given taken next tagged read meets timed

def Naming.declaration (partner : String) : Json.Fields :=
  [("id", .string "i"), ("partnerId", .string partner), ("vaultId", .string "v"),
    ("chainId", .int 1), ("receiver", .string "0x1"), ("amount", .int 1)]

def Naming.delivery (hash tag : String) : Json.Fields :=
  [("txHash", .string hash), ("vaultId", .string "v"), ("chainId", .int 1),
    ("receiver", .string "0x1"), ("amount", .int 1), ("confirmedAt", .int 0),
    ("explicitPartnerTag", .string tag)]

def Naming.expecting (partner : String) : Engine :=
  (start .usual).run [.declare (.object (declaration partner)) (.utc 0)]

/-- The attribution of a transaction with a tag, where the intent of a partner awaits it. -/
def Naming.told (partner hash tag : String) : Option Attribution :=
  ((expecting partner).deliver (.object (delivery hash tag)) (.utc 0)
    .absent).result.toOption.bind id

def Naming.meets (store : Store) (deposit : Deposit) : Bool :=
  match store.intents with
  | [intent] =>
    Store.awaits deposit.bucket deposit.confirmed intent &&
      (intent.amount.same? deposit.amount).toOption = some true &&
      (store.attribution? deposit.txHash).isNone
  | _ => false

theorem Naming.exists_of_meets {store : Store} {deposit : Deposit}
    (holds : meets store deposit = true) : ∃ row, store.Meets deposit row := by
  unfold meets at holds
  split at holds
  · rename_i intent only
    simp only [Bool.and_eq_true, decide_eq_true_eq, Option.isNone_iff_eq_none] at holds
    obtain ⟨⟨waits, amount⟩, fresh⟩ := holds
    exact ⟨intent, only, waits, toOption_eq_some.mp amount, fresh⟩
  · cases holds

/-- A text with white space around it names the same thing on both ways. -/
theorem names_agree_when_bare_spaced :
    (∃ attribution row,
      ((start .usual).deliver (.object (Naming.delivery " 0xAB" "acme")) (.utc 0)
        .absent).result = .ok (some attribution) ∧
      (((start .usual).deliver (.object (Naming.delivery " 0xAB" "acme")) (.utc 0)
        .absent).engine.getAttribution " 0xAB").result = .ok (some row) ∧
      row.Agrees attribution) ∧
    ∃ attribution,
      ((Naming.expecting " acme").deliver (.object (Naming.delivery "0xab" " acme")) (.utc 0)
        .absent).result = .ok (some attribution) ∧
      attribution.source = .explicit ∧ attribution.intent = some "i" := by
  obtain ⟨hashes, -⟩ := names_agree_when_bare " 0xAB" (Naming.delivery " 0xAB" "acme") (.utc 0)
  obtain ⟨-, partners⟩ :=
    names_agree_when_bare " acme" (Naming.delivery "0xab" " acme") (.utc 0)
  have answers : (((start .usual).deliver (.object (Naming.delivery " 0xAB" "acme")) (.utc 0)
      .absent).result.toOption.bind id).isSome := by
    decide +kernel
  have declares : ((start .usual).declare (.object (Naming.declaration " acme")) (.utc 0)
      false).result.toOption.map (·.id) = some "i" := by
    decide +kernel
  have reads : (Payload.Delivery.read
      (.object (Naming.delivery "0xab" " acme"))).toOption.map
        (Naming.meets (Naming.expecting " acme").store) = some true := by
    decide +kernel
  have bareHash : Text.Bare " 0xAB" := (Text.strip_eq_trim_iff _).mp (by decide +kernel)
  have barePartner : Text.Bare " acme" := (Text.strip_eq_trim_iff _).mp (by decide +kernel)
  refine ⟨?_, ?_⟩
  · obtain ⟨attribution, found⟩ := Option.isSome_iff_exists.mp answers
    obtain ⟨_, told, rfl⟩ := Option.bind_eq_some_iff.mp found
    have answered := toOption_eq_some.mp told
    obtain ⟨row, asked, agrees⟩ := (hashes (start .usual) attribution [] "txHash" rfl
      answered).mpr bareHash
    exact ⟨attribution, row, answered, asked, agrees⟩
  · obtain ⟨intent, told, named⟩ := Option.map_eq_some_iff.mp declares
    obtain ⟨deposit, read, holds⟩ := Option.map_eq_some_iff.mp reads
    obtain ⟨row, meets⟩ := Naming.exists_of_meets holds
    have linked := (partners .usual [] [] (start .usual) (Naming.expecting " acme")
      (Naming.declaration " acme") (.utc 0) (.utc 0) intent row deposit "partnerId"
      "explicitPartnerTag" rfl rfl (toOption_eq_some.mp told) rfl rfl (toOption_eq_some.mp read)
      meets rfl).mpr barePartner
    rwa [named] at linked

/-- With a separator at its beginning a hash is not found again, and a tag does not name the partner
who declared the intent. -/
theorem names_disagree_with_separator :
    ((Naming.told "\x1cacme" "\x1c0xaaa1" "\x1cacme").map fun attribution =>
      (attribution.txHash, attribution.partner, attribution.source, attribution.intent)) =
        some ("\x1c0xaaa1", some "acme", .explicit, none) ∧
    (((Naming.expecting "\x1cacme").deliver (.object (Naming.delivery "\x1c0xaaa1" "\x1cacme"))
      (.utc 0) .absent).engine.getAttribution "\x1c0xaaa1").result = .ok none ∧
    ∃ deposit row, Payload.Delivery.read
        (.object (Naming.delivery "\x1c0xaaa1" "\x1cacme")) = .ok deposit ∧
      (Naming.expecting "\x1cacme").store.Meets deposit row := by
  have asked : ((((Naming.expecting "\x1cacme").deliver
      (.object (Naming.delivery "\x1c0xaaa1" "\x1cacme")) (.utc 0)
        .absent).engine.getAttribution "\x1c0xaaa1").result.toOption.map (·.isNone)) =
      some true := by
    decide +kernel
  have reads : (Payload.Delivery.read
      (.object (Naming.delivery "\x1c0xaaa1" "\x1cacme"))).toOption.map
        (Naming.meets (Naming.expecting "\x1cacme").store) = some true := by
    decide +kernel
  refine ⟨by decide +kernel, ?_, ?_⟩
  · obtain ⟨found, told, none⟩ := Option.map_eq_some_iff.mp asked
    rw [toOption_eq_some.mp told, Option.isNone_iff_eq_none.mp none]
  · obtain ⟨deposit, read, holds⟩ := Option.map_eq_some_iff.mp reads
    obtain ⟨row, meets⟩ := Naming.exists_of_meets holds
    exact ⟨deposit, row, toOption_eq_some.mp read, meets⟩

end Engine

end Reconcile
