import Reconcile.Proofs.Engine.Accepting
import Reconcile.Proofs.Engine.Expiry
import Reconcile.Proofs.Store.SameRows

set_option autoImplicit false

/-
The order of declarations. A declaration that gives the id of its intent and its beginning comes to
the same wherever the id is new, so declarations of different intents leave the same rows in any
order. What comes in afterwards, deliveries and sweeps, is answered by what the rows are and not by
the order in which they stand.
-/
namespace Reconcile

open Store (SameRows)

/-- What comes in: a delivery, or the time for a sweep. -/
inductive Turn
  | deliver (parcel : Parcel) (now : Timestamp)
  | sweep (now : Timestamp)

inductive Reply
  | delivered (result : Except Fault (Option Attribution))
  | swept (result : Except Fault SweepReport)

def Turn.operation : Turn → Operation
  | deliver parcel now => .deliver parcel now
  | sweep now => .sweep now

namespace Engine

def reply (engine : Engine) : Turn → Reply
  | .deliver parcel now => .delivered (engine.receive parcel now).result
  | .sweep now => .swept (engine.sweep now []).result

def replies (engine : Engine) : List Turn → List Reply
  | [] => []
  | turn :: rest => engine.reply turn :: (engine.act turn.operation).replies rest

def turns (engine : Engine) (list : List Turn) : Engine :=
  engine.run (list.map Turn.operation)

def declared (engine : Engine) : List (Json × Timestamp) → List (Except Fault Intent)
  | [] => []
  | (payload, now) :: rest =>
    (engine.declare payload now false).result :: (engine.act (.declare payload now)).declared rest

def declareAll (engine : Engine) (list : List (Json × Timestamp)) : Engine :=
  engine.run (list.map fun sent => .declare sent.1 sent.2)

end Engine

/-- The payload is a declaration that gives the id of its intent, and when it begins. -/
def Payload.Declaration.Complete (payload : Json) (id : String) : Prop :=
  ∃ declaration, read payload = .ok declaration ∧ declaration.id = some id ∧
    ∃ created, declaration.created = some created

namespace Engine

section Turns

variable {engine other : Engine}

theorem act_settings (engine : Engine) (turn : Turn) :
    (engine.act turn.operation).settings = engine.settings := by
  cases turn with
  | deliver parcel now => exact receive_settings engine parcel now
  | sweep now => exact sweep_settings engine now

variable (settings : other.settings = engine.settings) (keyed : engine.store.Keyed)
  (same : SameRows engine.store other.store)
include settings keyed same

theorem receive_sameRows (parcel : Parcel) (now : Timestamp) :
    (other.receive parcel now).result = (engine.receive parcel now).result ∧
      SameRows (engine.receive parcel now).engine.store
        (other.receive parcel now).engine.store := by
  cases read : parcel.read with
  | error fault =>
    rw [receive_of_unread engine read, receive_of_unread other read]
    exact ⟨rfl, same⟩
  | ok deposit =>
    have alike := receive_alike settings keyed (same.keyed keyed) read (same.agreeOn _ _) now
    obtain ⟨entries, -, here, there⟩ := alike.entries
    rw [here, there]
    exact ⟨alike.result, same.enterAll entries⟩

theorem sweep_sameRows (now : Timestamp) :
    (other.sweep now []).result = (engine.sweep now []).result ∧
      SameRows (engine.sweep now []).engine.store (other.sweep now []).engine.store := by
  unfold sweep
  rw [settings]
  rcases same.expireDue keyed now engine.settings.sweep.batch with
    ⟨fault, here, there⟩ | ⟨expired, after, left, here, there, kept, still⟩
  · simp only [here, there]
    exact ⟨rfl, same⟩
  · simp only [here, there, ← still.stale kept]
    cases after.stale engine.settings.sweep now with
    | error fault => exact ⟨rfl, still⟩
    | ok deposits =>
      obtain ⟨flagged, last⟩ := still.markAll kept now deposits
      simp only [← flagged]
      cases (markAll now [] after deposits).flagged with
      | error fault => exact ⟨rfl, last⟩
      | ok hashes => exact ⟨rfl, last⟩

theorem reply_sameRows (turn : Turn) :
    other.reply turn = engine.reply turn ∧
      SameRows (engine.act turn.operation).store (other.act turn.operation).store := by
  cases turn with
  | deliver parcel now =>
    obtain ⟨result, rows⟩ := receive_sameRows settings keyed same parcel now
    exact ⟨congrArg Reply.delivered result, rows⟩
  | sweep now =>
    obtain ⟨result, rows⟩ := sweep_sameRows settings keyed same now
    exact ⟨congrArg Reply.swept result, rows⟩

/-- Whatever comes in, tables with the same rows give the same answers and keep the same rows. -/
theorem replies_sameRows (list : List Turn) :
    other.replies list = engine.replies list ∧
      SameRows (engine.turns list).store (other.turns list).store := by
  induction list generalizing engine other with
  | nil => exact ⟨rfl, same⟩
  | cons turn rest ih =>
    obtain ⟨answer, still⟩ := reply_sameRows settings keyed same turn
    have kept := keyed.changes (act_changes engine turn.operation)
    have following :
        (other.act turn.operation).settings = (engine.act turn.operation).settings := by
      rw [act_settings, act_settings, settings]
    obtain ⟨answers, last⟩ := ih following kept still
    refine ⟨?_, last⟩
    rw [replies, replies, answer, answers]

end Turns

section Declarations

variable {settings : Settings} {payload : Json} {id : String} {told row : Intent}

/-- What a complete declaration says does not depend on the clock or on the ids issued so far. -/
theorem prepare_of_complete (complete : Payload.Declaration.Complete payload id) (issued : Nat)
    (now : Timestamp) :
    prepare settings issued payload now = (issued, (prepare settings 0 payload (.utc 0)).2) := by
  obtain ⟨declaration, read, named, created, begins⟩ := complete
  have window (usual : Duration) :
      declaration.window now usual = declaration.window (.utc 0) usual := by
    simp only [Payload.Declaration.window, begins, Option.getD_some]
  unfold prepare
  rw [read]
  cases settings.ttl with
  | error fault => rfl
  | ok usual =>
    change declaration.toIntent now usual issued =
      (issued, (declaration.toIntent (.utc 0) usual 0).2)
    unfold Payload.Declaration.toIntent
    simp only [window, named, Option.isSome_some, if_true, Option.getD_some]
    cases declaration.window (.utc 0) usual <;> rfl

/-- The declaration comes to the same wherever its id is new: what is told, and the row that is
added. -/
structure Declares (settings : Settings) (payload : Json) (told row : Intent) : Prop where
  named : row.id = told.id
  taken : ∀ (engine : Engine) (now : Timestamp), engine.settings = settings →
    engine.store.intent? told.id = none →
    (engine.declare payload now false).result = .ok told ∧
      (engine.declare payload now false).engine.settings = settings ∧
      (engine.declare payload now false).engine.store =
        { engine.store with intents := Table.insert Intent.id row engine.store.intents }

theorem prepare_id (complete : Payload.Declaration.Complete payload id) {issued : Nat}
    {now : Timestamp} {sent : Intent}
    (done : (prepare settings issued payload now).2 = .ok sent) : sent.id = id := by
  obtain ⟨declaration, read, named, -⟩ := complete
  cases ttl : settings.ttl with
  | error fault =>
    simp only [prepare, read, ttl] at done
    cases done
  | ok usual =>
    rw [prepare_result ttl] at done
    obtain ⟨other, again, done⟩ := bind_eq_ok.mp done
    cases read.symm.trans again
    obtain ⟨window, -, done⟩ := bind_eq_ok.mp done
    obtain ⟨amount, -, done⟩ := bind_eq_ok.mp done
    cases done
    rw [Payload.Declaration.intent, named, Option.getD_some]

/-- What is registered on empty tables is registered wherever its id is new. -/
theorem register_of_new {store alone : Store} {sent : Intent}
    (done : register .empty sent false = (.ok told, alone))
    (made : Store.intentRow told = .ok row) (new : store.intent? told.id = none) :
    register store sent false =
      (.ok told, { store with intents := Table.insert Intent.id row store.intents }) := by
  obtain ⟨admitted, rfl, -⟩ := register_eq_ok done
  have still : store.admits sent = .ok () := by
    rw [← admitted]
    unfold Store.admits
    rw [show store.intent? sent.id = none from new]
    rfl
  have added : store.insertIntent { sent with status := .pending } =
      .ok { store with intents := Table.insert Intent.id row store.intents } := by
    refine (bind_of_ok made).trans ?_
    rw [new]
    rfl
  simp only [register, still, Bool.false_eq_true, if_false, added]

/-- A complete declaration that is taken on empty tables is taken wherever its id is new. -/
theorem declares_of_taken (complete : Payload.Declaration.Complete payload id)
    {now : Timestamp} (done : ((start settings).declare payload now false).result = .ok told) :
    told.id = id ∧ ∃ row, Declares settings payload told row := by
  rw [declare_prepared] at done
  obtain ⟨sent, prepared, registered⟩ := bind_eq_ok.mp done
  have alone : register .empty sent false = (.ok told, (register .empty sent false).2) :=
    Prod.ext registered rfl
  obtain ⟨-, same, added⟩ := register_eq_ok alone
  obtain ⟨row, made, -⟩ := bind_eq_ok.mp added
  have sameId : told.id = sent.id := by rw [same]
  have named := sameId.trans (prepare_id complete prepared)
  refine ⟨named, row, (Store.intentRow_passes made).id.symm, ?_⟩
  intro engine later settings_eq new
  have again : prepare engine.settings engine.issued payload later =
      (engine.issued, .ok sent) := by
    rw [settings_eq, prepare_of_complete complete, ← prepared]
    exact congrArg (fun prepared => (engine.issued, prepared.2))
      (prepare_of_complete complete 0 now).symm
  simp only [declare, again, register_of_new alone made new]
  exact ⟨trivial, settings_eq, trivial⟩

/-- Declarations of different intents, none of which is there, are all taken, and their rows are
what is added. -/
theorem declareAll_of_declares {tell rows : Json → Intent} (list : List (Json × Timestamp))
    (each : ∀ sent ∈ list, Declares settings sent.1 (tell sent.1) (rows sent.1))
    (distinct : (list.map fun sent => (tell sent.1).id).Nodup) (engine : Engine)
    (same : engine.settings = settings)
    (new : ∀ sent ∈ list, engine.store.intent? (tell sent.1).id = none) :
    engine.declared list = list.map (fun sent => .ok (tell sent.1)) ∧
      (engine.declareAll list).settings = settings ∧
      (engine.declareAll list).store.intents.Perm
        (list.map (fun sent => rows sent.1) ++ engine.store.intents) ∧
      (engine.declareAll list).store.observed = engine.store.observed ∧
      (engine.declareAll list).store.attributions = engine.store.attributions := by
  induction list generalizing engine with
  | nil => exact ⟨rfl, same, .refl _, rfl, rfl⟩
  | cons sent rest ih =>
    obtain ⟨apart, distinct⟩ := List.nodup_cons.mp distinct
    have first := each sent List.mem_cons_self
    have absent := new sent List.mem_cons_self
    obtain ⟨told, kept, added⟩ := first.taken engine sent.2 same absent
    have fresh : ∀ old ∈ engine.store.intents, old.id ≠ (rows sent.1).id := by
      rw [first.named]
      exact (Table.find?_eq_none_iff Intent.id).mp absent
    have still : ∀ other ∈ rest,
        (engine.declare sent.1 sent.2 false).engine.store.intent? (tell other.1).id = none := by
      intro other member
      have different : (rows sent.1).id ≠ (tell other.1).id := by
        rw [first.named]
        exact fun same => apart (List.mem_map.mpr ⟨other, member, same.symm⟩)
      rw [added, Store.intent?, Table.find?_insert Intent.id _ fresh, if_neg different]
      exact new other (List.mem_cons_of_mem sent member)
    obtain ⟨others, last, intents, observed, attributions⟩ :=
      ih (fun other member => each other (List.mem_cons_of_mem sent member)) distinct
        (engine.declare sent.1 sent.2 false).engine kept still
    rw [added] at intents observed attributions
    refine ⟨?_, last, ?_, observed, attributions⟩
    · rw [List.map_cons, ← told, ← others]
      rfl
    · refine intents.trans (((Table.insert_perm Intent.id _ _).append_left _).trans ?_)
      exact List.perm_middle

section Reordered

variable {first second : List (Json × Timestamp)} {name : Json → String}
  (reordered : (first.map Prod.fst).Perm (second.map Prod.fst))
  (complete : ∀ sent ∈ first, Payload.Declaration.Complete sent.1 (name sent.1))
  (distinct : (first.map fun sent => name sent.1).Nodup)
  (accepted : ∀ sent ∈ first, ∃ intent,
    ((start settings).declare sent.1 sent.2 false).result = .ok intent)
include reordered complete distinct accepted

/-- In either order the declarations are answered with the same intents and leave the same rows. -/
theorem declareAll_reordered :
    (∃ tell : Json → Intent,
      (start settings).declared first = first.map (fun sent => .ok (tell sent.1)) ∧
      (start settings).declared second = second.map (fun sent => .ok (tell sent.1))) ∧
    ((start settings).declareAll first).settings = settings ∧
    ((start settings).declareAll second).settings = settings ∧
    SameRows ((start settings).declareAll first).store
      ((start settings).declareAll second).store := by
  have each : ∀ payload ∈ first.map Prod.fst, ∃ told row,
      told.id = name payload ∧ Declares settings payload told row := by
    intro payload member
    obtain ⟨sent, inside, rfl⟩ := List.mem_map.mp member
    obtain ⟨told, done⟩ := accepted sent inside
    obtain ⟨named, row, declares⟩ := declares_of_taken (complete sent inside) done
    exact ⟨told, row, named, declares⟩
  choose! tell rows named declares using each
  have ids : (first.map Prod.fst).map (fun payload => (tell payload).id) =
      first.map fun sent => name sent.1 := by
    rw [List.map_map]
    exact List.map_congr_left fun sent member => named sent.1 (List.mem_map_of_mem member)
  -- What holds of the first list holds of every list of the same payloads.
  have stated (list : List (Json × Timestamp))
      (perm : (first.map Prod.fst).Perm (list.map Prod.fst)) :
      (∀ sent ∈ list, Declares settings sent.1 (tell sent.1) (rows sent.1)) ∧
        (list.map fun sent => (tell sent.1).id).Nodup := by
    refine ⟨?_, ?_⟩
    · intro sent member
      exact declares sent.1 (perm.mem_iff.mpr (List.mem_map_of_mem member))
    · have different := (perm.map fun payload => (tell payload).id).nodup_iff.mp (ids ▸ distinct)
      rwa [List.map_map] at different
  obtain ⟨each, apart⟩ := stated first (.refl _)
  obtain ⟨told, kept, intents, observed, attributions⟩ :=
    declareAll_of_declares first each apart (start settings) rfl fun _ _ => rfl
  obtain ⟨others, apart⟩ := stated second reordered
  obtain ⟨toldAgain, keptAgain, intentsAgain, observedAgain, attributionsAgain⟩ :=
    declareAll_of_declares second others apart (start settings) rfl fun _ _ => rfl
  refine ⟨⟨tell, told, toldAgain⟩, kept, keptAgain, ?_, ?_, ?_⟩
  · have perm := reordered.map rows
    rw [List.map_map, List.map_map] at perm
    exact intents.trans ((perm.append_right _).trans intentsAgain.symm)
  · rw [observed, observedAgain]
  · rw [attributions, attributionsAgain]

end Reordered

end Declarations

/-- Declarations that give the ids of their intents, all different, and their beginnings, and that
are each accepted on empty tables, may come in any order and at any time. They are all accepted and
answered with the same intents. Whatever deliveries and sweeps follow have the same results and
leave the same tables, and would if the rows stood in any other order in the tables. -/
theorem declaration_order_does_not_matter (settings : Settings)
    (first second : List (Json × Timestamp)) (name : Json → String)
    (reordered : (first.map Prod.fst).Perm (second.map Prod.fst))
    (complete : ∀ sent ∈ first, Payload.Declaration.Complete sent.1 (name sent.1))
    (distinct : (first.map fun sent => name sent.1).Nodup)
    (accepted : ∀ sent ∈ first, ∃ intent,
      ((start settings).declare sent.1 sent.2 false).result = .ok intent) :
    (∃ tell : Json → Intent,
      (start settings).declared first = first.map (fun sent => .ok (tell sent.1)) ∧
      (start settings).declared second = second.map (fun sent => .ok (tell sent.1))) ∧
    ∀ list : List Turn,
      ((start settings).declareAll second).replies list =
          ((start settings).declareAll first).replies list ∧
        (((start settings).declareAll second).turns list).store =
          (((start settings).declareAll first).turns list).store ∧
        ∀ other : Engine, other.settings = settings →
          SameRows ((start settings).declareAll first).store other.store →
          other.replies list = ((start settings).declareAll first).replies list ∧
            SameRows (((start settings).declareAll first).turns list).store
              (other.turns list).store := by
  obtain ⟨told, kept, keptAgain, same⟩ :=
    declareAll_reordered reordered complete distinct accepted
  refine ⟨told, ?_⟩
  intro list
  have reached (sent : List (Json × Timestamp)) :
      ((start settings).declareAll sent).store.Reached := run_changes (start settings) _
  have ended (sent : List (Json × Timestamp)) :
      (((start settings).declareAll sent).turns list).store.Reached :=
    (reached sent).changes (run_changes _ _)
  have keyed := (reached first).keyed
  obtain ⟨answers, last⟩ := replies_sameRows (keptAgain.trans kept.symm) keyed same list
  refine ⟨answers, (last.eq (ended first) (ended second)).symm, ?_⟩
  intro other settings_eq rows
  exact replies_sameRows (settings_eq.trans kept.symm) keyed rows list

def Order.name (payload : Json) : Option String :=
  (Payload.Declaration.read payload).toOption.bind fun declaration =>
    declaration.created.bind fun _ => declaration.id

theorem Order.complete_of_name {payload : Json} {id : String} (named : name payload = some id) :
    Payload.Declaration.Complete payload id := by
  obtain ⟨declaration, read, named⟩ := Option.bind_eq_some_iff.mp named
  obtain ⟨created, begins, named⟩ := Option.bind_eq_some_iff.mp named
  exact ⟨declaration, toOption_eq_some.mp read, named, created, begins⟩

def Order.declaration (id : String) : Json :=
  .object [("id", .string id), ("partnerId", .string "acme"), ("vaultId", .string "v"),
    ("chainId", .int 1), ("receiver", .string Vaults.receiver), ("amount", .int 1),
    ("createdAt", .string "1970-01-01T00:00:00Z")]

/-- Two declarations that fit the same deposit. -/
def Order.sent : List (Json × Timestamp) := [(declaration "i", .utc 0), (declaration "j", .utc 1)]

/-- The same in the other order, and at other times. -/
def Order.swapped : List (Json × Timestamp) :=
  [(declaration "j", .utc 2), (declaration "i", .utc 3)]

theorem Order.accepts : ∀ given ∈ sent, name given.1 = some ((name given.1).getD "") ∧
    ((start .usual).declare given.1 given.2 false).result.toOption.isSome = true := by
  decide +kernel

/-- Both fit the deposit equally well and are equally old. What the deposit is matched with, and
what the sweep finds later, does not tell which was declared first. -/
theorem declaration_order_does_not_matter_swapped :
    ((start .usual).declareAll Order.swapped).replies
        [.deliver (.parsed (Vaults.into "t" "v")) (.utc 4), .sweep (.utc 900000000)] =
      ((start .usual).declareAll Order.sent).replies
        [.deliver (.parsed (Vaults.into "t" "v")) (.utc 4), .sweep (.utc 900000000)] := by
  have reordered : (Order.sent.map Prod.fst).Perm (Order.swapped.map Prod.fst) :=
    List.Perm.swap _ _ _
  have distinct : (Order.sent.map fun given => (Order.name given.1).getD "").Nodup := by
    decide +kernel
  have accepted : ∀ given ∈ Order.sent, ∃ intent,
      ((start .usual).declare given.1 given.2 false).result = .ok intent := by
    intro given member
    obtain ⟨intent, told⟩ := Option.isSome_iff_exists.mp (Order.accepts given member).2
    exact ⟨intent, toOption_eq_some.mp told⟩
  obtain ⟨-, same⟩ := declaration_order_does_not_matter .usual Order.sent Order.swapped
    (fun payload => (Order.name payload).getD "") reordered
    (fun given member => Order.complete_of_name (Order.accepts given member).1) distinct accepted
  exact (same _).1

end Engine

end Reconcile
