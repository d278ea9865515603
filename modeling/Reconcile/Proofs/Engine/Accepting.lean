import Reconcile.Engine.Views
import Reconcile.Proofs.Engine.Declaring
import Reconcile.Proofs.Engine.Failing
import Reconcile.Proofs.Payload.Declaration
import Reconcile.Proofs.Store.Metadata

set_option autoImplicit false

/-
When declarations are taken. With the usual time for intents there are four reasons for which a
declaration fails without being refused: a time is off the calendar, the amount is too great to be
normalized, the metadata have no text, or the chain number is too great for its column. Any other
declaration is refused, or it adds one intent, which is read back as it was returned.
-/
namespace Reconcile

open Decimal (limit)

/-- The columns of a table keep the amount and the times of the intent as they are, and a text can
stand for its metadata. -/
structure Intent.Canonical (intent : Intent) : Prop where
  amount : Column.decimal intent.amount = .ok intent.amount
  created : Column.moment intent.created = .ok intent.created
  expires : Column.moment intent.expires = .ok intent.expires
  metadata : (Json.object intent.metadata).Genuine

/-- What no column holds: metadata that have no text, and else a chain number of more than 64
bits. -/
inductive Intent.Outgrows (intent : Intent) : Fault → Prop
  | metadata (noText : Column.hasText intent.metadata = false) : intent.Outgrows .unstorable
  | chain (text : Column.hasText intent.metadata = true)
      (wide : Column.wordLimit ≤ intent.bucket.chain) : intent.Outgrows .outOfRange

theorem Intent.Outgrows.unique {intent : Intent} {fault other : Fault}
    (first : intent.Outgrows fault) (second : intent.Outgrows other) : fault = other := by
  cases first with
  | metadata noText =>
    cases second with
    | metadata _ => rfl
    | chain text _ => exact absurd (text.symm.trans noText) (by decide)
  | chain text _ =>
    cases second with
    | metadata noText => exact absurd (text.symm.trans noText) (by decide)
    | chain _ _ => rfl

namespace Payload.Declaration

/-- The intent that a declaration becomes with its window and the canonical form of its amount. -/
def intent (declaration : Declaration) (issued : Nat) (window : Timestamp × Timestamp)
    (amount : Decimal) : Intent :=
  { id := declaration.id.getD (issuedId (issued + 1)), partner := declaration.partner,
    bucket := declaration.bucket, amount, created := window.1, expires := window.2,
    metadata := declaration.metadata, status := .pending }

theorem toIntent_result (declaration : Declaration) (now : Timestamp) (usual : Duration)
    (issued : Nat) :
    (declaration.toIntent now usual issued).2 = (do
      let window ← declaration.window now usual
      let amount ← liftDecimal declaration.amount.normalize
      return declaration.intent issued window amount) := by
  unfold toIntent
  cases timed : declaration.window now usual with
  | error fault => rfl
  | ok window =>
    cases named : declaration.id <;> simp [intent, named, bind, Except.bind]

end Payload.Declaration

namespace Engine

theorem prepare_result {settings : Settings} {usual : Duration}
    (ttl : settings.ttl = .ok usual) (issued : Nat) (payload : Json) (now : Timestamp) :
    (prepare settings issued payload now).2 = (do
      let declaration ← Payload.Declaration.read payload
      let window ← declaration.window now usual
      let amount ← liftDecimal declaration.amount.normalize
      return declaration.intent issued window amount) := by
  unfold prepare
  rw [ttl]
  cases Payload.Declaration.read payload with
  | error fault => rfl
  | ok declaration => exact declaration.toIntent_result now usual issued

theorem declare_prepared (engine : Engine) (payload : Json) (now : Timestamp) :
    (engine.declare payload now false).result = (do
      let intent ← (prepare engine.settings engine.issued payload now).2
      (register engine.store intent false).1) := by
  unfold declare
  cases prepare engine.settings engine.issued payload now with
  | mk issued prepared =>
    cases prepared with
    | error fault => rfl
    | ok intent =>
      simp only [bind, Except.bind]
      cases register engine.store intent false with
      | mk told after => cases told <;> rfl

/-- What a declaration comes to, check by check. -/
theorem declare_result {engine : Engine} {usual : Duration}
    (ttl : engine.settings.ttl = .ok usual) (payload : Json) (now : Timestamp) :
    (engine.declare payload now false).result = (do
      let declaration ← Payload.Declaration.read payload
      let window ← declaration.window now usual
      let amount ← liftDecimal declaration.amount.normalize
      (register engine.store (declaration.intent engine.issued window amount) false).1) := by
  rw [declare_prepared, prepare_result ttl]
  simp only [bind_assoc, pure_bind]

end Engine

/-- A clock in UTC that shows one of the years 1970 to 9000. -/
def Timestamp.Current (t : Timestamp) : Prop :=
  ∃ micros, t = .utc micros ∧ 0 ≤ micros ∧ micros < 221876928000 * second

theorem Timestamp.Current.onCalendar {micros : Int} (current : (utc micros).Current) :
    onCalendar micros = true ∧ micros + 15 * minute ≤ lastWall := by
  obtain ⟨clock, same, early, before⟩ := current
  cases same
  simp only [onCalendar_iff, firstWall, lastWall, minute, second] at before ⊢
  omega

theorem Settings.ttl_of_usual {settings : Settings}
    (usual : settings.ttlMinutes = Settings.usual.ttlMinutes) :
    settings.ttl = .ok ⟨15 * Timestamp.minute⟩ := by
  rw [ttl, usual]
  decide

namespace Payload.Declaration

/-- The declaration gives its beginning but not its end, and the usual time from then on goes
beyond the calendar. -/
def Late (declaration : Declaration) : Prop :=
  declaration.expires = none ∧ ∃ created, declaration.created = some created ∧
    Timestamp.lastWall < created.instant + 15 * Timestamp.minute

section Window

variable {payload : Json} {declaration : Declaration} {now : Timestamp}

/-- The usual time after an instant, if that is on the calendar. -/
theorem shift_utc {micros : Int} (inside : Timestamp.onCalendar micros = true) :
    (micros + 15 * Timestamp.minute ≤ Timestamp.lastWall ∧
      (Timestamp.utc micros).shift? (15 * Timestamp.minute) =
        .ok (.utc (micros + 15 * Timestamp.minute)) ∧
      Timestamp.onCalendar (micros + 15 * Timestamp.minute) = true) ∨
    (Timestamp.lastWall < micros + 15 * Timestamp.minute ∧
      (Timestamp.utc micros).shift? (15 * Timestamp.minute) = .error .outOfRange) := by
  have low := (Timestamp.onCalendar_iff.mp inside).1
  have later : micros ≤ micros + 15 * Timestamp.minute := by
    simp only [Timestamp.minute, Timestamp.second]
    omega
  by_cases fits : micros + 15 * Timestamp.minute ≤ Timestamp.lastWall
  · have kept : Timestamp.onCalendar (micros + 15 * Timestamp.minute) = true :=
      Timestamp.onCalendar_iff.mpr ⟨low.trans later, fits⟩
    exact Or.inl ⟨fits, if_pos kept, kept⟩
  · have gone : ¬ Timestamp.onCalendar (micros + 15 * Timestamp.minute) = true :=
      fun kept => fits (Timestamp.onCalendar_iff.mp kept).2
    exact Or.inr ⟨not_le.mp fits, if_neg gone⟩

theorem read_begins (done : read payload = .ok declaration) (current : now.Current) :
    ∃ begin, Timestamp.onCalendar begin = true ∧
      declaration.created.getD now = .utc begin := by
  cases given : declaration.created with
  | none =>
    have shown := current
    obtain ⟨clock, rfl, -⟩ := shown
    exact ⟨clock, current.onCalendar.1, rfl⟩
  | some t => exact read_created done given

theorem late_of_beyond {begin : Int} (current : now.Current) (open_ : declaration.expires = none)
    (begins : declaration.created.getD now = .utc begin)
    (beyond : Timestamp.lastWall < begin + 15 * Timestamp.minute) : declaration.Late := by
  refine ⟨open_, ?_⟩
  cases given : declaration.created with
  | none =>
    rw [given, Option.getD_none] at begins
    rw [begins] at current
    exact absurd beyond (not_lt.mpr current.onCalendar.2)
  | some t =>
    rw [given, Option.getD_some] at begins
    refine ⟨t, rfl, ?_⟩
    rw [begins, Column.instant_utc]
    exact beyond

/-- A declaration that was read has a window that columns keep, unless it is late. -/
theorem window_cases (done : read payload = .ok declaration) (current : now.Current) :
    (¬ declaration.Late ∧ ∃ created expires,
      declaration.window now ⟨15 * Timestamp.minute⟩ = .ok (created, expires) ∧
        Column.moment created = .ok created ∧ Column.moment expires = .ok expires) ∨
    (declaration.Late ∧
      declaration.window now ⟨15 * Timestamp.minute⟩ = .error .outOfRange) := by
  obtain ⟨begin, inside, begins⟩ := read_begins done current
  unfold window
  simp only [begins]
  cases ends : declaration.expires with
  | some t =>
    obtain ⟨last, lastInside, rfl⟩ := read_expires done ends
    refine Or.inl ⟨?_, _, _, rfl, Column.moment_utc inside, Column.moment_utc lastInside⟩
    rintro ⟨open_, -⟩
    rw [ends] at open_
    cases open_
  | none =>
    rcases shift_utc inside with ⟨fits, moved, kept⟩ | ⟨beyond, failed⟩
    · refine Or.inl ⟨?_, _, _, bind_of_ok (liftClock_eq_ok.mpr moved), Column.moment_utc inside,
        Column.moment_utc kept⟩
      rintro ⟨-, t, given, beyond⟩
      rw [given, Option.getD_some] at begins
      rw [begins, Column.instant_utc] at beyond
      exact not_lt.mpr fits beyond
    · refine Or.inr ⟨late_of_beyond current ends begins beyond, ?_⟩
      rw [failed]
      rfl

end Window

end Payload.Declaration

namespace Store

variable {store : Store} {intent : Intent}

structure Admits (store : Store) (intent : Intent) : Prop where
  lasts : intent.created.instant < intent.expires.instant
  new : store.intent? intent.id = none

theorem admits_eq (canonical : intent.Canonical) :
    store.admits intent =
      if intent.created.instant < intent.expires.instant then
        if (store.intent? intent.id).isSome then .error (.duplicateIntent intent.id) else .ok ()
      else .error (.emptyWindow intent.id intent.created intent.expires) := by
  obtain ⟨zoned, -, -⟩ := Column.moment_eq_ok canonical.created
  obtain ⟨alsoZoned, -, -⟩ := Column.moment_eq_ok canonical.expires
  have compared : intent.expires.compare? intent.created =
      .ok (compare intent.expires.instant intent.created.instant) := by
    simp only [Timestamp.compare?, Timestamp.sameKind, zoned, alsoZoned, BEq.rfl, if_true]
  unfold admits
  rw [compared]
  by_cases lasts : intent.created.instant < intent.expires.instant
  · have order : compare intent.expires.instant intent.created.instant = .gt :=
      compare_gt_iff_gt.mpr lasts
    rw [order, if_pos lasts]
    rfl
  · have order : compare intent.expires.instant intent.created.instant ≠ .gt :=
      fun order => lasts (compare_gt_iff_gt.mp order)
    change (if (compare intent.expires.instant intent.created.instant != .gt) = true then _
      else _) = _
    rw [if_pos (bne_iff_ne.mpr order), if_neg lasts]
    rfl

/-- An intent with its times in columns is admitted, or refused as a declaration may be. -/
theorem admits_cases (canonical : intent.Canonical) :
    (store.Admits intent ∧ store.admits intent = .ok ()) ∨
      (¬ store.Admits intent ∧ ∃ fault, store.admits intent = .error fault ∧ fault.Foreseen) := by
  rw [admits_eq canonical]
  split
  · rename_i lasts
    cases found : store.intent? intent.id with
    | none => exact Or.inl ⟨⟨lasts, found⟩, rfl⟩
    | some other =>
      refine Or.inr ⟨?_, _, rfl, .duplicateIntent _⟩
      rintro ⟨-, new⟩
      rw [found] at new
      cases new
  · rename_i empty
    exact Or.inr ⟨fun admitted => empty admitted.lasts, _, rfl, .emptyWindow _ _ _⟩

/-- What the columns keep as it is becomes the row itself, if they hold all of it. -/
theorem intentRow_cases (canonical : intent.Canonical) (nonneg : 0 ≤ intent.bucket.chain) :
    ((∀ fault, ¬ intent.Outgrows fault) ∧ intentRow intent = .ok intent) ∨
      ∃ fault, intent.Outgrows fault ∧ intentRow intent = .error fault := by
  have row : intentRow intent = (do
      let metadata ← Column.metadata intent.metadata
      let chain ← Column.word intent.bucket.chain
      return { intent with metadata, bucket.chain := chain }) :=
    (bind_of_ok canonical.amount).trans ((bind_of_ok canonical.created).trans
      (bind_of_ok canonical.expires))
  cases text : Column.hasText intent.metadata with
  | false =>
    refine Or.inr ⟨_, .metadata text, row.trans (bind_of_error ?_)⟩
    exact Column.metadata_eq_error text
  | true =>
    have held := Column.metadata_of_hasText canonical.metadata text
    rcases lt_or_ge intent.bucket.chain Column.wordLimit with fits | wide
    · have low : -Column.wordLimit ≤ intent.bucket.chain :=
        (by decide : -Column.wordLimit ≤ 0).trans nonneg
      refine Or.inl ⟨fun fault outgrows => ?_, row.trans ((bind_of_ok held).trans
        (bind_of_ok (Column.word_of_fits low fits)))⟩
      cases outgrows with
      | metadata noText => exact absurd (text.symm.trans noText) (by decide)
      | chain _ wide => exact absurd fits (not_lt.mpr wide)
    · exact Or.inr ⟨_, .chain text wide, row.trans ((bind_of_ok held).trans
        (bind_of_error (Column.word_of_wide wide)))⟩

theorem insertIntent_cases (canonical : intent.Canonical) (nonneg : 0 ≤ intent.bucket.chain)
    (new : store.intent? intent.id = none) :
    ((∀ fault, ¬ intent.Outgrows fault) ∧ store.insertIntent intent =
      .ok { store with intents := Table.insert Intent.id intent store.intents }) ∨
    ∃ fault, intent.Outgrows fault ∧ store.insertIntent intent = .error fault := by
  rcases intentRow_cases canonical nonneg with ⟨held, row⟩ | ⟨fault, outgrows, row⟩
  · refine Or.inl ⟨held, (bind_of_ok row).trans ?_⟩
    rw [new]
    rfl
  · exact Or.inr ⟨fault, outgrows, bind_of_error row⟩

/-- What comes of an intent with columns that keep it: it is added as it is, or some column does not
hold it, or it is refused as a declaration may be. -/
theorem register_outcomes (store : Store) (canonical : intent.Canonical)
    (pending : intent.status = .pending) (nonneg : 0 ≤ intent.bucket.chain) :
    (store.Admits intent ∧ (∀ fault, ¬ intent.Outgrows fault) ∧
      Engine.register store intent false =
        (.ok intent, { store with intents := Table.insert Intent.id intent store.intents })) ∨
    (store.Admits intent ∧ ∃ fault, intent.Outgrows fault ∧
      Engine.register store intent false = (.error fault, store)) ∨
    (¬ store.Admits intent ∧ ∃ fault,
      Engine.register store intent false = (.error fault, store) ∧ fault.Foreseen) := by
  have same : { intent with status := .pending } = intent := by rw [← pending]
  rcases store.admits_cases canonical with ⟨admits, admitted⟩ | ⟨barred, fault, refused, foreseen⟩
  · rcases insertIntent_cases canonical nonneg admits.new with
      ⟨held, added⟩ | ⟨fault, outgrows, failed⟩
    · refine Or.inl ⟨admits, held, ?_⟩
      simp only [Engine.register, admitted, same, Bool.false_eq_true, if_false, added]
    · refine Or.inr (Or.inl ⟨admits, fault, outgrows, ?_⟩)
      simp only [Engine.register, admitted, same, Bool.false_eq_true, if_false, failed]
  · refine Or.inr (Or.inr ⟨barred, fault, ?_, foreseen⟩)
    simp only [Engine.register, refused]

end Store

namespace Engine

variable {engine : Engine} {payload : Json} {now : Timestamp}

theorem intent_canonical {declaration : Payload.Declaration} {created expires : Timestamp}
    {amount : Decimal} (issued : Nat) (read : Payload.Declaration.read payload = .ok declaration)
    (genuine : payload.Genuine) (normal : declaration.amount.normalize = .ok amount)
    (begins : Column.moment created = .ok created) (ends : Column.moment expires = .ok expires) :
    (declaration.intent issued (created, expires) amount).Canonical := by
  refine ⟨?_, begins, ends, Payload.Declaration.read_metadata read genuine⟩
  exact Column.decimal_eq_ok.mpr (Decimal.normalize_idem normal)

/-- The declarations that fail as none is promised to fail. A time leaves the calendar, be it one
that is given or the end that follows from the beginning; or the amount is too great to be
normalized; or the intent would be taken, but a column does not hold its metadata or its chain
number. -/
inductive Breaks (engine : Engine) (payload : Json) (now : Timestamp) : Fault → Prop
  | untimely (leaves : Payload.Declaration.Untimely payload) : Breaks engine payload now .outOfRange
  | late {declaration : Payload.Declaration}
      (read : Payload.Declaration.read payload = .ok declaration) (late : declaration.Late) :
      Breaks engine payload now .outOfRange
  | great {declaration : Payload.Declaration}
      (read : Payload.Declaration.read payload = .ok declaration) (timely : ¬ declaration.Late)
      (great : limit ≤ declaration.amount.toRat) : Breaks engine payload now (.decimal .overflow)
  | outgrown {declaration : Payload.Declaration} {window : Timestamp × Timestamp}
      {amount : Decimal} {fault : Fault}
      (read : Payload.Declaration.read payload = .ok declaration)
      (timed : declaration.window now ⟨15 * Timestamp.minute⟩ = .ok window)
      (normal : declaration.amount.normalize = .ok amount)
      (admits : engine.store.Admits (declaration.intent engine.issued window amount))
      (outgrows : (declaration.intent engine.issued window amount).Outgrows fault) :
      Breaks engine payload now fault

/-- The declaration adds its intent as one new row, which is pending. What is then read under its
id is the intent as it was returned, and no attribution links it. -/
structure Adds (engine : Engine) (payload : Json) (now : Timestamp) (intent : Intent) : Prop where
  pending : intent.status = .pending
  new : engine.store.intent? intent.id = none
  added : (engine.declare payload now false).engine.store =
    { engine.store with intents := Table.insert Intent.id intent engine.store.intents }
  readBack : ((engine.declare payload now false).engine.getIntent intent.id).result =
    .ok ⟨intent, none⟩

section Usual

variable (usual : engine.settings.ttlMinutes = Settings.usual.ttlMinutes) (current : now.Current)
  (genuine : payload.Genuine)
include usual current genuine

theorem Breaks.result {fault : Fault} (breaks : engine.Breaks payload now fault) :
    (engine.declare payload now false).result = .error fault := by
  have result := declare_result (Settings.ttl_of_usual usual) payload now
  rw [result]
  cases breaks with
  | untimely leaves => exact bind_of_error (Payload.Declaration.read_of_untimely leaves)
  | late read late =>
    rcases Payload.Declaration.window_cases read current with ⟨timely, -⟩ | ⟨-, failed⟩
    · exact absurd late timely
    · exact (bind_of_ok read).trans (bind_of_error failed)
  | great read timely great =>
    rcases Payload.Declaration.window_cases read current with
      ⟨-, created, expires, timed, -⟩ | ⟨late, -⟩
    · obtain ⟨finite, above⟩ := Payload.Declaration.read_amount_finite read
      rcases Decimal.normalize_of_nonneg finite above.le with ⟨-, overflow⟩ | ⟨small, -⟩
      · refine (bind_of_ok read).trans ((bind_of_ok timed).trans (bind_of_error ?_))
        rw [overflow]
        rfl
      · exact absurd great (not_le.mpr small)
    · exact absurd late timely
  | outgrown read timed normal admits outgrows =>
    rcases Payload.Declaration.window_cases read current with
      ⟨-, created, expires, same, begins, ends⟩ | ⟨-, failed⟩
    · cases timed.symm.trans same
      have canonical := intent_canonical engine.issued read genuine normal begins ends
      rcases engine.store.register_outcomes canonical rfl
          (Payload.Declaration.read_chain_nonneg read) with
        ⟨-, held, -⟩ | ⟨-, other, also, failed⟩ | ⟨barred, -⟩
      · exact absurd outgrows (held _)
      · cases outgrows.unique also
        refine (bind_of_ok read).trans ((bind_of_ok same).trans
          ((bind_of_ok (liftDecimal_eq_ok.mpr normal)).trans ?_))
        rw [failed]
      · exact absurd admits barred
    · rw [failed] at timed
      cases timed

end Usual

def Accepting.declaration (id : String) (chain : Int) (note : Json) : Json :=
  .object [("id", .string id), ("partnerId", .string "acme"), ("vaultId", .string "v"),
    ("chainId", .int chain), ("receiver", .string "0x1"), ("amount", .string "1.50"),
    ("meta", .object [("note", note)])]

def Accepting.holding : Engine :=
  (start .usual).run [.declare (declaration "i" 1 (.string "n")) (.utc 0)]

end Engine

end Reconcile
