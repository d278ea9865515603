import Mathlib.Data.List.Forall2
import Reconcile.Proofs.Store.Reached

set_option autoImplicit false

/-
Clocks on their way into a column and out of it. Whatever zone a clock was handed in with, what is
kept of it shows the time in UTC: it compares as the instant does, and it is read back as the same
instant. The rows of all three tables go the same way.
-/
namespace Reconcile

namespace Column

/-- The clock that a database keeps of an instant. -/
def shown (dialect : Dialect) (micros : Int) : Timestamp :=
  match dialect with
  | .sqlite => ⟨micros, none⟩
  | .postgresql => .utc micros

@[simp] theorem shown_wall (dialect : Dialect) (micros : Int) :
    (shown dialect micros).wall = micros := by
  cases dialect <;> rfl

@[simp] theorem shown_instant (dialect : Dialect) (micros : Int) :
    (shown dialect micros).instant = micros := by
  cases dialect <;> simp [shown, Timestamp.utc, Timestamp.instant]

variable (dialect : Dialect) {t kept : Timestamp}

theorem bindMoment_of_naive (naive : t.isNaive = true) :
    bindMoment dialect t = .error .naiveColumn := by
  rw [bindMoment, if_pos naive]
  rfl

theorem bindMoment_of_onCalendar (zoned : t.isNaive = false)
    (inside : Timestamp.onCalendar t.instant = true) :
    bindMoment dialect t = .ok (shown dialect t.instant) := by
  have utc : liftClock t.toUtc? = .ok (.utc t.instant) := by
    rw [liftClock_eq_ok, Timestamp.toUtc?, if_pos inside]
  rw [bindMoment, zoned, if_neg Bool.false_ne_true]
  refine (bind_of_ok utc).trans ?_
  cases dialect <;> rfl

theorem bindMoment_off_calendar (zoned : t.isNaive = false)
    (outside : Timestamp.onCalendar t.instant = false) :
    bindMoment dialect t = .error .outOfRange := by
  have failed : liftClock t.toUtc? = .error .outOfRange := by
    rw [Timestamp.toUtc?, outside, if_neg Bool.false_ne_true]
    rfl
  rw [bindMoment, zoned, if_neg Bool.false_ne_true]
  exact bind_of_error failed

/-- A clock is bound exactly if its zone is known and it shows a time of the calendar in UTC. -/
theorem bindMoment_eq_ok {dialect : Dialect} :
    bindMoment dialect t = .ok kept ↔ t.isNaive = false ∧
      Timestamp.onCalendar t.instant = true ∧ kept = shown dialect t.instant := by
  constructor
  · intro done
    cases zoned : t.isNaive with
    | true =>
      rw [bindMoment_of_naive dialect zoned] at done
      cases done
    | false =>
      cases inside : Timestamp.onCalendar t.instant with
      | false =>
        rw [bindMoment_off_calendar dialect zoned inside] at done
        cases done
      | true =>
        rw [bindMoment_of_onCalendar dialect zoned inside] at done
        exact ⟨rfl, rfl, (Except.ok.inj done).symm⟩
  · rintro ⟨zoned, inside, rfl⟩
    exact bindMoment_of_onCalendar dialect zoned inside

/-- Whatever zone a database answers in, and be it none, the instant is read in UTC. -/
theorem readMoment_of_onCalendar (inside : Timestamp.onCalendar t.instant = true) :
    readMoment t = .ok (.utc t.instant) := by
  cases zone : t.offset with
  | none =>
    have naive : t.isNaive = true := by rw [Timestamp.isNaive, zone, Option.isNone_none]
    have same : t.instant = t.wall := by simp [Timestamp.instant, zone]
    rw [readMoment, if_pos naive, same]
  | some seconds =>
    have zoned : t.isNaive = false := by rw [Timestamp.isNaive, zone, Option.isNone_some]
    rw [readMoment, zoned, if_neg Bool.false_ne_true, liftClock_eq_ok, Timestamp.toUtc?,
      if_pos inside]

/-- A database may answer in another zone than the one that was bound. -/
theorem readMoment_of_same {answer : Timestamp} (done : bindMoment dialect t = .ok kept)
    (same : answer.same kept = true) : readMoment answer = .ok (.utc t.instant) := by
  obtain ⟨-, inside, rfl⟩ := bindMoment_eq_ok.mp done
  have instant : answer.instant = t.instant := by
    rw [Timestamp.same, Bool.and_eq_true, beq_iff_eq, shown_instant] at same
    exact same.2
  rw [← instant] at inside ⊢
  exact readMoment_of_onCalendar inside

/-- What is found in a column later is what is bound and then read. -/
theorem moment_factors (done : moment t = .ok kept) :
    bindMoment dialect t = .ok (shown dialect kept.instant) ∧
      readMoment (shown dialect kept.instant) = .ok kept := by
  obtain ⟨zoned, inside, rfl⟩ := moment_eq_ok done
  rw [instant_utc]
  refine ⟨bindMoment_of_onCalendar dialect zoned inside, ?_⟩
  have shows : Timestamp.onCalendar (shown dialect t.instant).instant = true := by
    rwa [shown_instant]
  rw [readMoment_of_onCalendar shows, shown_instant]

/-- Binding a clock fails exactly if the column has no form for it. -/
theorem bind_cases (t : Timestamp) :
    (bindMoment dialect t = .ok (shown dialect t.instant) ∧ moment t = .ok (.utc t.instant)) ∨
      ∃ fault, bindMoment dialect t = .error fault ∧ moment t = .error .unstorable := by
  cases zoned : t.isNaive with
  | true =>
    refine Or.inr ⟨_, bindMoment_of_naive dialect zoned, ?_⟩
    rw [moment, if_pos zoned]
  | false =>
    cases inside : Timestamp.onCalendar t.instant with
    | false =>
      refine Or.inr ⟨_, bindMoment_off_calendar dialect zoned inside, ?_⟩
      simp [moment, Timestamp.toUtc?, zoned, inside]
    | true =>
      exact Or.inl ⟨bindMoment_of_onCalendar dialect zoned inside,
        moment_of_onCalendar zoned inside⟩

end Column

/-- What all rows become when each value goes through its column. -/
def Store.through (clock : Timestamp → Except Fault Timestamp) (store : Store) :
    Except Fault Store := do
  let intents ← store.intents.mapM (Intent.through clock)
  let observed ← store.observed.mapM (Observed.through clock)
  let attributions ← store.attributions.mapM (Attribution.through clock)
  return ⟨intents, observed, attributions⟩

section Passing

variable {clock : Timestamp → Except Fault Timestamp}

structure Store.Passes (clock : Timestamp → Except Fault Timestamp) (store after : Store) :
    Prop where
  intents : List.Forall₂ (Intent.Passes clock) store.intents after.intents
  observed : List.Forall₂ (Observed.Passes clock) store.observed after.observed
  attributions : List.Forall₂ (Attribution.Passes clock) store.attributions after.attributions

theorem Store.through_eq_ok {store after : Store} :
    store.through clock = .ok after ↔ store.Passes clock after := by
  constructor
  · intro made
    obtain ⟨intents, keptIntents, made⟩ := bind_eq_ok.mp made
    obtain ⟨observed, keptObserved, made⟩ := bind_eq_ok.mp made
    obtain ⟨attributions, keptAttributions, made⟩ := bind_eq_ok.mp made
    cases made
    exact ⟨(mapM_eq_ok.mp keptIntents).imp fun _ _ => Intent.through_eq_ok.mp,
      (mapM_eq_ok.mp keptObserved).imp fun _ _ => Observed.through_eq_ok.mp,
      (mapM_eq_ok.mp keptAttributions).imp fun _ _ => Attribution.through_eq_ok.mp⟩
  · intro passes
    have intents := mapM_eq_ok.mpr (passes.intents.imp fun _ _ => Intent.through_eq_ok.mpr)
    have observed := mapM_eq_ok.mpr (passes.observed.imp fun _ _ => Observed.through_eq_ok.mpr)
    have attributions :=
      mapM_eq_ok.mpr (passes.attributions.imp fun _ _ => Attribution.through_eq_ok.mpr)
    refine bind_eq_ok.mpr ⟨_, intents, ?_⟩
    refine bind_eq_ok.mpr ⟨_, observed, ?_⟩
    exact bind_eq_ok.mpr ⟨_, attributions, rfl⟩

end Passing

end Reconcile
