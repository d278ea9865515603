import Reconcile.Proofs.Store.Columns
import Reconcile.Proofs.Store.Frame

set_option autoImplicit false

/-
Tables that operations lead to. In them keys are unique, attributions stand in the order of their
keys, and a deposit that was observed is kept as a column gives it back, so that it can be written
again as it is.
-/
namespace Reconcile

namespace Column

theorem decimal_idem {value kept : Decimal} (done : decimal value = .ok kept) :
    decimal kept = .ok kept :=
  decimal_eq_ok.mpr (Decimal.normalize_idem (decimal_eq_ok.mp done))

theorem decimal?_idem {value kept : Option Decimal} (done : decimal? value = .ok kept) :
    decimal? kept = .ok kept := by
  cases value with
  | none =>
    cases done
    rfl
  | some value =>
    obtain ⟨found, rfl, same⟩ := decimal?_some_eq_ok.mp done
    exact decimal?_some_eq_ok.mpr ⟨found, rfl, decimal_idem same⟩

theorem moment_idem {t kept : Timestamp} (done : moment t = .ok kept) :
    moment kept = .ok kept := by
  obtain ⟨-, inside, rfl⟩ := moment_eq_ok done
  exact moment_utc inside

/-- A point in time that a zone goes with is kept if its instant is on the calendar. -/
theorem moment_of_onCalendar {t : Timestamp} (zoned : t.isNaive = false)
    (inside : Timestamp.onCalendar t.instant = true) : moment t = .ok (.utc t.instant) := by
  simp [moment, Timestamp.toUtc?, zoned, inside]

theorem word_of_fits {n : Int} (low : -wordLimit ≤ n) (high : n < wordLimit) :
    word n = .ok n := by
  rw [word, if_pos ⟨low, high⟩]

end Column

namespace Store

open Relation (ReflTransGen)

/-- The tables can come about by operations, made one after the other or at the same time. -/
def Reached (store : Store) : Prop := ReflTransGen Change empty store

/-- Every deposit that was observed is kept as a column gives it back. -/
def Legible (store : Store) : Prop := ∀ row ∈ store.observed, row.deposit.Canonical

theorem insertObserved_legible {store after : Store} {deposit : Deposit} {now : Timestamp}
    (legible : store.Legible) (done : store.insertObserved deposit now = .ok (some after)) :
    after.Legible := by
  obtain ⟨-, added, passes, rfl⟩ := insertObserved_passes done
  intro row member
  rcases (Table.mem_insert _).mp member with rfl | member
  · exact ⟨Column.decimal_idem passes.amount, Column.decimal_idem passes.shares,
      Column.moment_idem passes.confirmed⟩
  · exact legible row member

theorem Legible.change {store after : Store} (legible : store.Legible)
    (change : Change store after) : after.Legible := by
  cases change with
  | observed done => exact insertObserved_legible legible done
  | declared pending done =>
    obtain ⟨-, row, -, -, rfl⟩ := insertIntent_eq_ok done
    exact legible
  | moved id other =>
    rw [Legible, move_observed]
    exact legible
  | recorded claims done =>
    obtain ⟨-, -, -, row, -, rfl⟩ := commit_eq_ok done
    rw [Legible]
    dsimp only
    rw [claims.observed]
    exact legible

namespace Reached

variable {store after : Store}

theorem changes (reached : store.Reached) (more : ReflTransGen Change store after) :
    after.Reached :=
  reached.trans more

theorem keyed (reached : store.Reached) : store.Keyed := empty_keyed.changes reached

theorem sound (reached : store.Reached) : store.Sound := empty_sound.changes reached

theorem legible (reached : store.Reached) : store.Legible := by
  induction reached with
  | refl =>
    intro row member
    cases member
  | tail _ change ih => exact ih.change change

end Reached

end Store

end Reconcile
