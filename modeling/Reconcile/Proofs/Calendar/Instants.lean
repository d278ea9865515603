import Reconcile.Proofs.Store.Columns

set_option autoImplicit false

/-
How far apart instants are. A clock shows a time of the calendar and is less than a day off UTC, so
between any two instants lie fewer microseconds than a number of eighteen digits counts.
-/
namespace Reconcile.Timestamp

/-- A clock can show this: a time of the calendar, less than a day ahead of UTC or behind it. -/
structure Shown (t : Timestamp) : Prop where
  onCalendar : Timestamp.onCalendar t.wall = true
  behind : -86400 < t.offset.getD 0
  ahead : t.offset.getD 0 < 86400

/-- A clock shows this in some zone. -/
structure Aware (t : Timestamp) : Prop where
  shown : t.Shown
  zoned : t.isNaive = false

/-- More microseconds than lie between two instants. -/
def span : Nat := 10 ^ 18

variable {s t : Timestamp}

theorem Shown.near (first : s.Shown) (second : t.Shown) :
    (s.instant - t.instant).natAbs < span := by
  have sides := onCalendar_iff.mp first.onCalendar
  have others := onCalendar_iff.mp second.onCalendar
  have behind := first.behind
  have ahead := first.ahead
  have behindOther := second.behind
  have aheadOther := second.ahead
  simp only [firstWall, lastWall, Timestamp.second] at sides others
  simp only [instant, Timestamp.second, span]
  omega

theorem minus?_of_alike (alike : s.sameKind t = true) :
    s.minus? t = .ok (s.instant - t.instant) := by
  rw [minus?, if_pos alike]

theorem Aware.sameKind (first : s.Aware) (second : t.Aware) : s.sameKind t = true := by
  rw [Timestamp.sameKind, first.zoned, second.zoned]
  rfl

/-- A column of instants keeps what a clock in UTC shows. -/
theorem aware_of_moment (kept : Column.moment t = .ok t) : t.Aware := by
  obtain ⟨zoned, inside, same⟩ := Column.moment_eq_ok kept
  have utc : t = .utc t.instant := same
  rw [utc]
  exact ⟨⟨inside, (by decide : (-86400 : Int) < 0), (by decide : (0 : Int) < 86400)⟩, rfl⟩

end Reconcile.Timestamp
