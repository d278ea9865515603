import Mathlib.Algebra.BigOperators.Group.List.Basic
import Mathlib.Algebra.Order.Group.MinMax
import Mathlib.Tactic.Linarith
import Reconcile.Proofs.Runner.Steps

set_option autoImplicit false

/-
What every step of the runner keeps: the counters agree with the history, the clock with its end,
and the phase with what is left to do.
-/
namespace Reconcile.Runner

variable {plan : Plan ℚ} {world : World ℚ} {stopped : Bool} {origin : ℚ}

/-- The runner has been told to stop, before its first sweep, during one of the sweeps or during one
of the waits. -/
def Told (world : World ℚ) (stopped : Bool) (history : List (Act ℚ)) : Prop :=
  stopped = true ∨ (∃ k < sweepsIn history, world.stopsDuring (k + 1) = true) ∨
    ∃ k < waitsIn history, world.stopsAfter (k + 1) = true

def EndsWith (history : List (Act ℚ)) (start finish : ℚ) (timeouts : List ℚ) : Prop :=
  ∃ before failed, history = before ++ .sweep start finish failed :: timeouts.map .wait

section Counters

theorem sweepsIn_sweep (history : List (Act ℚ)) (start finish : ℚ) (failed : Bool) :
    sweepsIn (history ++ [.sweep start finish failed]) = sweepsIn history + 1 := by
  simp [sweepsIn, Act.isSweep]

theorem sweepsIn_wait (history : List (Act ℚ)) (timeout : ℚ) :
    sweepsIn (history ++ [.wait timeout]) = sweepsIn history := by
  simp [sweepsIn, Act.isSweep]

theorem waitsIn_sweep (history : List (Act ℚ)) (start finish : ℚ) (failed : Bool) :
    waitsIn (history ++ [.sweep start finish failed]) = waitsIn history := by
  simp [waitsIn, Act.isSweep]

theorem waitsIn_wait (history : List (Act ℚ)) (timeout : ℚ) :
    waitsIn (history ++ [.wait timeout]) = waitsIn history + 1 := by
  simp [waitsIn, Act.isSweep]

theorem told_sweep {history : List (Act ℚ)} (start finish : ℚ) (failed : Bool) :
    Told world stopped (history ++ [.sweep start finish failed]) ↔
      Told world stopped history ∨ world.stopsDuring (sweepsIn history + 1) = true := by
  simp only [Told, sweepsIn_sweep, waitsIn_sweep, Nat.exists_lt_succ_right, or_assoc, or_comm,
    or_left_comm]

theorem told_wait {history : List (Act ℚ)} (timeout : ℚ) :
    Told world stopped (history ++ [.wait timeout]) ↔
      Told world stopped history ∨ world.stopsAfter (waitsIn history + 1) = true := by
  simp only [Told, sweepsIn_wait, waitsIn_wait, Nat.exists_lt_succ_right, or_assoc]

/-- The counters agree with the history. -/
structure Counted (world : World ℚ) (stopped : Bool) (s : State ℚ) : Prop where
  ticks : s.ticks = sweepsIn s.history
  waits : s.waits = waitsIn s.history
  told : s.stopped = true ↔ Told world stopped s.history

theorem Counted.step {s next : State ℚ} (counted : Counted world stopped s)
    (moves : Moves plan world s next) : Counted world stopped next := by
  cases moves with
  | rest => exact counted
  | leave => exact ⟨counted.ticks, counted.waits, counted.told⟩
  | sweep =>
    refine ⟨?_, ?_, ?_⟩
    · rw [history_sweep, sweepsIn_sweep, ← counted.ticks]
      rfl
    · rw [history_sweep, waitsIn_sweep, ← counted.waits]
      rfl
    · rw [history_sweep, told_sweep, ← counted.told, ← counted.ticks]
      exact Bool.or_eq_true _ _ ▸ Iff.rfl
  | wait deadline =>
    refine ⟨?_, ?_, ?_⟩
    · rw [history_wait, sweepsIn_wait, ← counted.ticks]
      rfl
    · rw [history_wait, waitsIn_wait, ← counted.waits]
      rfl
    · rw [history_wait, told_wait, ← counted.told, ← counted.waits]
      exact Bool.or_eq_true _ _ ▸ Iff.rfl
  | wake => exact ⟨counted.ticks, counted.waits, counted.told⟩

end Counters

section Clock

theorem endsWith_sweep {history : List (Act ℚ)} {start finish start' finish' : ℚ} {failed : Bool}
    {timeouts : List ℚ}
    (ends : EndsWith (history ++ [.sweep start finish failed]) start' finish' timeouts) :
    start' = start ∧ finish' = finish ∧ timeouts = [] := by
  obtain ⟨before, failed', split⟩ := ends
  rcases List.eq_nil_or_concat timeouts with rfl | ⟨others, last, rfl⟩
  · obtain ⟨-, same⟩ := List.append_inj' split rfl
    cases same
    exact ⟨rfl, rfl, rfl⟩
  · rw [List.concat_eq_append, List.map_append, ← List.cons_append, ← List.append_assoc] at split
    obtain ⟨-, same⟩ := List.append_inj' split rfl
    cases same

theorem endsWith_wait {history : List (Act ℚ)} {start finish timeout : ℚ} {timeouts : List ℚ}
    (ends : EndsWith (history ++ [.wait timeout]) start finish timeouts) :
    ∃ others, timeouts = others ++ [timeout] ∧ EndsWith history start finish others := by
  obtain ⟨before, failed, split⟩ := ends
  rcases List.eq_nil_or_concat timeouts with rfl | ⟨others, last, rfl⟩
  · obtain ⟨-, same⟩ := List.append_inj' split rfl
    cases same
  · rw [List.concat_eq_append, List.map_append, ← List.cons_append, ← List.append_assoc] at split
    obtain ⟨here, same⟩ := List.append_inj' split rfl
    cases same
    exact ⟨others, List.concat_eq_append, before, failed, here⟩

/-- The clock agrees with the end of the history. -/
structure Timed (plan : Plan ℚ) (origin : ℚ) (s : State ℚ) : Prop where
  fresh : s.history = [] → s.clock = origin ∧ ∀ deadline, s.phase ≠ .waiting deadline
  waiting : ∀ deadline, s.phase = .waiting deadline → ∀ start finish timeouts,
    EndsWith s.history start finish timeouts →
    deadline = start + max 1 plan.interval ∧ s.clock = finish + timeouts.sum ∧
      finish ≤ s.clock ∧ s.clock ≤ max deadline finish
  ready : s.phase = .ready → s.stopped = false → ∀ start finish timeouts,
    EndsWith s.history start finish timeouts →
    s.clock = max (start + max 1 plan.interval) finish ∧
      timeouts.sum = max 0 (start + max 1 plan.interval - finish)

theorem Timed.sweep (s : State ℚ) : Timed plan origin (sweep plan world s) := by
  refine ⟨?_, ?_, ?_⟩
  · rw [history_sweep]
    exact fun none => absurd none (by simp)
  · intro deadline waiting start finish timeouts ends
    rw [history_sweep] at ends
    obtain ⟨rfl, rfl, rfl⟩ := endsWith_sweep ends
    rcases phase_sweep plan world s with ⟨-, ended⟩ | ⟨-, pending⟩
    · rw [ended] at waiting
      cases waiting
    · rw [pending] at waiting
      cases waiting
      exact ⟨rfl, by rw [List.sum_nil, add_zero]; rfl, le_rfl, le_max_right _ _⟩
  · intro ready
    rcases phase_sweep plan world s with ⟨-, ended⟩ | ⟨-, pending⟩
    · rw [ended] at ready
      cases ready
    · rw [pending] at ready
      cases ready

/-- A wait does not go beyond the deadline. -/
theorem Timed.wait {s : State ℚ} {deadline : ℚ} (timed : Timed plan origin s)
    (waiting : s.phase = .waiting deadline) (early : s.clock < deadline) :
    Timed plan origin (wait world deadline s) := by
  refine ⟨?_, ?_, ?_⟩
  · rw [history_wait]
    exact fun none => absurd none (by simp)
  · intro other same start finish timeouts ends
    obtain rfl : deadline = other := by
      rw [phase_wait, waiting] at same
      cases same
      rfl
    rw [history_wait] at ends
    obtain ⟨others, rfl, earlier⟩ := endsWith_wait ends
    obtain ⟨due, clock, least, -⟩ := timed.waiting deadline waiting start finish others earlier
    have later := clock_wait world early
    have short : min 1 (deadline - s.clock) ≤ deadline - s.clock := min_le_right _ _
    have some : 0 < min 1 (deadline - s.clock) := lt_min one_pos (sub_pos.mpr early)
    refine ⟨due, ?_, ?_, ?_⟩
    · rw [later, turn_of_early early, List.sum_append, List.sum_singleton, ← add_assoc, ← clock]
    · rw [later]
      linarith
    · rw [later]
      exact le_max_of_le_left (by linarith)
  · intro ready
    rw [phase_wait, waiting] at ready
    cases ready

/-- The runner that wakes has waited just until the deadline, or not at all if it is over. -/
theorem Timed.wake {s : State ℚ} {deadline : ℚ} (timed : Timed plan origin s)
    (waiting : s.phase = .waiting deadline) (due : s.stopped = true ∨ deadline ≤ s.clock) :
    Timed plan origin { s with phase := .ready } := by
  refine ⟨fun none => absurd waiting ((timed.fresh none).2 deadline), ?_, ?_⟩
  · rintro other ⟨⟩
  · rintro - going start finish timeouts ends
    obtain ⟨rfl, clock, least, most⟩ := timed.waiting deadline waiting start finish timeouts ends
    have reached : start + max 1 plan.interval ≤ s.clock := by
      rcases due with told | reached
      · exact absurd told (by rw [going]; exact Bool.false_ne_true)
      · exact reached
    have whole : s.clock = max (start + max 1 plan.interval) finish :=
      le_antisymm most (max_le reached least)
    refine ⟨whole, ?_⟩
    rw [← sub_self finish, max_sub_sub_right, max_comm, ← whole, clock, add_sub_cancel_left]

theorem Timed.step {s next : State ℚ} (timed : Timed plan origin s)
    (moves : Moves plan world s next) : Timed plan origin next := by
  cases moves with
  | rest => exact timed
  | leave =>
    refine ⟨fun none => ⟨(timed.fresh none).1, ?_⟩, ?_, ?_⟩
    · rintro deadline ⟨⟩
    · rintro deadline ⟨⟩
    · rintro ⟨⟩
  | sweep => exact .sweep s
  | wait deadline waiting going early => exact timed.wait waiting early
  | wake deadline waiting due => exact timed.wake waiting due

end Clock

section Last

theorem isLast_iff {tick : Nat} :
    plan.isLast tick = true ↔ ∃ most, plan.maxTicks = some most ∧ most ≤ tick := by
  unfold Plan.isLast
  split
  · rename_i most limited
    simp [limited]
  · rename_i unlimited
    simp [unlimited]

/-- It is over when the runner was told to stop or after the last sweep, and not before. -/
structure Bounded (plan : Plan ℚ) (s : State ℚ) : Prop where
  below : s.phase ≠ .over → ∀ most, plan.maxTicks = some most → (s.ticks : Int) < most
  ended : s.phase = .over → s.stopped = true ∨ plan.maxTicks = some (s.ticks : Int)

theorem Bounded.sweep {s : State ℚ} (bounded : Bounded plan s) (ready : s.phase = .ready) :
    Bounded plan (Runner.sweep plan world s) := by
  have below := bounded.below (by rw [ready]; rintro ⟨⟩)
  rcases phase_sweep plan world s with ⟨last, ended⟩ | ⟨notLast, pending⟩
  · refine ⟨fun notOver => absurd ended notOver, fun _ => Or.inr ?_⟩
    obtain ⟨most, limited, reached⟩ := isLast_iff.mp last
    have before := below most limited
    rw [limited, ticks_sweep, Option.some.injEq]
    omega
  · refine ⟨?_, fun ended => ?_⟩
    · intro _ most limited
      by_contra reached
      rw [ticks_sweep, not_lt] at reached
      rw [isLast_iff.mpr ⟨most, limited, reached⟩] at notLast
      cases notLast
    · rw [pending] at ended
      cases ended

theorem Bounded.step {s next : State ℚ} (bounded : Bounded plan s)
    (moves : Moves plan world s next) : Bounded plan next := by
  cases moves with
  | rest => exact bounded
  | leave ready stopped =>
    exact ⟨fun notOver => absurd rfl notOver, fun _ => Or.inl stopped⟩
  | sweep ready => exact bounded.sweep ready
  | wait deadline waiting going early =>
    refine ⟨fun _ => bounded.below (by rw [waiting]; rintro ⟨⟩), fun ended => ?_⟩
    rw [phase_wait, waiting] at ended
    cases ended
  | wake deadline waiting =>
    refine ⟨fun _ => bounded.below (by rw [waiting]; rintro ⟨⟩), ?_⟩
    rintro ⟨⟩

end Last

def begun (stopped : Bool) (origin : ℚ) : State ℚ := { initial stopped with clock := origin }

structure Standing (plan : Plan ℚ) (world : World ℚ) (stopped : Bool) (origin : ℚ)
    (s : State ℚ) : Prop where
  counted : Counted world stopped s
  timed : Timed plan origin s
  bounded : Bounded plan s

theorem Standing.begun (positive : ∀ most, plan.maxTicks = some most → 1 ≤ most) :
    Standing plan world stopped origin (begun stopped origin) := by
  refine ⟨⟨rfl, rfl, ?_⟩, ⟨?_, ?_, ?_⟩, ?_, ?_⟩
  · simp [Told, sweepsIn, waitsIn, Runner.begun, initial, State.history]
  · exact fun _ => ⟨rfl, fun deadline => by rintro ⟨⟩⟩
  · rintro deadline ⟨⟩
  · rintro - - start finish timeouts ⟨before, failed, split⟩
    simp [Runner.begun, initial, State.history] at split
  · exact fun _ most limited => positive most limited
  · rintro ⟨⟩

theorem standing (positive : ∀ most, plan.maxTicks = some most → 1 ≤ most) (n : Nat) :
    Standing plan world stopped origin (run plan world n (begun stopped origin)) := by
  refine run_keeps (.begun positive) ?_ n
  intro s next moves kept
  exact ⟨kept.counted.step moves, kept.timed.step moves, kept.bounded.step moves⟩

end Reconcile.Runner
