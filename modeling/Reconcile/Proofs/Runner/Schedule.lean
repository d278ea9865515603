import Mathlib.Algebra.Order.Archimedean.Basic
import Reconcile.Proofs.Runner.Standing

set_option autoImplicit false

/-
The schedule of sweeps. A sweep starts one interval after the one before it did, or when that one
ends if it took longer; in between the runner waits for just that time, a second at most at once.
What is true of an act follows from what the steps keep, at the state that made the act. Every wait
brings the deadline a second nearer or reaches it, so each run gets to its next sweep or to its end.
-/
namespace Reconcile.Runner

variable {plan : Plan ℚ} {world : World ℚ} {stopped : Bool} {origin : ℚ}

/-- What is true of the acts of a run: how long each sweep takes and whether it fails, when the
first one starts and each later one, how long the runner waits, and when it stops. -/
structure Paced (plan : Plan ℚ) (world : World ℚ) (stopped : Bool) (origin : ℚ)
    (history : List (Act ℚ)) : Prop where
  sweep : ∀ before start finish failed after,
    history = before ++ .sweep start finish failed :: after →
    finish = start + world.cost (sweepsIn before + 1) ∧
      failed = world.fails (sweepsIn before + 1)
  first : ∀ act after, history = act :: after →
    ∃ finish failed, act = .sweep origin finish failed
  next : ∀ before start finish failed (timeouts : List ℚ) start' finish' failed' after,
    history = before ++ .sweep start finish failed ::
      (timeouts.map .wait ++ .sweep start' finish' failed' :: after) →
    start' = max (start + max 1 plan.interval) finish ∧
      timeouts.sum = max 0 (start + max 1 plan.interval - finish)
  wait : ∀ before timeout after, history = before ++ .wait timeout :: after →
    0 < timeout ∧ timeout ≤ 1
  ends : ∀ before after, history = before ++ after →
    plan.maxTicks = some (sweepsIn before : Int) → after = []
  heeds : ∀ before after, history = before ++ after → Told world stopped before → after = []

section Acts

/-- Each act of a run was made by a runner that was going and whose history was what comes before
that act: a sweep at once, or a wait until the deadline. -/
theorem act_made (positive : ∀ most, plan.maxTicks = some most → 1 ≤ most) {n : Nat}
    {before after : List (Act ℚ)} {act : Act ℚ}
    (split : (run plan world n (begun stopped origin)).history = before ++ act :: after) :
    ∃ s, Standing plan world stopped origin s ∧ s.history = before ∧ s.stopped = false ∧
      ((s.phase = .ready ∧ act = .sweep s.clock (s.clock + world.cost (s.ticks + 1))
          (world.fails (s.ticks + 1))) ∨
        ∃ deadline, s.phase = .waiting deadline ∧ s.clock < deadline ∧
          act = .wait (turn s.clock deadline)) := by
  obtain ⟨m, here, longer⟩ := exists_made rfl split
  rw [← here] at longer
  obtain ⟨going, act⟩ := (run_moves plan world m _).made longer
  exact ⟨_, standing positive m, here, going, act⟩

theorem paced (positive : ∀ most, plan.maxTicks = some most → 1 ≤ most) (n : Nat) :
    Paced plan world stopped origin (run plan world n (begun stopped origin)).history := by
  refine ⟨?_, ?_, ?_, ?_, ?_, ?_⟩
  · intro before start finish failed after split
    obtain ⟨s, standing, rfl, -, ⟨-, same⟩ | ⟨deadline, -, -, same⟩⟩ := act_made positive split
    · cases same
      rw [standing.counted.ticks]
      exact ⟨rfl, rfl⟩
    · cases same
  · intro act after split
    rw [← List.nil_append (act :: after)] at split
    obtain ⟨s, standing, none, -, ⟨-, same⟩ | ⟨deadline, waiting, -, same⟩⟩ :=
      act_made positive split
    · rw [(standing.timed.fresh none).1] at same
      exact ⟨_, _, same⟩
    · exact absurd waiting ((standing.timed.fresh none).2 deadline)
  · intro before start finish failed timeouts start' finish' failed' after split
    rw [← List.cons_append, ← List.append_assoc] at split
    obtain ⟨s, standing, ends, going, ⟨ready, same⟩ | ⟨deadline, -, -, same⟩⟩ :=
      act_made positive split
    · cases same
      exact standing.timed.ready ready going start finish timeouts ⟨before, failed, ends⟩
    · cases same
  · intro before timeout after split
    obtain ⟨s, standing, rfl, -, ⟨-, same⟩ | ⟨deadline, -, early, same⟩⟩ := act_made positive split
    · cases same
    · cases same
      rw [turn_of_early early]
      exact ⟨lt_min one_pos (sub_pos.mpr early), min_le_left _ _⟩
  · intro before after split limited
    cases after with
    | nil => rfl
    | cons act others =>
      obtain ⟨s, standing, rfl, -, act⟩ := act_made positive split
      have running : s.phase ≠ .over := by
        rcases act with ⟨ready, -⟩ | ⟨deadline, waiting, -⟩
        · rw [ready]
          rintro ⟨⟩
        · rw [waiting]
          rintro ⟨⟩
      have below := standing.bounded.below running _ limited
      rw [standing.counted.ticks] at below
      exact absurd below (lt_irrefl _)
  · intro before after split told
    cases after with
    | nil => rfl
    | cons act others =>
      obtain ⟨s, standing, rfl, going, -⟩ := act_made positive split
      rw [standing.counted.told.mpr told] at going
      cases going

end Acts

section Progress

theorem Moves.of_waiting {s next : State ℚ} {deadline : ℚ} (moves : Moves plan world s next)
    (waiting : s.phase = .waiting deadline) :
    next = { s with phase := .ready } ∨
      (s.clock < deadline ∧ next = Runner.wait world deadline s) := by
  cases moves with
  | rest other => rw [other] at waiting; cases waiting
  | leave other => rw [other] at waiting; cases waiting
  | sweep other => rw [other] at waiting; cases waiting
  | wait _ same going early =>
    rw [same] at waiting
    cases waiting
    exact Or.inr ⟨early, rfl⟩
  | wake => exact Or.inl rfl

/-- A runner that waits comes to the end of its waiting: each turn is a second long, or the last
one. -/
theorem exists_ready (plan : Plan ℚ) (world : World ℚ) (count : Nat) {s : State ℚ}
    {deadline : ℚ} (waiting : s.phase = .waiting deadline) (near : deadline - s.clock ≤ count) :
    ∃ n, (run plan world n s).phase = .ready ∧ (run plan world n s).ticks = s.ticks := by
  induction count generalizing s with
  | zero =>
    rcases (step_moves plan world s).of_waiting waiting with woken | ⟨early, -⟩
    · exact ⟨1, by rw [run_succ, run, woken], by rw [run_succ, run, woken]⟩
    · rw [Nat.cast_zero, sub_nonpos] at near
      exact absurd early (not_lt.mpr near)
  | succ count ih =>
    rcases (step_moves plan world s).of_waiting waiting with woken | ⟨early, waited⟩
    · exact ⟨1, by rw [run_succ, run, woken], by rw [run_succ, run, woken]⟩
    · have nearer : deadline - (Runner.wait world deadline s).clock ≤ count := by
        have nonneg : (0 : ℚ) ≤ count := Nat.cast_nonneg count
        rw [Nat.cast_succ] at near
        rw [clock_wait world early]
        rcases min_choice 1 (deadline - s.clock) with second | rest <;> linarith
      obtain ⟨n, ready, same⟩ := ih (s := Runner.wait world deadline s) waiting nearer
      refine ⟨n + 1, ?_, ?_⟩
      · rw [run_add, run_succ, run, waited]
        exact ready
      · rw [run_add, run_succ, run, waited]
        exact same

theorem exists_sweep_of_ready {s : State ℚ} (ready : s.phase = .ready) :
    (run plan world 1 s).phase = .over ∨ (run plan world 1 s).ticks = s.ticks + 1 := by
  rw [run_succ, run, step, stepBy]
  simp only [ready]
  split
  · exact Or.inl rfl
  · exact Or.inr rfl

/-- There is a next sweep, or the run is over. -/
theorem exists_sweep (plan : Plan ℚ) (world : World ℚ) (s : State ℚ) :
    ∃ n, (run plan world n s).phase = .over ∨ (run plan world n s).ticks = s.ticks + 1 := by
  match phase : s.phase with
  | .over => exact ⟨0, Or.inl phase⟩
  | .ready => exact ⟨1, exists_sweep_of_ready phase⟩
  | .waiting deadline =>
    obtain ⟨count, near⟩ := exists_nat_ge (deadline - s.clock)
    obtain ⟨n, ready, same⟩ := exists_ready plan world count phase near
    refine ⟨1 + n, ?_⟩
    rw [run_add, ← same]
    exact exists_sweep_of_ready ready

theorem exists_ticks (plan : Plan ℚ) (world : World ℚ) (stopped : Bool) (origin : ℚ) (k : Nat) :
    ∃ n, (run plan world n (begun stopped origin)).phase = .over ∨
      (run plan world n (begun stopped origin)).ticks = k := by
  induction k with
  | zero => exact ⟨0, Or.inr rfl⟩
  | succ k ih =>
    obtain ⟨n, ended | reached⟩ := ih
    · exact ⟨n, Or.inl ended⟩
    · obtain ⟨m, next⟩ := exists_sweep plan world (run plan world n (begun stopped origin))
      rw [← run_add, reached] at next
      exact ⟨m + n, next⟩

theorem over_of_stopped {s : State ℚ} (told : s.stopped = true) :
    (step plan world (step plan world s)).phase = .over := by
  cases phase : s.phase <;> simp [step, stepBy, phase, told]

end Progress

/-- In every run each sweep is counted and starts on time, a failed one like any other, and the
runner waits in short turns for just the time between. It makes no sweep and no wait once it was
told to stop or after the last sweep, and then it is soon over; until then it goes on to the next
sweep. -/
theorem sweeps_keep_pace (plan : Plan ℚ) (world : World ℚ) (stopped : Bool) (origin : ℚ)
    (positive : ∀ most, plan.maxTicks = some most → 1 ≤ most) :
    (∀ n s, run plan world n (begun stopped origin) = s →
      Paced plan world stopped origin s.history ∧ s.ticks = sweepsIn s.history ∧
      (s.phase = .over → Told world stopped s.history ∨ plan.maxTicks = some (s.ticks : Int)) ∧
      (Told world stopped s.history →
        (run plan world (n + 2) (begun stopped origin)).phase = .over)) ∧
    (∀ k, ∃ n, (run plan world n (begun stopped origin)).phase = .over ∨
      (run plan world n (begun stopped origin)).ticks = k) ∧
    (plan.maxTicks.isSome → ∃ n, (run plan world n (begun stopped origin)).phase = .over) := by
  refine ⟨?_, exists_ticks plan world stopped origin, ?_⟩
  · rintro n s rfl
    have kept : Standing plan world stopped origin (run plan world n (begun stopped origin)) :=
      standing positive n
    refine ⟨paced positive n, kept.counted.ticks, ?_, ?_⟩
    · intro ended
      rw [← kept.counted.told]
      exact kept.bounded.ended ended
    · intro told
      rw [run_succ, run_succ]
      exact over_of_stopped (kept.counted.told.mpr told)
  · intro limited
    obtain ⟨most, limited⟩ := Option.isSome_iff_exists.mp limited
    obtain ⟨n, ended | reached⟩ := exists_ticks plan world stopped origin most.toNat
    · exact ⟨n, ended⟩
    · refine ⟨n, ?_⟩
      by_contra running
      have below := (standing positive n).bounded.below running most limited
      rw [reached] at below
      omega

/-- Two sweeps, the first of which fails: the run is over after the second one. -/
theorem sweeps_keep_pace_failing :
    ∃ n, ∃ s : State ℚ,
      run ⟨5 / 2, some 2⟩ ⟨(↑), (· == 1), fun _ => false, fun _ => false⟩ n (begun false 0) = s ∧
      s.phase = .over ∧ s.ticks = 2 ∧ sweepsIn s.history = 2 ∧
      ∃ after, s.history = .sweep 0 1 true :: after := by
  obtain ⟨every, -, ends⟩ := sweeps_keep_pace ⟨5 / 2, some 2⟩
    ⟨(↑), (· == 1), fun _ => false, fun _ => false⟩ false 0 (by rintro most ⟨⟩; decide)
  obtain ⟨n, ended⟩ := ends rfl
  obtain ⟨kept, counted, last, -⟩ := every n _ rfl
  have two := (last ended).resolve_left (by simp [Told])
  rw [Option.some.injEq] at two
  refine ⟨n, _, rfl, ended, by omega, by omega, ?_⟩
  cases history : (run _ _ n _ : State ℚ).history with
  | nil => rw [counted, history] at two; simp [sweepsIn] at two
  | cons act after =>
    obtain ⟨finish, failed, rfl⟩ := kept.first act after history
    obtain ⟨rfl, rfl⟩ := kept.sweep [] _ _ _ after history
    exact ⟨after, by simp [sweepsIn]⟩

end Reconcile.Runner
