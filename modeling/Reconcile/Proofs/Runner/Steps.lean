import Mathlib.Algebra.Order.Ring.Rat
import Mathlib.Logic.Function.Iterate
import Mathlib.Order.MinMax
import Reconcile.Runner

set_option autoImplicit false

/-
The steps of the runner in exact time. A step makes a sweep or a wait, which is then the last act
of the history, or it goes on to another phase and leaves the history as it is. So each act of a
history was made from a state whose history was what comes before that act.
-/
namespace Reconcile.Runner

/-- Exact time, in seconds. -/
instance : Pace ℚ where
  zero := 0
  second := 1
  add x y := x + y
  sub x y := x - y
  before x y := decide (x < y)

theorem before_iff {x y : ℚ} : Pace.before x y = true ↔ x < y := decide_eq_true_iff

theorem atLeast_eq_max (least value : ℚ) : atLeast least value = max least value := by
  unfold atLeast
  rcases lt_or_ge least value with more | less
  · rw [max_eq_right more.le]
    exact if_pos (before_iff.mpr more)
  · rw [max_eq_left less]
    exact if_neg (mt before_iff.mp (not_lt.mpr less))

theorem atMost_eq_min (most value : ℚ) : atMost most value = min most value := by
  unfold atMost
  rcases lt_or_ge value most with less | more
  · rw [min_eq_right less.le]
    exact if_pos (before_iff.mpr less)
  · rw [min_eq_left more]
    exact if_neg (mt before_iff.mp (not_lt.mpr more))

theorem kept_eq (plan : Plan ℚ) : plan.kept = max 1 plan.interval :=
  atLeast_eq_max 1 plan.interval

/-- The runner waits only while there is time left, so what is left is never below zero. -/
theorem turn_of_early {clock deadline : ℚ} (early : clock < deadline) :
    turn clock deadline = min 1 (deadline - clock) := by
  have left : max 0 (deadline - clock) = deadline - clock := max_eq_right (sub_pos.mpr early).le
  rw [turn, atMost_eq_min, atLeast_eq_max]
  exact congrArg (min 1) left

def Act.isSweep {τ : Type} : Act τ → Bool
  | .sweep .. => true
  | .wait _ => false

def sweepsIn (history : List (Act ℚ)) : Nat := history.countP Act.isSweep

def waitsIn (history : List (Act ℚ)) : Nat := history.countP (!·.isSweep)

section Steps

variable {plan : Plan ℚ} {world : World ℚ}

/-- What a step can do. -/
inductive Moves (plan : Plan ℚ) (world : World ℚ) (s : State ℚ) : State ℚ → Prop
  | rest (ended : s.phase = .over) : Moves plan world s s
  | leave (ready : s.phase = .ready) (stopped : s.stopped = true) :
      Moves plan world s { s with phase := .over }
  | sweep (ready : s.phase = .ready) (going : s.stopped = false) :
      Moves plan world s (sweep plan world s)
  | wait (deadline : ℚ) (waiting : s.phase = .waiting deadline) (going : s.stopped = false)
      (early : s.clock < deadline) : Moves plan world s (wait world deadline s)
  | wake (deadline : ℚ) (waiting : s.phase = .waiting deadline)
      (due : s.stopped = true ∨ deadline ≤ s.clock) : Moves plan world s { s with phase := .ready }

theorem step_moves (plan : Plan ℚ) (world : World ℚ) (s : State ℚ) :
    Moves plan world s (step plan world s) := by
  unfold step stepBy
  split
  · rename_i ready
    split
    · rename_i stopped
      exact .leave ready stopped
    · rename_i going
      exact .sweep ready (Bool.eq_false_of_not_eq_true going)
  · rename_i deadline waiting
    split
    · rename_i goes
      rw [Bool.and_eq_true, Bool.not_eq_true', before_iff] at goes
      exact .wait deadline waiting goes.1 goes.2
    · rename_i stays
      rw [Bool.and_eq_true, Bool.not_eq_true', before_iff, not_and_or, not_lt,
        Bool.not_eq_false] at stays
      exact .wake deadline waiting stays
  · rename_i ended
    exact .rest ended

theorem history_sweep (s : State ℚ) : (sweep plan world s).history = s.history ++
    [.sweep s.clock (s.clock + world.cost (s.ticks + 1)) (world.fails (s.ticks + 1))] :=
  List.reverse_cons

theorem history_wait (deadline : ℚ) (s : State ℚ) : (wait world deadline s).history =
    s.history ++ [.wait (turn s.clock deadline)] :=
  List.reverse_cons

/-- A wait is a second long, or it reaches the deadline. -/
theorem clock_wait (world : World ℚ) {deadline : ℚ} {s : State ℚ} (early : s.clock < deadline) :
    (wait world deadline s).clock = s.clock + min 1 (deadline - s.clock) := by
  rw [← turn_of_early early]
  rfl

theorem phase_wait (deadline : ℚ) (s : State ℚ) : (wait world deadline s).phase = s.phase := rfl

theorem ticks_sweep (s : State ℚ) : (sweep plan world s).ticks = s.ticks + 1 := rfl

/-- After the last sweep it is over, after any other one there is time until a deadline. -/
theorem phase_sweep (plan : Plan ℚ) (world : World ℚ) (s : State ℚ) :
    (plan.isLast (s.ticks + 1) = true ∧ (sweep plan world s).phase = .over) ∨
      (plan.isLast (s.ticks + 1) = false ∧
        (sweep plan world s).phase = .waiting (s.clock + max 1 plan.interval)) := by
  cases last : plan.isLast (s.ticks + 1) with
  | true => exact Or.inl ⟨rfl, if_pos last⟩
  | false =>
    refine Or.inr ⟨rfl, ?_⟩
    rw [← kept_eq]
    exact if_neg (by rw [last]; exact Bool.false_ne_true)

/-- An act is made by a sweep that starts at once or by a wait that ends in time. -/
theorem Moves.made {s next : State ℚ} {act : Act ℚ} (moves : Moves plan world s next)
    (made : next.history = s.history ++ [act]) :
    s.stopped = false ∧ ((s.phase = .ready ∧ act = .sweep s.clock
        (s.clock + world.cost (s.ticks + 1)) (world.fails (s.ticks + 1))) ∨
      ∃ deadline, s.phase = .waiting deadline ∧ s.clock < deadline ∧
        act = .wait (turn s.clock deadline)) := by
  have grows : s.history ≠ s.history ++ [act] := by simp
  cases moves with
  | rest => exact absurd made grows
  | leave => exact absurd made grows
  | sweep ready going =>
    rw [history_sweep, List.append_cancel_left_eq, List.cons.injEq] at made
    exact ⟨going, Or.inl ⟨ready, made.1.symm⟩⟩
  | wait deadline waiting going early =>
    rw [history_wait, List.append_cancel_left_eq, List.cons.injEq] at made
    exact ⟨going, Or.inr ⟨deadline, waiting, early, made.1.symm⟩⟩
  | wake => exact absurd made grows

theorem Moves.history {s next : State ℚ} (moves : Moves plan world s next) :
    next.history = s.history ∨ ∃ act, next.history = s.history ++ [act] := by
  cases moves with
  | rest => exact Or.inl rfl
  | leave => exact Or.inl rfl
  | sweep => exact Or.inr ⟨_, history_sweep s⟩
  | wait deadline => exact Or.inr ⟨_, history_wait deadline s⟩
  | wake => exact Or.inl rfl

/-- Running on after the end changes nothing, so a run is its steps one after the other. -/
theorem run_eq_iterate (n : Nat) (s : State ℚ) : run plan world n s = (step plan world)^[n] s := by
  induction n generalizing s with
  | zero => rfl
  | succ n ih =>
    rw [run, Function.iterate_succ_apply]
    split
    · rename_i ended
      have rests : step plan world s = s := by
        rw [step, stepBy, ended]
        rfl
      rw [rests, Function.iterate_fixed rests]
    · exact ih _

theorem run_succ (n : Nat) (s : State ℚ) :
    run plan world (n + 1) s = step plan world (run plan world n s) := by
  rw [run_eq_iterate, run_eq_iterate, Function.iterate_succ_apply']

theorem run_add (m n : Nat) (s : State ℚ) :
    run plan world (m + n) s = run plan world m (run plan world n s) := by
  rw [run_eq_iterate, run_eq_iterate, run_eq_iterate, Function.iterate_add_apply]

theorem run_moves (plan : Plan ℚ) (world : World ℚ) (n : Nat) (s : State ℚ) :
    Moves plan world (run plan world n s) (run plan world (n + 1) s) := by
  rw [run_succ]
  exact step_moves plan world _

theorem run_keeps {motive : State ℚ → Prop} {s : State ℚ} (first : motive s)
    (keeps : ∀ {s next}, Moves plan world s next → motive s → motive next) (n : Nat) :
    motive (run plan world n s) := by
  induction n with
  | zero => exact first
  | succ n ih => exact keeps (run_moves plan world n s) ih

/-- Each act of a history was made when the history was what stands before it. -/
theorem exists_made {s : State ℚ} (fresh : s.history = []) {n : Nat} {before after : List (Act ℚ)}
    {act : Act ℚ} (split : (run plan world n s).history = before ++ act :: after) :
    ∃ m, (run plan world m s).history = before ∧
      (run plan world (m + 1) s).history = before ++ [act] := by
  induction n generalizing after with
  | zero =>
    rw [run, fresh] at split
    simp at split
  | succ n ih =>
    rcases (run_moves plan world n s).history with same | ⟨last, longer⟩
    · exact ih (same.symm.trans split)
    · rw [longer] at split
      rcases List.eq_nil_or_concat after with rfl | ⟨others, final, rfl⟩
      · obtain ⟨here, same⟩ := List.append_inj' split rfl
        exact ⟨n, here, by rw [longer, here, same]⟩
      · rw [List.concat_eq_append, ← List.cons_append, ← List.append_assoc] at split
        exact ih (List.append_inj_left' split rfl)

end Steps

end Reconcile.Runner
