import Reconcile.Binary64.Basic

set_option autoImplicit false

/-
Sweeps at a fixed pace. A sweep starts one interval after the one before it did, or at once if
that one took longer. Between sweeps the runner waits in short turns, so that it hears soon when it
is told to stop. A sweep that fails is reported, and the next one comes in its turn. The runner only
calls sweeps and waits; what they do is left open, so that one loop runs on a clock of any kind.
-/
namespace Reconcile.Runner

/-- What the runner does with points and lengths of time. -/
class Pace (τ : Type) where
  zero : τ
  second : τ
  add : τ → τ → τ
  sub : τ → τ → τ
  before : τ → τ → Bool

instance : Pace Binary64 where
  zero := .zero
  second := .one
  add := .add
  sub := .sub
  before := Binary64.lt

variable {τ : Type}

/-- The interval between sweeps and, if there is one, the number of the last sweep. -/
structure Plan (τ : Type) where
  interval : τ
  maxTicks : Option Int

/-- What a call leaves: what the clock shows, whether the call failed, and whether the runner was
told to stop. -/
structure Done (τ : Type) where
  clock : τ
  failed : Bool
  stopped : Bool

/-- The calls of the runner: the n-th sweep and the n-th wait, each from a reading of the clock. -/
structure Calls (m : Type → Type) (τ : Type) where
  sweep : Nat → τ → m (Done τ)
  wait : Nat → τ → τ → m (Done τ)

/-- What goes on around the runner: how long each sweep takes, which ones fail, and when the runner
is told to stop, during a sweep or after a number of waits. -/
structure World (τ : Type) where
  cost : Nat → τ
  fails : Nat → Bool
  stopsDuring : Nat → Bool
  stopsAfter : Nat → Bool

/-- What the runner did. -/
inductive Act (τ : Type)
  | sweep (start finish : τ) (failed : Bool)
  | wait (timeout : τ)

/-- What the runner does next. -/
inductive Phase (τ : Type)
  | ready
  | waiting (deadline : τ)
  | over

/-- Where the runner stands. The last act comes first. -/
structure State (τ : Type) where
  phase : Phase τ
  clock : τ
  stopped : Bool
  ticks : Nat
  waits : Nat
  acts : List (Act τ)

section

variable [Pace τ]

def atLeast (least value : τ) : τ := if Pace.before least value then value else least

def atMost (most value : τ) : τ := if Pace.before value most then value else most

/-- The interval that is kept: a second at least. -/
def Plan.kept (plan : Plan τ) : τ := atLeast Pace.second plan.interval

/-- The next turn of waiting: until the deadline, but a second at most. -/
def turn (clock deadline : τ) : τ :=
  atMost Pace.second (atLeast Pace.zero (Pace.sub deadline clock))

/-- Whether a sweep is the last one. -/
def Plan.isLast (plan : Plan τ) (tick : Nat) : Bool :=
  match plan.maxTicks with
  | some most => most ≤ tick
  | none => false

section Loop

variable {m : Type → Type} [Monad m]

def sweepBy (plan : Plan τ) (calls : Calls m τ) (state : State τ) : m (State τ) := do
  let tick := state.ticks + 1
  let done ← calls.sweep tick state.clock
  return {
    phase := if plan.isLast tick then .over else .waiting (Pace.add state.clock plan.kept)
    clock := done.clock
    stopped := state.stopped || done.stopped
    ticks := tick
    waits := state.waits
    acts := .sweep state.clock done.clock done.failed :: state.acts }

def waitBy (calls : Calls m τ) (deadline : τ) (state : State τ) : m (State τ) := do
  let timeout := turn state.clock deadline
  let waits := state.waits + 1
  let done ← calls.wait waits state.clock timeout
  return { state with
    clock := done.clock
    stopped := state.stopped || done.stopped
    waits
    acts := .wait timeout :: state.acts }

def stepBy (plan : Plan τ) (calls : Calls m τ) (state : State τ) : m (State τ) :=
  match state.phase with
  | .ready =>
    if state.stopped then return { state with phase := .over } else sweepBy plan calls state
  | .waiting deadline =>
    if !state.stopped && Pace.before state.clock deadline then waitBy calls deadline state
    else return { state with phase := .ready }
  | .over => return state

end Loop

/-- The calls in a world that is known beforehand. A wait takes the time it is given. -/
def World.calls (world : World τ) : Calls Id τ where
  sweep tick clock := ⟨Pace.add clock (world.cost tick), world.fails tick, world.stopsDuring tick⟩
  wait count clock timeout := ⟨Pace.add clock timeout, false, world.stopsAfter count⟩

def sweep (plan : Plan τ) (world : World τ) (state : State τ) : State τ :=
  (sweepBy plan world.calls state).run

def wait (world : World τ) (deadline : τ) (state : State τ) : State τ :=
  (waitBy world.calls deadline state).run

def step (plan : Plan τ) (world : World τ) (state : State τ) : State τ :=
  (stepBy plan world.calls state).run

/-- Runs until it is over, but no longer than a number of steps. -/
def run (plan : Plan τ) (world : World τ) : Nat → State τ → State τ
  | 0, state => state
  | left + 1, state =>
    match state.phase with
    | .over => state
    | _ => run plan world left (step plan world state)

def initial (stopped : Bool) : State τ := ⟨.ready, Pace.zero, stopped, 0, 0, []⟩

end

/-- What was done, in order. -/
def State.history (state : State τ) : List (Act τ) := state.acts.reverse

/-- What the runner reports, as level and kind of each event. -/
def State.reports (state : State τ) : List (String × String) :=
  ("info", "periodic_sweeper_started") ::
    (state.history.filterMap fun act =>
      match act with
      | .sweep _ _ failed =>
        some (if failed then ("error", "periodic_sweep_tick_failed")
          else ("debug", "periodic_sweep_tick_done"))
      | .wait _ => none) ++ [("info", "periodic_sweeper_stopped")]

end Reconcile.Runner
