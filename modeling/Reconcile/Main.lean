import Reconcile.Archive
import Reconcile.CommandLine.Command
import Reconcile.Json.Reader
import Reconcile.Runner
import Reconcile.Settings.Database
import Std.Time

set_option autoImplicit false

/-
The program. Its tables live in a file, and a file that is not there is a database without
tables. Records of the log and answers go to standard output, complaints to standard error.
-/
namespace Reconcile.Program

open CommandLine

def variableNames : List String := [
  "ATTRIBUTION_DB_URL", "DATABASE_URL", "ATTRIBUTION_DB_PATH", "INTENT_DEFAULT_TTL_MINUTES",
  "MATCH_AMOUNT_TOLERANCE_BPS", "MATCH_AMOUNT_WEIGHT", "MATCH_TIME_WEIGHT",
  "MATCH_TIE_SCORE_DELTA", "MATCH_AMBIGUOUS_CONFIDENCE_CAP", "SWEEP_GRACE_PERIOD_SEC",
  "SWEEP_BATCH_SIZE", "SWEEP_INTERVAL_SEC", "LOG_LEVEL"]

def environment : IO Environment :=
  variableNames.filterMapM fun name => do
    return (← IO.getEnv name).map (name, ·)

def clock : IO Timestamp := do
  let stamp ← Std.Time.Timestamp.now
  return .utc (stamp.toNanosecondsSinceUnixEpoch.val / 1000)

/-- The file of a database, if it is kept in a file. -/
def file? (url : String) : Option String :=
  let mark := "sqlite:///"
  if url.startsWith mark then some (String.ofList (url.toList.drop mark.length)) else none

def readFile? (path : String) : IO (Option String) := do
  try return some (← IO.FS.readFile path) catch _ => return none

/-- How many arrays and objects may stand inside one another in what is read. -/
def depth : Nat := 991

/-- Reads the tables. Rows stand a little deeper in their file than their parts do. -/
def load (url : String) : IO Database :=
  match file? url with
  | none => return .unreachable
  | some path => do
    match ← readFile? path with
    | none => return .bare
    | some text =>
      match (Json.read (depth + 4) text).toOption.bind Archive.store? with
      | some store => return .ready store
      | none => return .unreachable

def save (url : String) (database : Database) : IO Unit := do
  match file? url, database with
  | some path, .ready store =>
    match store.toJson with
    | .ok value => IO.FS.writeFile path (value.render ++ "\n")
    | .error _ => return
  | _, _ => return

/-- How grave a record must be to be written. -/
def threshold (env : Environment) : Nat :=
  match Text.lowercase (env.value "LOG_LEVEL") with
  | "debug" => 0
  | "warning" => 2
  | "error" => 3
  | "critical" => 4
  | _ => 1

def gravity : Journal.Level → Nat
  | .debug => 0
  | .info => 1
  | .warning => 2
  | .error => 3

def report (env : Environment) (now : Timestamp) (events : List Journal.Event) : IO Unit := do
  for event in events do
    if threshold env ≤ gravity event.level then
      IO.println (event.record.finish now.text).render

/-- Runs a command on the stored tables, and stores what it leaves. -/
def runOnce (env : Environment) (command : Command) : IO UInt32 := do
  let url := Database.url env
  let now ← clock
  let stdin ← match command with
    | .ingest "-" => (← IO.getStdin).readToEnd
    | _ => pure ""
  let text ← match command with
    | .ingest path => readFile? path
    | _ => pure none
  let issued ← IO.rand 0 (twoTo 127)
  let done := command.run ⟨env, now, depth, stdin, fun _ => text⟩ ⟨← load url, issued⟩
  save url done.desk.database
  report env now done.events
  match done.result with
  | .ok reply =>
    IO.print reply.text
    return reply.exitCode.toUInt32
  | .error fault =>
    IO.eprintln (fault.message?.getD "the command failed")
    return 1

/-- Milliseconds of a length of time, for waiting. -/
def milliseconds (length : Binary64) : UInt32 :=
  (((length.mul (.ofInt 1000)).floor?).getD 1000).toNat.toUInt32

/-- The time in seconds that has passed since a reading of the clock that never goes back. -/
def passed (since : Nat) : IO Binary64 := do
  return Binary64.divNat (.ofInt ((← IO.monoNanosNow) - since)) 1000000000

/-- The calls of the runner. Nothing tells it to stop but the end of the program. -/
def calls (env : Environment) (since : Nat) : Runner.Calls IO Binary64 where
  sweep _ _ := do
    let code ← try runOnce env (.runSweeper none (some 1)) catch _ => pure 1
    return ⟨← passed since, code != 0, false⟩
  wait _ _ timeout := do
    IO.sleep (milliseconds timeout)
    return ⟨← passed since, false, false⟩

/-- Runs the sweeper to its end, if it has one. What it has done is not kept. -/
partial def sweepOn (plan : Runner.Plan Binary64) (calls : Runner.Calls IO Binary64)
    (state : Runner.State Binary64) : IO Unit := do
  match state.phase with
  | .over => return
  | _ => sweepOn plan calls { ← Runner.stepBy plan calls state with acts := [] }

def usage : String :=
  " | ".intercalate [
    "init-db", "declare PAYLOAD", "ingest PATH", "sweep",
    "run-sweeper [--interval SECONDS] [--max-ticks N]", "orphan ID", "show-intent ID",
    "show-attribution HASH", "partner-attributions PARTNER [--limit N]"]

def run (arguments : List String) : IO UInt32 := do
  let env ← environment
  match parse arguments with
  | .error .help =>
    IO.println usage
    return 0
  | .error .usage =>
    IO.eprintln usage
    return 2
  | .ok (.runSweeper interval maxTicks) =>
    match env.settings with
    | .error fault =>
      IO.eprintln (fault.message?.getD "the settings are wrong")
      return 1
    | .ok settings =>
      let plan : Runner.Plan Binary64 :=
        ⟨interval.getD settings.sweep.intervalSeconds, maxTicks⟩
      sweepOn plan (calls env (← IO.monoNanosNow)) (Runner.initial false)
      return 0
  | .ok command => runOnce env command

end Reconcile.Program

def main (arguments : List String) : IO UInt32 := Reconcile.Program.run arguments
