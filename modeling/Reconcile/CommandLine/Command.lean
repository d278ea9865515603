import Reconcile.CommandLine.Ingest
import Reconcile.CommandLine.Options
import Reconcile.Engine.Declare
import Reconcile.Engine.Sweep
import Reconcile.Engine.Views
import Reconcile.Json.Writer
import Reconcile.Report
import Reconcile.Settings.Environment

set_option autoImplicit false

/-
The commands. Each of them prints one line of JSON, and its exit code says whether all went well,
something was missing or rejected, or the engine refused.
-/
namespace Reconcile.CommandLine

open Journal (Event)

/-- The database: out of reach, without tables, or with them. -/
inductive Database
  | unreachable
  | bare
  | ready (store : Store)
  deriving Inhabited

/-- What a command can see besides the database. The depth is how many arrays and objects may stand
inside one another in what it reads. -/
structure Scene where
  env : Environment
  now : Timestamp
  depth : Nat
  stdin : String
  file? : String → Option String

/-- What is kept from one command to the next. -/
structure Desk where
  database : Database
  issued : Nat
  deriving Inhabited

/-- What a command tells: its exit code and what it prints. -/
structure Reply where
  exitCode : Nat
  printed : Option Json
  deriving Inhabited

structure Run where
  result : Except Fault Reply
  desk : Desk
  events : List Event
  deriving Inhabited

def Reply.text (reply : Reply) : String :=
  match reply.printed with
  | some value => value.render ++ "\n"
  | none => ""

def succeed (value : Json) : Reply := ⟨0, some value⟩

/-- A command that changes nothing. -/
def Desk.leave (desk : Desk) (result : Except Fault Reply) : Run := ⟨result, desk, []⟩

/-- The engine on the tables, if there are any. -/
def Desk.engine (desk : Desk) (settings : Settings) : Except Fault Engine :=
  match desk.database with
  | .ready store => .ok ⟨settings, store, .zero, desk.issued⟩
  | _ => .error .databaseUnavailable

def Desk.after (engine : Engine) : Desk := ⟨.ready engine.store, engine.issued⟩

/-- Ends a command with the outcome of a call. -/
def finish {α : Type} (outcome : Outcome α) (reply : α → Except Fault Reply) : Run :=
  ⟨outcome.result >>= reply, .after outcome.engine, outcome.events⟩

def Desk.call {α : Type} (desk : Desk) (settings : Settings) (call : Engine → Outcome α)
    (reply : α → Except Fault Reply) : Run :=
  match desk.engine settings with
  | .ok engine => finish (call engine) reply
  | .error fault => desk.leave (.error fault)

/-- Creates the tables unless they are there. -/
def createTables (desk : Desk) : Run :=
  let done := succeed (.object [("initialized", .bool true)])
  match desk.database with
  | .unreachable => desk.leave (.error .databaseUnavailable)
  | .bare => ⟨.ok done, { desk with database := .ready .empty }, []⟩
  | .ready _ => desk.leave (.ok done)

/-- Declares an intent. What is wrong with the payload shows before the tables are needed. -/
def declare (scene : Scene) (desk : Desk) (settings : Settings) (payload : Json) : Run :=
  match desk.database with
  | .ready _ =>
    desk.call settings (·.declare payload scene.now false) (·.toJson.map succeed)
  | _ =>
    let (issued, prepared) := Engine.prepare settings desk.issued payload scene.now
    let desk := { desk with issued }
    match prepared >>= Store.empty.admits with
    | .error fault => desk.leave (.error fault)
    | .ok _ => desk.leave (.error .databaseUnavailable)

def replyCounts (counts : Counts) : Reply :=
  ⟨if counts.rejected = 0 then 0 else 1, some counts.toJson⟩

/-- Ingests deliveries. Lines that are rejected do not need the tables. -/
def ingestText (scene : Scene) (desk : Desk) (settings : Settings) (text : String) : Run :=
  let lines := linesOf text
  let counts : Counts := ⟨0, 0, 0⟩
  match desk.database with
  | .ready _ =>
    desk.call settings (ingest scene.depth scene.now lines counts) fun counts =>
      .ok (replyCounts counts)
  | _ =>
    if readsTables scene.depth lines then desk.leave (.error .databaseUnavailable)
    else
      let outcome := ingest scene.depth scene.now lines counts (.start settings)
      desk.leave (outcome.result.map replyCounts)

/-- Sweeps a number of times. A sweep that fails does not stop the next. -/
def sweepTimes (now : Timestamp) : Nat → Engine → Engine × List Event
  | 0, engine => (engine, [])
  | n + 1, engine =>
    let outcome := engine.sweep now []
    let (engine, events) := sweepTimes now n outcome.engine
    (engine, outcome.events ++ events)

/-- Runs the sweeper for a number of ticks, one at least. -/
def runSweeper (scene : Scene) (desk : Desk) (settings : Settings) (maxTicks : Int) : Run :=
  match desk.engine settings with
  | .error _ => desk.leave (.ok ⟨0, none⟩)
  | .ok engine =>
    let (engine, events) := sweepTimes scene.now (max 1 maxTicks).toNat engine
    ⟨.ok ⟨0, none⟩, .after engine, events⟩

def runWith (scene : Scene) (desk : Desk) (settings : Settings) : Command → Run
  | .initDb => createTables desk
  | .declare payload =>
    match readJson scene.depth payload with
    | .error fault => desk.leave (.error fault)
    | .ok payload => declare scene desk settings payload
  | .ingest path =>
    match if path = "-" then some scene.stdin else scene.file? path with
    | some text => ingestText scene desk settings text
    | none => desk.leave (.error .fileNotFound)
  | .sweep =>
    desk.call settings (·.sweep scene.now []) fun report => .ok (succeed report.toJson)
  | .runSweeper _ maxTicks => runSweeper scene desk settings (maxTicks.getD 1)
  | .orphan intent =>
    desk.call settings (·.orphan intent) fun changed =>
      .ok (succeed (.object [("intent_id", .string intent), ("orphaned", .bool changed)]))
  | .showIntent intent => desk.call settings (·.getIntent intent) (·.toJson.map succeed)
  | .showAttribution txHash =>
    desk.call settings (·.getAttribution txHash) fun found =>
      match found with
      | some attribution => attribution.toJson.map succeed
      | none => .ok ⟨1, some .null⟩
  | .partnerAttributions partner limit =>
    desk.call settings (·.listPartner partner (some limit)) fun rows => do
      return succeed (.array (← rows.mapM Attribution.toJson))

/-- A refusal of the engine is printed with its code and the first line of what it says. -/
def printRefusal : Except Fault Reply → Except Fault Reply
  | .error fault =>
    match fault.code? with
    | some code =>
      .ok ⟨2, some (.object [("error", .string code),
        ("message", .string (Fault.firstLine (fault.message?.getD "")))])⟩
    | none => .error fault
  | .ok reply => .ok reply

/-- Runs a command. All but the first need settings that keep their rules. -/
def Command.run (scene : Scene) (desk : Desk) (command : Command) : Run :=
  let done := match command with
    | .initDb => createTables desk
    | command =>
      match scene.env.settings with
      | .error fault => desk.leave (.error fault)
      | .ok settings => runWith scene desk settings command
  { done with result := printRefusal done.result }

end Reconcile.CommandLine
