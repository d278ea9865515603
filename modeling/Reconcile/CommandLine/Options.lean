import Reconcile.Numeral.Reader
import Reconcile.Text.Digit

set_option autoImplicit false

/-
Arguments of the command line. The first word names the command, the rest are its arguments. An
option may be cut short as long as no other begins the same way, and has its value behind an equals
sign or in the next word. After two dashes nothing is an option.
-/
namespace Reconcile.CommandLine

inductive Refusal
  | help
  | usage
  deriving DecidableEq, Inhabited, Repr

/-- A command with its arguments. -/
inductive Command
  | initDb
  | declare (payload : String)
  | ingest (path : String)
  | sweep
  | runSweeper (interval : Option Binary64) (maxTicks : Option Int)
  | orphan (intent : String)
  | showIntent (intent : String)
  | showAttribution (txHash : String)
  | partnerAttributions (partner : String) (limit : Int)
  deriving Inhabited

inductive Token
  | word (text : String)
  /-- Two dashes. -/
  | divider
  | option (name : String) (value : Option String)
  /-- A call for help, with what is attached to it. -/
  | help (attached : String)
  | unknown
  deriving Inhabited

/-- The options of a command besides the one for help. -/
inductive Flag
  | limit
  | interval
  | maxTicks
  deriving DecidableEq, Inhabited, Repr

def Flag.name : Flag → String
  | .limit => "--limit"
  | .interval => "--interval"
  | .maxTicks => "--max-ticks"

def helpName : String := "--help"

def isNegativeNumber (text : String) : Bool :=
  let cs := text.toList
  let cs := if cs.getLast? = some '\n' then cs.dropLast else cs
  match cs with
  | '-' :: rest =>
    let digit := fun c => (Text.digit? c).isSome
    let whole := rest.takeWhile digit
    match rest.dropWhile digit with
    | [] => !whole.isEmpty
    | '.' :: places => !places.isEmpty && places.all digit
    | _ => false
  | _ => false

/-- A text before and after its first equals sign. -/
def splitValue (text : String) : String × Option String :=
  let cs := text.toList
  match cs.dropWhile (· ≠ '=') with
  | _ :: value => (String.ofList (cs.takeWhile (· ≠ '=')), some (String.ofList value))
  | [] => (text, none)

/-- The token of an option's full name. -/
def named (name : String) (value : Option String) : Token :=
  if name = helpName then .help (if value.isSome then "=" else "") else .option name value

/-- Takes an argument apart that begins with a dash. -/
def readDashed (names : List String) (text : String) : Except Refusal Token :=
  let (start, value) := splitValue text
  if names.contains text then .ok (named text none)
  else if value.isSome && names.contains start then .ok (named start value)
  else
    let fitting := if start.startsWith "--" then names.filter (·.startsWith start) else []
    match fitting with
    | [name] => .ok (named name value)
    | _ :: _ :: _ => .error .usage
    | [] =>
      if text.startsWith "-h" then .ok (.help (String.ofList (text.toList.drop 2)))
      else if isNegativeNumber text || text.toList.contains ' ' then .ok (.word text)
      else .ok .unknown

/-- What an argument is, given the names of the options. -/
def readToken (names : List String) (text : String) : Except Refusal Token :=
  if text.startsWith "-" && text ≠ "-" then readDashed names text else .ok (.word text)

def readTokens (names : List String) : List String → Except Refusal (List Token)
  | [] => .ok []
  | text :: rest =>
    if text = "--" then .ok (.divider :: rest.map .word)
    else do
      let token ← readToken names text
      return token :: (← readTokens names rest)

/-- What a call for help leads to. It takes no value, and no dash may be attached to it. -/
def answerHelp (attached : String) : Refusal :=
  match attached.toList.dropWhile (· = 'h') with
  | '=' :: _ => .usage
  | '-' :: _ => .usage
  | _ => .help

structure Given where
  word : Option String
  limit : Int
  interval : Option Binary64
  maxTicks : Option Int
  /-- Something was given that the command has no use for. -/
  surplus : Bool
  deriving Inhabited

def Given.set (given : Given) (name value : String) : Except Refusal Given :=
  if name = Flag.limit.name then
    match Numeral.int? value with
    | some limit => .ok { given with limit }
    | none => .error .usage
  else if name = Flag.interval.name then
    match Numeral.binary? value with
    | some interval => .ok { given with interval := some interval }
    | none => .error .usage
  else
    match Numeral.int? value with
    | some maxTicks => .ok { given with maxTicks := some maxTicks }
    | none => .error .usage

/-- Goes through the arguments of a command from left to right. -/
def collect (takesWord : Bool) (given : Given) : List Token → Except Refusal Given
  | [] => .ok given
  | .help attached :: _ => .error (answerHelp attached)
  | .unknown :: rest => collect takesWord { given with surplus := true } rest
  | .option name (some value) :: rest => do collect takesWord (← given.set name value) rest
  | .option name none :: .word value :: rest => do
    collect takesWord (← given.set name value) rest
  | .option _ none :: _ => .error .usage
  | .divider :: .word text :: rest =>
    if takesWord && given.word.isNone then collect takesWord { given with word := some text } rest
    else collect takesWord { given with surplus := true } rest
  | .divider :: rest => collect takesWord { given with surplus := true } rest
  | .word text :: .divider :: rest =>
    if takesWord && given.word.isNone then collect takesWord { given with word := some text } rest
    else collect takesWord { given with surplus := true } (.divider :: rest)
  | .word text :: rest =>
    if takesWord && given.word.isNone then collect takesWord { given with word := some text } rest
    else collect takesWord { given with surplus := true } rest

/-- How a command is called. -/
structure Form where
  takesWord : Bool
  flags : List Flag
  build : Given → Command

/-- The commands by their names. -/
def form? : String → Option Form
  | "init-db" => some ⟨false, [], fun _ => .initDb⟩
  | "declare" => some ⟨true, [], fun given => .declare (given.word.getD "")⟩
  | "ingest" => some ⟨true, [], fun given => .ingest (given.word.getD "")⟩
  | "sweep" => some ⟨false, [], fun _ => .sweep⟩
  | "run-sweeper" =>
    some ⟨false, [.interval, .maxTicks], fun given => .runSweeper given.interval given.maxTicks⟩
  | "orphan" => some ⟨true, [], fun given => .orphan (given.word.getD "")⟩
  | "show-intent" => some ⟨true, [], fun given => .showIntent (given.word.getD "")⟩
  | "show-attribution" => some ⟨true, [], fun given => .showAttribution (given.word.getD "")⟩
  | "partner-attributions" =>
    some ⟨true, [.limit], fun given => .partnerAttributions (given.word.getD "") given.limit⟩
  | _ => none

/-- How many rows a listing shows when nothing is said. -/
def usualLimit : Int := 100

def readArguments (form : Form) (surplus : Bool) (arguments : List String) :
    Except Refusal Command := do
  let tokens ← readTokens (helpName :: form.flags.map (·.name)) arguments
  let given ← collect form.takesWord ⟨none, usualLimit, none, none, surplus⟩ tokens
  if given.surplus || (form.takesWord && given.word.isNone) then .error .usage
  return form.build given

/-- Reads a command; `surplus` holds if something unknown came before its name. -/
def readCommand (surplus : Bool) : List String → Except Refusal Command
  | [] => .error .usage
  | text :: rest =>
    if text = "--" then .error .usage
    else do
      match ← readToken [helpName] text with
      | .help attached => .error (answerHelp attached)
      | .word name =>
        match form? name with
        | some form => readArguments form surplus rest
        | none => .error .usage
      | _ => readCommand true rest

def parse (arguments : List String) : Except Refusal Command := readCommand false arguments

end Reconcile.CommandLine
