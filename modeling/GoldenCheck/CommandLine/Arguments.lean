import GoldenCheck.Config.Basic

/-!
# The arguments of the command line

    check [-c PATH] [-v] verify [-n NAME]… [--parallel] [-j N] [--clean] [--json]
    check [-c PATH] [-v] bless [-n NAME]… [--parallel] [-j N]
    check [-c PATH] [-v] list [--json]

Arguments are read at two levels, before the command and after it; `-c` and `-v` may stand at
either. At one level every option but `-n` is given at most once, and where `-c` is given at both
the later counts. The value of an option is attached to it (`-cPATH`, `-c=PATH`, `--config=PATH`)
or is the next argument, unless that is an option itself; short options without a value may be
written together.

An option that waits for its value, or whose value was the next argument, is only taken when
something else is: the next option or the end of its level (`Level.settle`). So of two faults the
one that is seen first need not be the one that stands first.
-/

namespace GoldenCheck

/-- Which cases a run takes, and how. -/
structure RunSelection where
  /-- The names of the cases; none for all. -/
  names : List String
  /-- Run cases side by side. -/
  parallel : Bool
  /-- How many of them at a time. -/
  jobs : Option Nat
  deriving DecidableEq, Repr

/-- The options of a run with what the command line says about them: it can ask for cases side by
side, and its number of jobs counts. -/
def RunOptions.override (o : RunOptions) (run : RunSelection) (clean : Bool) : RunOptions :=
  { o with
    parallel := o.parallel || run.parallel
    jobs := run.jobs.or o.jobs
    cleanPassing := clean }

/-- What the command line asks for. -/
inductive Command where
  /-- Make reports and compare them. -/
  | verify (run : RunSelection) (clean json : Bool)
  /-- Make references anew. -/
  | bless (run : RunSelection)
  /-- Show the case table. -/
  | list (json : Bool)
  deriving DecidableEq, Repr

/-- A command line. -/
structure Invocation where
  /-- The case table. -/
  config : Path
  /-- Tell more. -/
  verbose : Bool
  /-- What is asked for. -/
  command : Command
  deriving DecidableEq, Repr

/-- Why a command line is not carried out. -/
inductive ArgumentError where
  /-- An argument that is not known here. -/
  | unknownArgument
  /-- A command that is not known. -/
  | unknownCommand
  /-- There is no command. -/
  | noCommand
  /-- There is nothing at all. -/
  | nothing
  /-- An option lacks its value. -/
  | noValue
  /-- A value is no number in range. -/
  | badNumber
  /-- An option that takes no value has one. -/
  | unwantedValue
  /-- An option is given twice. -/
  | repeated
  /-- The version is asked for. -/
  | version
  /-- Help is asked for. -/
  | help
  deriving DecidableEq, Repr

/-- The text that tells the version. -/
def versionText : String := "reportgen 0.1.0\n"

/-- The exit status: asking for help or for the version is no failure. -/
def ArgumentError.exitCode : ArgumentError → Nat
  | .version | .help => 0
  | _ => 2

/-- The text that tells what can be asked for. -/
def usageText : String :=
  "Usage: reportgen [-c PATH] [-v] verify [-n NAME]... [--parallel] [-j N] [--clean] [--json]\n"
    ++ "       reportgen [-c PATH] [-v] bless [-n NAME]... [--parallel] [-j N]\n"
    ++ "       reportgen [-c PATH] [-v] list [--json]\n"

/-- What is said to arguments that are not carried out. -/
def ArgumentError.message : ArgumentError → String
  | .unknownArgument => "error: there is no such argument\n"
  | .unknownCommand => "error: there is no such command\n"
  | .noCommand => "error: a command is missing\n"
  | .noValue => "error: an option lacks its value\n"
  | .badNumber => "error: a number is expected\n"
  | .unwantedValue => "error: an option takes no value\n"
  | .repeated => "error: an option is given twice\n"
  | .version => versionText
  | .nothing | .help => usageText

/-- The case table when none is named. -/
def defaultConfig : String := "reportgen.toml"

/-! ### Options -/

/-- An option. -/
inductive Switch where
  /-- The case table. -/
  | config
  /-- Tell more. -/
  | verbose
  /-- A case to run. -/
  | name
  /-- Run cases side by side. -/
  | parallel
  /-- How many at a time. -/
  | jobs
  /-- Remove the reports of cases that pass. -/
  | clean
  /-- Write JSON. -/
  | json
  /-- Tell the version. -/
  | version
  /-- Tell how the program is used. -/
  | help
  deriving DecidableEq, Repr

namespace Switch

/-- The long form of an option. -/
def long : Switch → String
  | .config => "config"
  | .verbose => "verbose"
  | .name => "name"
  | .parallel => "parallel"
  | .jobs => "jobs"
  | .clean => "clean"
  | .json => "json"
  | .version => "version"
  | .help => "help"

/-- The short form of an option, if it has one. -/
def short? : Switch → Option Char
  | .config => some 'c'
  | .verbose => some 'v'
  | .name => some 'n'
  | .jobs => some 'j'
  | .version => some 'V'
  | .help => some 'h'
  | .parallel | .clean | .json => none

/-- The option has a value. -/
def takesValue : Switch → Bool
  | .config | .name | .jobs => true
  | _ => false

end Switch

/-- The commands. -/
inductive CommandName where
  /-- Make reports and compare them. -/
  | verify
  /-- Make references anew. -/
  | bless
  /-- Show the case table. -/
  | list
  deriving DecidableEq, Repr

namespace CommandName

/-- The word for a command. -/
def word : CommandName → String
  | .verify => "verify"
  | .bless => "bless"
  | .list => "list"

/-- The command that a word names. -/
def ofWord? (s : String) : Option CommandName := [verify, bless, list].find? fun c => c.word = s

/-- The options after a command. -/
def switches : CommandName → List Switch
  | .verify => [.config, .verbose, .name, .parallel, .jobs, .clean, .json, .help]
  | .bless => [.config, .verbose, .name, .parallel, .jobs, .help]
  | .list => [.config, .verbose, .json, .help]

end CommandName

/-- The options before the command. -/
def topSwitches : List Switch := [.config, .verbose, .version, .help]

/-! ### One level -/

/-- What the options of a level said so far. -/
structure Choices where
  /-- The case table. -/
  config : Option String := none
  /-- Tell more. -/
  verbose : Bool := false
  /-- The cases to run. -/
  names : List String := []
  /-- Run cases side by side. -/
  parallel : Bool := false
  /-- How many at a time. -/
  jobs : Option Nat := none
  /-- Remove the reports of cases that pass. -/
  clean : Bool := false
  /-- Write JSON. -/
  json : Bool := false
  deriving DecidableEq, Repr

/-- A level that is being read. -/
structure Level where
  /-- What its options said. -/
  choices : Choices := {}
  /-- An option that is still to be taken, with its value if that was seen. -/
  pending : Option (Switch × Option String) := none
  /-- Some option was given. -/
  touched : Bool := false
  deriving DecidableEq, Repr

/-- The number of jobs that a text writes: digits, perhaps after a plus, from 1 to 65535. -/
def jobCount? (s : String) : Option Nat :=
  let digits := match s.toList with
    | '+' :: rest => rest
    | cs => cs
  if digits = [] ∨ ¬ digits.all Char.isDigit then none
  else
    let n := digits.foldl (fun n d => n * 10 + (d.toNat - 48)) 0
    if 1 ≤ n ∧ n ≤ 65535 then some n else none

/-- Take an option that has a value. -/
def Choices.takeValue (c : Choices) (s : Switch) (value : String) : Except ArgumentError Choices :=
  match s with
  | .config =>
    if c.config.isSome then .error .repeated
    else if value = "" then .error .noValue
    else .ok { c with config := some value }
  | .name => .ok { c with names := c.names ++ [value] }
  | .jobs =>
    if c.jobs.isSome then .error .repeated
    else match jobCount? value with
      | some n => .ok { c with jobs := some n }
      | none => .error .badNumber
  | _ => .error .unwantedValue

/-- Set a choice that is not set yet. -/
def once (isSet : Bool) (c : Choices) : Except ArgumentError Choices :=
  if isSet then .error .repeated else .ok c

/-- Take an option that has no value. -/
def Choices.takeFlag (c : Choices) : Switch → Except ArgumentError Choices
  | .verbose => once c.verbose { c with verbose := true }
  | .parallel => once c.parallel { c with parallel := true }
  | .clean => once c.clean { c with clean := true }
  | .json => once c.json { c with json := true }
  | .version => .error .version
  | .help => .error .help
  | .config | .name | .jobs => .error .noValue

namespace Level

/-- Take the option that is still to be taken. -/
def settle (l : Level) : Except ArgumentError Level :=
  match l.pending with
  | none => .ok l
  | some (_, none) => .error .noValue
  | some (s, some value) => do
    return { l with choices := ← l.choices.takeValue s value, pending := none }

/-- Take an option without a value. -/
def flag (l : Level) (s : Switch) : Except ArgumentError Level := do
  let l ← l.settle
  return { l with choices := ← l.choices.takeFlag s, touched := true }

/-- Take an option with the value attached to it. -/
def attached (l : Level) (s : Switch) (value : String) : Except ArgumentError Level := do
  let l ← l.settle
  return { l with choices := ← l.choices.takeValue s value, touched := true }

/-- Let an option wait for its value. -/
def await (l : Level) (s : Switch) : Except ArgumentError Level := do
  let l ← l.settle
  return { l with pending := some (s, none), touched := true }

/-- Read an argument after its two dashes. -/
def longArgument (switches : List Switch) (l : Level) (text : List Char) :
    Except ArgumentError Level :=
  let (word, rest) := text.span (· ≠ '=')
  match switches.find? fun s => s.long.toList = word with
  | none => .error .unknownArgument
  | some s =>
    match s.takesValue, rest with
    | true, _ :: value => l.attached s (String.ofList value)
    | true, [] => l.await s
    | false, _ :: _ => .error .unwantedValue
    | false, [] => l.flag s

/-- Read an argument after its one dash. -/
def shortArgument (switches : List Switch) (l : Level) : List Char → Except ArgumentError Level
  | [] => .ok l
  | c :: rest =>
    match switches.find? fun s => s.short? = some c with
    | none => .error .unknownArgument
    | some s =>
      if s.takesValue then
        match rest with
        | [] => l.await s
        | '=' :: value => l.attached s (String.ofList value)
        | value => l.attached s (String.ofList value)
      else do
        shortArgument switches (← l.flag s) rest

/-- What a level was left by. -/
inductive Exit where
  /-- By the end of the arguments. -/
  | finished (l : Level)
  /-- By a word that is no option, with the arguments after it. -/
  | word (l : Level) (text : String) (rest : List String)
  /-- By an argument after `--`. -/
  | trailing (text : String)

/-- Read the arguments of a level up to the first that is neither an option nor the value of one. -/
def read (switches : List Switch) (l : Level) : List String → Except ArgumentError Exit
  | [] => .ok (.finished l)
  | arg :: rest =>
    match arg.toList with
    | ['-', '-'] =>
      match rest with
      | [] => .ok (.finished l)
      | next :: _ => .ok (.trailing next)
    | '-' :: '-' :: text => do read switches (← l.longArgument switches text) rest
    | '-' :: c :: text => do read switches (← l.shortArgument switches (c :: text)) rest
    | _ =>
      match l.pending with
      | some (s, none) => read switches { l with pending := some (s, some arg) } rest
      | _ => .ok (.word l arg rest)

end Level

/-! ### A command line -/

/-- What the two levels say together. -/
def invocation (command : CommandName) (top sub : Choices) : Invocation where
  config := .ofText ((sub.config.or top.config).getD defaultConfig)
  verbose := top.verbose || sub.verbose
  command :=
    let run : RunSelection := ⟨sub.names, sub.parallel, sub.jobs⟩
    match command with
    | .verify => .verify run sub.clean sub.json
    | .bless => .bless run
    | .list => .list sub.json

/-- Read the arguments after a command. -/
def readCommand (command : CommandName) (args : List String) : Except ArgumentError Choices := do
  match ← Level.read command.switches {} args with
  | .finished l => return (← l.settle).choices
  | .word .. | .trailing _ => throw .unknownArgument

/-- The answer to `help` with the arguments after it. -/
def helpOn : List String → ArgumentError
  | [] => .help
  | [topic] =>
    if topic = "help" ∨ (CommandName.ofWord? topic).isSome then .help else .unknownCommand
  | _ => .unknownCommand

/-- Read a command line, without the name of the program. -/
def Invocation.parse (args : List String) : Except ArgumentError Invocation := do
  match ← Level.read topSwitches {} args with
  | .finished l =>
    let l ← l.settle
    throw (if l.touched then .noCommand else .nothing)
  | .trailing text =>
    throw (if (CommandName.ofWord? text).isSome ∨ text = "help" then .unknownArgument
      else .unknownCommand)
  | .word l text rest =>
    if text = "help" then throw (helpOn rest)
    match CommandName.ofWord? text with
    | none => throw .unknownCommand
    | some command =>
      let sub ← readCommand command rest
      return invocation command (← l.settle).choices sub

end GoldenCheck
