import GoldenCheck.Bless
import GoldenCheck.CommandLine.Arguments
import GoldenCheck.Config.Resolve
import GoldenCheck.Log
import GoldenCheck.Report.Console
import GoldenCheck.Report.Record
import GoldenCheck.Verification.Run

/-!
# Carrying out a command line

`Invocation.execute` loads the case table, makes its directory the current one, and does what the
command asks for. It answers with the exit status; what it says is on the desk. Paths in a case
table are seen from the directory of the table.

Loading a table makes records for the log (`Loading.records`). `Invocation.execute` keeps no log, and
`Invocation.executeLogging` is the same with these records written out.
-/

namespace GoldenCheck

/-- Why a command line is not carried out. -/
inductive CommandError where
  /-- There is something wrong with the case table, or with what is asked of it. -/
  | config (cause : ConfigError)
  /-- The directory of the case table cannot be entered. -/
  | entering (directory : Path) (cause : SystemError)

/-- What the command line says to an error. -/
def CommandError.report : CommandError → String
  | .config cause => cause.report
  | .entering directory cause =>
    "Error: cannot enter '" ++ directory.display ++ "': " ++ cause.message

/-- What comes of loading a case table. -/
structure Loading where
  /-- What is recorded on the way, in this order. -/
  records : List LogRecord
  /-- The table, and the files seen from its directory; or what is wrong. -/
  result : Except CommandError (Config × World)

/-- Load a case table, and make its directory the current one. -/
def loading (path : Path) (w : World) : Loading :=
  match Config.ofFile path (w.read path) with
  | .error cause => ⟨[], .error (.config cause)⟩
  | .ok config =>
    let loaded := LogRecord.loaded path config.cases.length
    match path.parent? with
    | none => ⟨[loaded], .ok (config, w)⟩
    | some directory =>
      if directory.isEmpty then ⟨[loaded], .ok (config, w)⟩
      else match w.enter directory with
        | .ok w => ⟨[loaded, .entered directory], .ok (config, w)⟩
        | .error cause => ⟨[loaded], .error (.entering directory cause)⟩

/-- What loading a case table gives, whatever is recorded. -/
def loadConfig (path : Path) (w : World) : Except CommandError (Config × World) :=
  (loading path w).result

/-- Say what a report in some style says to an event. -/
def sayConsole (style : ConsoleStyle) (e : RunEvent) (d : Desk) : Desk :=
  d.complain (style.render [e])

/-- Say what the record of a run says to an event. -/
def sayRecord (e : RunEvent) (d : Desk) : Desk := d.print (recordOf [e])

/-- The lines that tell of references made anew. -/
def blessLine (o : BlessOutcome) : String :=
  match o.error with
  | none => Ink.green.painted "✓" ++ " " ++ o.name ++ " -> " ++ o.reference.display ++ "\n"
  | some e => Ink.red.painted "✗" ++ " " ++ o.name ++ ": " ++ e.message ++ "\n"

/-- How many references were not made. -/
def blessFailures (outcomes : List BlessOutcome) : Nat := outcomes.countP fun o => o.error.isSome

/-- The closing line about references made anew. -/
def blessClosing (outcomes : List BlessOutcome) : String :=
  let failed := blessFailures outcomes
  if failed > 0 then
    toString failed ++ " of " ++ toString outcomes.length
      ++ " reference(s) could not be regenerated\n"
  else toString outcomes.length ++ " reference(s) regenerated\n"

/-- The line of the table for a case, the name in a field of some width. -/
def listLine (width : Nat) (c : TestCase) : String :=
  let gap := String.ofList (List.replicate (width - c.name.length) ' ')
  let about :=
    if c.description.isEmpty then c.root.display ++ " -> " ++ c.reference.display else c.description
  c.name ++ gap ++ "  " ++ about ++ "\n"

/-- The table as text. The field for the names is as wide as the longest name has bytes. -/
def Config.listing (config : Config) : String :=
  let width := (config.cases.map fun c => c.name.utf8ByteSize).foldl max 0
  String.join (config.cases.map (listLine width))

namespace Command

/-- Verify the cases that are asked for. -/
def runVerify (start : Launcher World) (config : Config) (run : RunSelection)
    (clean json verbose : Bool) (d : Desk) : Except CommandError (Nat × Desk) := do
  let cases ← (config.select run.names).mapError .config
  let say := if json then sayRecord else sayConsole ⟨verbose, true⟩
  let harness := Harness.atDesk start config.engine config.harness.comparator say
  let options := config.harness.runOptions.override run clean
  let (summary, d) := GoldenCheck.verify harness options cases d
  return (summary.exitCode, d)

/-- Make the references anew that are asked for. -/
def runBless (start : Launcher World) (config : Config) (run : RunSelection) (d : Desk) :
    Except CommandError (Nat × Desk) := do
  let cases ← (config.select run.names).mapError .config
  let harness := Harness.atDesk start config.engine .inProcess fun _ d => d
  let (outcomes, d) := GoldenCheck.bless harness cases d
  let text := String.join (outcomes.map blessLine) ++ blessClosing outcomes
  return (if blessFailures outcomes > 0 then 1 else 0, d.complain text)

/-- Show the case table. -/
def runList (config : Config) (json : Bool) (d : Desk) : Nat × Desk :=
  (0, d.print (if json then config.namesText ++ "\n" else config.listing))

/-- Do what a command asks for. -/
def execute (start : Launcher World) (config : Config) (verbose : Bool) (d : Desk) :
    Command → Except CommandError (Nat × Desk)
  | .verify run clean json => runVerify start config run clean json verbose d
  | .bless run => runBless start config run d
  | .list json => .ok (runList config json d)

end Command

/-- Carry out a command line. -/
def Invocation.execute? (start : Launcher World) (inv : Invocation) (d : Desk) :
    Except CommandError (Nat × Desk) := do
  let (config, world) ← loadConfig inv.config d.world
  inv.command.execute start config inv.verbose { d with world }

/-- What a command line comes to in the end: an error is told, and the exit status says so. -/
def Desk.answer (d : Desk) : Except CommandError (Nat × Desk) → Nat × Desk
  | .ok r => r
  | .error e => (ConfigError.exitCode, d.complain (e.report ++ "\n"))

/-- Carry out a command line, and keep no log. -/
def Invocation.execute (start : Launcher World) (inv : Invocation) (d : Desk) : Nat × Desk :=
  d.answer (inv.execute? start d)

/-- Carry out a command line, and write in a log how its case table is loaded. -/
def Invocation.executeLogging (log : Logger) (start : Launcher World) (inv : Invocation) (d : Desk) :
    Nat × Desk :=
  let loading := loading inv.config d.world
  let d := d.log log loading.records
  d.answer do
    let (config, world) ← loading.result
    inv.command.execute start config inv.verbose { d with world }

end GoldenCheck
