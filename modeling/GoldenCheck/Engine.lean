import GoldenCheck.Attempt
import GoldenCheck.Config.Basic
import GoldenCheck.Desk
import GoldenCheck.Program.Basic
import GoldenCheck.Staging
import GoldenCheck.Text.Lines

/-!
# Making a report with an engine

An engine is a program that writes a report for a root. It is told to write beside the place of the
report, into a staging file with a name of its own. Only when the engine has ended well and left
something there does the staging file move to the report's place; in every other case it is
removed. So a run that fails leaves the report that was there before.

What an engine complains about goes to a file of its own that has no name, and so no place among the
files. That there can be such a file is taken for granted: the two failures of a run for want of it,
before the engine is started, have no counterpart here.

`Engine.generate` makes a report for a root, `Engine.generateCase` makes that of a case, after its
setup command.
-/

namespace GoldenCheck

/-- The reason why a root cannot be analysed, if it cannot. -/
def rootFault? (w : World) (root : Path) : Option String :=
  match w.look root with
  | .absent cause => some cause.message
  | .device => some "not a directory or source file"
  | _ => none

/-- Refuse a root that is neither a directory nor a file. -/
def checkRoot (w : World) (root : Path) : Except GenerationError Unit :=
  match rootFault? w root with
  | some reason => .error (.invalidRoot root reason)
  | none => .ok ()

namespace Engine

/-- How many lines of the engine's complaints a failure shows. -/
def shownComplaints : Nat := 20

/-- The last lines of what a program complained about. -/
def lastLines (errors : Bytes) : String :=
  let lines := linesOf (Utf8.decodeLossy errors)
  String.intercalate "\n" (lines.drop (lines.length - shownComplaints))

/-- The sentence for an engine that did not end well. -/
def exitText (program : String) (how : ProcessEnd) (errors : Bytes) : String :=
  let shown := lastLines errors
  "'" ++ program ++ "' exited with " ++ how.message ++ (if shown.isEmpty then "" else "\n" ++ shown)

/-- The sentence for an engine that left nothing. -/
def silentText (program : String) : String :=
  "'" ++ program ++ "' exited successfully but wrote no report"

/-- The message when the end of the time limit is past what the clock can show. -/
def overflowText : String := "overflow when adding duration to instant"

/-- The request that starts an engine. -/
def request (engine : EngineSettings) (root : Path) (args : List String) (env : Environment)
    (staging : Location) : ProcessRequest where
  program := engine.program
  args := engine.args.map Utf8.encode ++ root.bytes :: args.map Utf8.encode
    ++ [Utf8.encode engine.outputFlag, (Staging.pathOf staging).bytes]
  env
  limit := engine.timeout
  outputs := .complaints

/-- What became of an engine that was started. The end of its time limit is computed after the
start, and may lie past what the clock can show. -/
def answer (engine : EngineSettings) (now : Instant) : ProcessResult → Attempt GenerationError Unit
  | .notStarted cause =>
    .failed (.analysisFailure ("failed to start '" ++ engine.program ++ "': " ++ cause.message))
  | .ended how _ errors =>
    if (engine.timeout.map now.add?) = some none then .brokenOff overflowText
    else if how.isSuccess then .done ()
    else .failed (.analysisFailure (exitText engine.program how errors))
  | .outOfTime =>
    if (engine.timeout.map now.add?) = some none then .brokenOff overflowText
    else .failed (.timeout (engine.timeout.getD .zero))

/-- Move a filled staging file to the report's place. -/
def publish (engine : EngineSettings) (w : World) (staging : Location) (output : Path) :
    Attempt GenerationError Unit × World :=
  if !Staging.isFilled w staging then
    (.failed (.analysisFailure (silentText engine.program)), Staging.remove w staging)
  else match w.moveTo staging output with
    | .ok w => (.done (), w)
    | .error cause => (.failed (.writeFailure output cause), Staging.remove w staging)

/-- Run an engine on a staging file, and move what it left to the report's place. -/
def runStaged (launch : Launcher World) (engine : EngineSettings) (root output : Path)
    (args : List String) (env : Environment) (staging : Location) (d : Desk) :
    Attempt GenerationError Unit × Desk :=
  let (result, w) := launch (request engine root args env staging) d.world
  match answer engine d.now result with
  | .done () =>
    let (r, w) := publish engine w staging output
    (r, { d with world := w })
  | r => (r, { d with world := Staging.remove w staging })

/-- Run an engine for a root. The nameless file for its complaints can always be had. -/
def run (launch : Launcher World) (engine : EngineSettings) (root output : Path)
    (args : List String) (env : Environment) (d : Desk) : Attempt GenerationError Unit × Desk :=
  match checkRoot d.world root with
  | .error e => (.failed e, d)
  | .ok () =>
    match d.world.makeAllDirectories (Staging.directoryOf output) with
    | (.error cause, w) => (.failed (.writeFailure output cause), { d with world := w })
    | (.ok (), w) =>
      match Staging.make w output with
      | .error cause => (.failed (.writeFailure output cause), { d with world := w })
      | .ok (staging, w) =>
        runStaged launch engine root output args env staging { d with world := w }

/-- Make a report for a root that belongs to no case. -/
def generate (launch : Launcher World) (engine : EngineSettings) (root output : Path) (d : Desk) :
    Attempt GenerationError Unit × Desk :=
  run launch engine root output [] .empty d

/-- What the result of a setup command says. -/
def setupAnswer (program : String) (argv : List String) :
    ProcessResult → Attempt GenerationError Unit
  | .notStarted cause => .failed (.setup ("failed to start '" ++ program ++ "': " ++ cause.message))
  | .ended how _ _ =>
    if how.isSuccess then .done ()
    else .failed (.setup ("'" ++ String.intercalate " " argv ++ "' exited with " ++ how.message))
  | .outOfTime => .failed (.setup ("'" ++ String.intercalate " " argv ++ "' did not end"))

/-- What a program said. -/
def said : ProcessResult → Bytes × Bytes
  | .ended _ output errors => (output, errors)
  | _ => ([], [])

/-- The request that starts a setup command. -/
def setupRequest (program : String) (args : List String) (env : Environment) : ProcessRequest where
  program
  args := args.map Utf8.encode
  env
  limit := none
  outputs := .shared

/-- Run the setup command of a case. What it says is said by the run itself. -/
def setUp (launch : Launcher World) (c : TestCase) (argv : List String) (d : Desk) :
    Attempt GenerationError Unit × Desk :=
  match argv with
  | [] => (.failed (.setup ("case '" ++ c.name ++ "' has an empty setup command")), d)
  | program :: args =>
    let (result, w) := launch (setupRequest program args c.env) d.world
    let (output, errors) := said result
    (setupAnswer program argv result,
      { d with world := w, output := d.output ++ output, errors := d.errors ++ errors })

/-- Make the report of a case. The root is checked before the setup command runs, and again before
the engine does. -/
def generateCase (launch : Launcher World) (engine : EngineSettings) (c : TestCase) (output : Path)
    (d : Desk) : Attempt GenerationError Unit × Desk :=
  match checkRoot d.world c.root with
  | .error e => (.failed e, d)
  | .ok () =>
    match c.setup with
    | none => run launch engine c.root output c.args c.env d
    | some argv =>
      match setUp launch c argv d with
      | (.done (), d) => run launch engine c.root output c.args c.env d
      | r => r

end Engine

end GoldenCheck
