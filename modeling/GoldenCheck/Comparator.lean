import GoldenCheck.Comparison
import GoldenCheck.Files.World
import GoldenCheck.LineDiff
import GoldenCheck.Program.Basic
import GoldenCheck.Text.Blank

/-!
# Comparing a report with its reference

Reports are compared in memory (`Comparator.inMemory`), or by a tool that follows the convention of
`diff` (`Comparator.byTool`). `Comparator.describe` tells how two contents differ.

The functions see the files through a `look`, which tells what lies at a path.
-/

namespace GoldenCheck

namespace Comparator

/-- Read one side of a comparison. -/
def readSide (look : Path → FileState) (missing : Path → ComparisonError) (p : Path) :
    Except ComparisonError Bytes :=
  match (look p).content with
  | .ok content => .ok content
  | .error .notFound => .error (missing p)
  | .error cause => .error (.tool ("cannot read '" ++ p.display ++ "': " ++ cause.message))

/-- Compare byte for byte, in memory. -/
def inMemory (look : Path → FileState) (generated reference : Path) :
    Except ComparisonError ContentMatch := do
  let expected ← readSide look .missingReference reference
  let actual ← readSide look .missingGenerated generated
  return .ofBytes expected actual

/-- The request that has a tool compare two files: the reference comes first. -/
def toolRequest (program : String) (args : List String) (generated reference : Path) :
    ProcessRequest where
  program
  args := args.map Utf8.encode ++ [reference.bytes, generated.bytes]
  env := .empty
  limit := none
  outputs := .collected

/-- The sentence for a tool in trouble. -/
def troubleText (program : String) (status : ToolStatus) (errors : Bytes) : String :=
  "'" ++ program ++ "' exited with status " ++ toString status.code ++ ": "
    ++ trimmed (Utf8.decodeLossy errors)

/-- What the result of a tool says. A tool that did not come to an end counts as one that a signal
ended. -/
def toolAnswer (program : String) : ProcessResult → Except ComparisonError ContentMatch
  | .notStarted cause => .error (.tool ("failed to start '" ++ program ++ "': " ++ cause.message))
  | .ended how _ errors =>
    let status := ToolStatus.ofExitCode how.code?
    match status.contentMatch? with
    | some m => .ok m
    | none => .error (.tool (troubleText program status errors))
  | .outOfTime => .error (.tool (troubleText program (.trouble none) []))

/-- Compare by a tool. A file that is missing is told apart before the tool runs. -/
def byTool (look : W → Path → FileState) (launch : Launcher W) (program : String)
    (args : List String) (generated reference : Path) (w : W) :
    Except ComparisonError ContentMatch × W :=
  if !(look w reference).isFile then (.error (.missingReference reference), w)
  else if !(look w generated).isFile then (.error (.missingGenerated generated), w)
  else
    let (result, w) := launch (toolRequest program args generated reference) w
    (toolAnswer program result, w)

/-- How many changed lines a description shows. -/
def shownChanges : Nat := 12

/-- The description of a difference that no line shows. -/
def endingsOnly : String := "reports differ only in line endings or trailing newline"

/-- How two texts differ, if they do. -/
def describeTexts (expected actual : String) : Option String :=
  (firstDifference expected actual).map fun first =>
    let rendered := renderDiff expected actual shownChanges
    if rendered.isEmpty then endingsOnly else first.sentence ++ "\n" ++ rendered

/-- How a report differs from its reference, as far as both can be read. -/
def describe (look : Path → FileState) (generated reference : Path) : Option String :=
  match (look reference).content, (look generated).content with
  | .ok expected, .ok actual =>
    describeTexts (Utf8.decodeLossy expected) (Utf8.decodeLossy actual)
  | _, _ => none

end Comparator

end GoldenCheck
