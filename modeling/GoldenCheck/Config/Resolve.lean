import GoldenCheck.Config.Basic
import GoldenCheck.Path.Normal

/-!
# The rules of a case table

`resolve` checks a case table as it is written and makes a `Config` of it. The first broken rule
counts, in this order: the engine's program, the comparator, the number of jobs, the expectation
of the harness, that there are cases; then, case by case, its name, root, reference and setup
command are not empty, its name is new, its expectation has a meaning, its report and its
reference have places of their own; and at last that no report goes where a reference is. Places
are compared in normal form.
-/

namespace GoldenCheck

/-- Read an expectation where one may be left out. -/
def resolveExpectation (context : String) (written : Option String) :
    Except ConfigError (Option Expectation) :=
  written.mapM fun s => (Expectation.parse s).mapError (.invalidExpectation context)

/-- The engine of a case table. -/
def resolveEngine (raw : RawEngine) : Except ConfigError EngineSettings :=
  if isBlankText raw.program then .error .emptyProgram
  else .ok {
    program := raw.program
    args := raw.args
    outputFlag := raw.outputFlag.getD "-o"
    timeout := raw.timeoutSecs.map fun s => ⟨s, 0⟩ }

/-- The comparator of a case table. -/
def resolveComparator (raw : RawHarness) : Except ConfigError ComparatorChoice :=
  match raw.comparator with
  | none => .ok .inProcess
  | some name =>
    if name = "in-process" then .ok .inProcess
    else if name = "diff-tool" then
      .ok (.tool (raw.diffProgram.getD "diff") (raw.diffArgs.getD ["-q"]))
    else .error (.unknownComparator name)

/-- The settings of the harness of a case table. -/
def resolveHarness (raw : RawHarness) : Except ConfigError HarnessSettings := do
  let comparator ← resolveComparator raw
  if raw.jobs = some 0 then throw .invalidJobs
  let expect ← resolveExpectation "harness.expect" raw.expect
  let defaults : RunOptions := {}
  return {
    outputDir := raw.outputDir.getD defaults.outputDir
    suffix := raw.suffix.getD defaults.suffix
    expect := expect.getD defaults.expect
    comparator
    parallel := raw.parallel
    jobs := raw.jobs }

/-- Where the report of a case goes. -/
def HarnessSettings.outputOf (h : HarnessSettings) (c : TestCase) : Path :=
  c.outputPath h.outputDir h.suffix

/-- The first field of a case that is empty and must not be. -/
def RawCase.emptyField? (raw : RawCase) : Option CaseField :=
  if isBlankText raw.name then some .name
  else if raw.root.isEmpty then some .root
  else if raw.reference.isEmpty then some .reference
  else if raw.setup = some [] then some .setup
  else none

/-- A case as it is written, with its expectation. -/
def RawCase.toCase (raw : RawCase) (expect : Option Expectation) : TestCase where
  name := raw.name
  description := raw.description
  root := raw.root
  reference := raw.reference
  args := raw.args
  env := raw.env
  setup := raw.setup
  expect

/-- Check one case against itself and against the cases before it. -/
def resolveCase (h : HarnessSettings) (earlier : List TestCase) (index : Nat) (raw : RawCase) :
    Except ConfigError TestCase := do
  if let some field := raw.emptyField? then throw (.emptyField index field)
  if earlier.any fun c => c.name = raw.name then throw (.duplicateName raw.name)
  let expect ← resolveExpectation ("case '" ++ raw.name ++ "' expect") raw.expect
  let c := raw.toCase expect
  if let some first := earlier.find? fun e => (h.outputOf e).sameFile (h.outputOf c) then
    throw (.duplicateOutput first.name c.name (h.outputOf c))
  if let some first := earlier.find? fun e => e.reference.sameFile c.reference then
    throw (.duplicateReference first.name c.name c.reference)
  return c

/-- Check the cases one after the other. -/
def resolveCases (h : HarnessSettings) (earlier : List TestCase) :
    List RawCase → Except ConfigError (List TestCase)
  | [] => .ok earlier
  | raw :: rest => do
    let c ← resolveCase h earlier earlier.length raw
    resolveCases h (earlier ++ [c]) rest

/-- The first case whose report goes where a reference is, and the case that owns it. -/
def overwriting? (h : HarnessSettings) (cases : List TestCase) : Option (TestCase × TestCase) :=
  cases.findSome? fun c =>
    (cases.find? fun owner => owner.reference.sameFile (h.outputOf c)).map fun owner => (c, owner)

/-- Check a case table. -/
def resolve (raw : RawConfig) : Except ConfigError Config := do
  let engine ← resolveEngine raw.engine
  let harness ← resolveHarness raw.harness
  if raw.cases = [] then throw .noCases
  let cases ← resolveCases harness [] raw.cases
  if let some (c, owner) := overwriting? harness cases then
    throw (.outputIsReference c.name owner.name (harness.outputOf c))
  return ⟨engine, harness, cases⟩

namespace Config

/-- Read and check the text of a case table. -/
def ofText (text : String) : Except ConfigError Config := do
  let some table := Toml.parse? text | throw .malformed
  resolve (← (RawConfig.ofTable table).mapError .misshapen)

/-- Read and check the content of a file with a case table. -/
def ofFile (path : Path) (content : Except SystemError Bytes) : Except ConfigError Config := do
  let bytes ← content.mapError (.unreadable path)
  let some text := Utf8.decode? bytes | throw (.unreadable path .invalidText)
  ofText text

end Config

end GoldenCheck
