import GoldenCheck.Config.Raw
import GoldenCheck.Json.Basic
import GoldenCheck.Toml.Document

/-!
# The case table

A case table that satisfies all rules (`Config`), what can be wrong with one (`ConfigError`), and
how the cases of a run are chosen from it (`Config.select`).
-/

namespace GoldenCheck

/-- How the engine is run. -/
structure EngineSettings where
  /-- The program. -/
  program : String
  /-- Arguments before the root. -/
  args : List String
  /-- The flag before the output path. -/
  outputFlag : String
  /-- How long it may take. -/
  timeout : Option Duration
  deriving DecidableEq, Repr

/-- How reports are compared. -/
inductive ComparatorChoice where
  /-- Byte for byte, in memory. -/
  | inProcess
  /-- By a program that follows the convention of `diff`. -/
  | tool (program : String) (args : List String)
  deriving DecidableEq, Repr

/-- What holds for every case of a run. -/
structure RunOptions where
  /-- The directory for reports. -/
  outputDir : Path := ⟨[Path.dot]⟩
  /-- The suffix of derived names. -/
  suffix : String := Path.defaultSuffix
  /-- What a case expects that does not say it. -/
  expect : Expectation := .identical
  /-- Run cases side by side. -/
  parallel : Bool := false
  /-- How many of them at a time. -/
  jobs : Option Nat := none
  /-- Remove the reports of cases that pass. -/
  cleanPassing : Bool := false
  deriving DecidableEq, Repr

/-- The settings of the harness. -/
structure HarnessSettings where
  /-- The directory for reports. -/
  outputDir : Path
  /-- The suffix of derived names. -/
  suffix : String
  /-- What a case expects that does not say it. -/
  expect : Expectation
  /-- How reports are compared. -/
  comparator : ComparatorChoice
  /-- Run cases side by side. -/
  parallel : Bool
  /-- How many of them at a time. -/
  jobs : Option Nat
  deriving DecidableEq, Repr

/-- A case table that satisfies all rules. -/
structure Config where
  /-- How the engine is run. -/
  engine : EngineSettings
  /-- The settings of the harness. -/
  harness : HarnessSettings
  /-- The cases, in the order of the table. -/
  cases : List TestCase
  deriving DecidableEq, Repr

/-- A key of a case that must not be empty. -/
inductive CaseField where
  /-- The name. -/
  | name
  /-- The root. -/
  | root
  /-- The reference. -/
  | reference
  /-- The setup command. -/
  | setup
  deriving DecidableEq, Repr

/-- The key of a field. -/
def CaseField.key : CaseField → String
  | .name => "name"
  | .root => "root"
  | .reference => "reference"
  | .setup => "setup"

/-- What is wrong with a case table. -/
inductive ConfigError where
  /-- The file cannot be read. -/
  | unreadable (path : Path) (cause : SystemError)
  /-- The text is no TOML document. -/
  | malformed
  /-- The document has the wrong shape. -/
  | misshapen (cause : ShapeError)
  /-- There are no cases. -/
  | noCases
  /-- A case leaves a field empty. -/
  | emptyField (index : Nat) (field : CaseField)
  /-- Two cases share a name. -/
  | duplicateName (name : String)
  /-- The reports of two cases go to the same place. -/
  | duplicateOutput (first second : String) (path : Path)
  /-- Two cases share a reference. -/
  | duplicateReference (first second : String) (path : Path)
  /-- The report of a case goes where a reference is. -/
  | outputIsReference (name owner : String) (path : Path)
  /-- A text names no expectation. -/
  | invalidExpectation (context : String) (cause : UnknownExpectation)
  /-- A text names no comparator. -/
  | unknownComparator (name : String)
  /-- The engine has no program. -/
  | emptyProgram
  /-- No case could ever run. -/
  | invalidJobs
  /-- A case is asked for that the table does not have. -/
  | unknownCase (name : String) (available : List String)

namespace ConfigError

/-- The sentence for an error. -/
def message : ConfigError → String
  | .unreadable path cause => "cannot read config '" ++ path.display ++ "': " ++ cause.message
  | .malformed => "invalid config: "
  | .misshapen cause => "invalid config: " ++ cause.message
  | .noCases => "config lists no cases"
  | .emptyField index field =>
    "case #" ++ toString index ++ ": field '" ++ field.key ++ "' must not be empty"
  | .duplicateName name => "duplicate case name '" ++ name ++ "'"
  | .duplicateOutput first second path =>
    "cases '" ++ first ++ "' and '" ++ second ++ "' both write to '" ++ path.display ++ "'"
  | .duplicateReference first second path =>
    "cases '" ++ first ++ "' and '" ++ second ++ "' share the reference '" ++ path.display ++ "'"
  | .outputIsReference name owner path =>
    "case '" ++ name ++ "' would write its generated report over the reference of case '" ++ owner
      ++ "' ('" ++ path.display ++ "')"
  | .invalidExpectation context cause => context ++ ": " ++ cause.message
  | .unknownComparator name =>
    "unknown comparator '" ++ name ++ "' (expected 'in-process' or 'diff-tool')"
  | .emptyProgram => "engine program must not be empty"
  | .invalidJobs => "harness jobs must be at least 1"
  | .unknownCase name available =>
    "unknown case '" ++ name ++ "'. Available cases: " ++ String.intercalate ", " available

/-- The sentences of the causes behind an error, the nearest first. -/
def causes : ConfigError → List String
  | .unreadable _ cause => [cause.message]
  | .misshapen cause => [cause.message]
  | .invalidExpectation _ cause => [cause.message]
  | _ => []

/-- What the command line says to an error. -/
def report (e : ConfigError) : String := "Error: " ++ e.message

/-- The exit status after an error. -/
def exitCode : Nat := 2

end ConfigError

namespace Config

/-- The names of the cases, in the order of the table. -/
def names (config : Config) : List String := config.cases.map TestCase.name

/-- The names of the cases as a JSON text. -/
def namesText (config : Config) : String := (Json.array (config.names.map .text)).compact

/-- The case with a name. -/
def find? (config : Config) (name : String) : Option TestCase :=
  config.cases.find? fun c => c.name = name

/-- The cases with the given names, in the order of the table. No names at all stand for every
case. -/
def select (config : Config) (wanted : List String) : Except ConfigError (List TestCase) :=
  if wanted = [] then .ok config.cases
  else match wanted.find? fun name => (config.find? name).isNone with
    | some name => .error (.unknownCase name config.names)
    | none => .ok (config.cases.filter fun c => wanted.contains c.name)

end Config

/-- What the settings of the harness say about a run. -/
def HarnessSettings.runOptions (h : HarnessSettings) : RunOptions where
  outputDir := h.outputDir
  suffix := h.suffix
  expect := h.expect
  parallel := h.parallel
  jobs := h.jobs
  cleanPassing := false

end GoldenCheck
