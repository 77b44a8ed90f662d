import GoldenCheck.Config.Shape
import GoldenCheck.TestCase

/-!
# The case table as it is written

The records of a case table with every key as it was read and no rule checked yet: the engine, the
settings of the harness, and the cases. `RawConfig.ofTable` reads the table of a document.
-/

namespace GoldenCheck

/-- How the engine is written. -/
structure RawEngine where
  /-- The program. -/
  program : String
  /-- Arguments before the root. -/
  args : List String
  /-- The flag before the output path. -/
  outputFlag : Option String
  /-- The time limit in seconds. -/
  timeoutSecs : Option Nat
  deriving DecidableEq, Repr

/-- How the settings of the harness are written. -/
structure RawHarness where
  /-- The directory for reports. -/
  outputDir : Option Path
  /-- The suffix of derived names. -/
  suffix : Option String
  /-- What cases expect. -/
  expect : Option String
  /-- Which comparator is used. -/
  comparator : Option String
  /-- The program of the comparison tool. -/
  diffProgram : Option String
  /-- The arguments of the comparison tool. -/
  diffArgs : Option (List String)
  /-- Run cases side by side. -/
  parallel : Bool
  /-- How many of them at a time. -/
  jobs : Option Nat
  deriving DecidableEq, Repr

/-- How a case is written. -/
structure RawCase where
  /-- The name. -/
  name : String
  /-- One line about the case. -/
  description : String
  /-- The root. -/
  root : Path
  /-- The reference. -/
  reference : Path
  /-- Arguments after the root. -/
  args : List String
  /-- Variables. -/
  env : Environment
  /-- The command that runs before the engine. -/
  setup : Option (List String)
  /-- What the case expects. -/
  expect : Option String
  deriving DecidableEq, Repr

/-- How a case table is written. -/
structure RawConfig where
  /-- The engine. -/
  engine : RawEngine
  /-- The settings of the harness. -/
  harness : RawHarness
  /-- The cases. -/
  cases : List RawCase
  deriving DecidableEq, Repr

/-! ### The engine -/

/-- The keys of the engine. -/
def RawEngine.shape : RecordShape where
  title := "RawEngine"
  fields := [("program", checked asText), ("args", checked (asItems asText)),
    ("output_flag", checked asText), ("timeout_secs", checked (asCount "u64"))]

/-- Read the engine. -/
def RawEngine.ofValue (v : Toml) : Except ShapeError RawEngine := do
  let members ← RawEngine.shape.members v
  RawEngine.shape.check members
  let some program ← optionalField members "program" asText
    | throw (RawEngine.shape.absent v "program")
  let args ← optionalField members "args" (asItems asText)
  let outputFlag ← optionalField members "output_flag" asText
  let timeoutSecs ← optionalField members "timeout_secs" (asCount "u64")
  return ⟨program, args.getD [], outputFlag, timeoutSecs⟩

/-! ### The harness -/

/-- Settings without any key. -/
def RawHarness.unset : RawHarness := ⟨none, none, none, none, none, none, false, none⟩

/-- The keys of the harness. -/
def RawHarness.shape : RecordShape where
  title := "RawHarness"
  fields := [("output_dir", checked asPath), ("suffix", checked asText), ("expect", checked asText),
    ("comparator", checked asText), ("diff_program", checked asText),
    ("diff_args", checked (asItems asText)), ("parallel", checked asFlag),
    ("jobs", checked (asCount "usize"))]

/-- Read the settings of the harness. -/
def RawHarness.ofValue (v : Toml) : Except ShapeError RawHarness := do
  let members ← RawHarness.shape.members v
  RawHarness.shape.check members
  let outputDir ← optionalField members "output_dir" asPath
  let suffix ← optionalField members "suffix" asText
  let expect ← optionalField members "expect" asText
  let comparator ← optionalField members "comparator" asText
  let diffProgram ← optionalField members "diff_program" asText
  let diffArgs ← optionalField members "diff_args" (asItems asText)
  let parallel ← optionalField members "parallel" asFlag
  let jobs ← optionalField members "jobs" (asCount "usize")
  return ⟨outputDir, suffix, expect, comparator, diffProgram, diffArgs, parallel.getD false, jobs⟩

/-! ### Cases -/

/-- The keys of a case. -/
def RawCase.shape : RecordShape where
  title := "RawCase"
  fields := [("name", checked asText), ("description", checked asText), ("root", checked asPath),
    ("reference", checked asPath), ("args", checked (asItems asText)), ("env", checked asTexts),
    ("setup", checked (asItems asText)), ("expect", checked asText)]

/-- Read a case. -/
def RawCase.ofValue (v : Toml) : Except ShapeError RawCase := do
  let members ← RawCase.shape.members v
  RawCase.shape.check members
  let some name ← optionalField members "name" asText | throw (RawCase.shape.absent v "name")
  let description ← optionalField members "description" asText
  let some root ← optionalField members "root" asPath | throw (RawCase.shape.absent v "root")
  let some reference ← optionalField members "reference" asPath
    | throw (RawCase.shape.absent v "reference")
  let args ← optionalField members "args" (asItems asText)
  let env ← optionalField members "env" asTexts
  let setup ← optionalField members "setup" (asItems asText)
  let expect ← optionalField members "expect" asText
  return ⟨name, description.getD "", root, reference, args.getD [], .ofList (env.getD []), setup,
    expect⟩

/-! ### The whole table -/

/-- The keys of a case table. -/
def RawConfig.shape : RecordShape where
  title := "RawConfig"
  fields := [("engine", checked RawEngine.ofValue), ("harness", checked RawHarness.ofValue),
    ("cases", checked (asItems RawCase.ofValue))]

/-- Read a case table. -/
def RawConfig.ofTable (members : Toml.Table) : Except ShapeError RawConfig := do
  RawConfig.shape.check members
  let some engine ← optionalField members "engine" RawEngine.ofValue
    | throw (.missingField "engine")
  let harness ← optionalField members "harness" RawHarness.ofValue
  let cases ← optionalField members "cases" (asItems RawCase.ofValue)
  return ⟨engine, harness.getD .unset, cases.getD []⟩

end GoldenCheck
