import GoldenCheck.Path.Derived
import GoldenCheck.Policy

/-!
# Cases

A case pairs a root, for which the engine makes a report, with the reference that the report is
compared with. `Environment` holds the variables a case sets, in order of their names.
-/

namespace GoldenCheck

/-- Variables and their values, one value for a name, in order of the names. -/
structure Environment where
  /-- The names with their values. -/
  bindings : List (String × String)
  deriving DecidableEq, Repr

namespace Environment

/-- No variables. -/
def empty : Environment := ⟨[]⟩

/-- Put a binding at its place among sorted bindings, instead of one of the same name. -/
def insertSorted (name value : String) : List (String × String) → List (String × String)
  | [] => [(name, value)]
  | (n, v) :: rest =>
    if name = n then (name, value) :: rest
    else if name < n then (name, value) :: (n, v) :: rest
    else (n, v) :: insertSorted name value rest

/-- Set a variable. -/
def insert (env : Environment) (name value : String) : Environment :=
  ⟨insertSorted name value env.bindings⟩

/-- The variables of a list of settings; of two settings of one name the later counts. -/
def ofList (settings : List (String × String)) : Environment :=
  settings.foldl (fun env s => env.insert s.1 s.2) empty

end Environment

/-- A root and the reference for its report, with what is special about making it. -/
structure TestCase where
  /-- What the case is called; no two cases of a table share a name. -/
  name : String
  /-- One line about the case. -/
  description : String := ""
  /-- What the engine analyses. -/
  root : Path
  /-- The report to compare with. -/
  reference : Path
  /-- Arguments for the engine, after the root. -/
  args : List String := []
  /-- Variables for the engine and for the setup command. -/
  env : Environment := .empty
  /-- A command that runs before the engine: a program and its arguments. -/
  setup : Option (List String) := none
  /-- What the case expects, when that is not left to the run. -/
  expect : Option Expectation := none
  deriving DecidableEq, Repr

namespace TestCase

/-- The expectation by which a case is judged. -/
def expectation (c : TestCase) (default : Expectation) : Expectation :=
  c.expect.getD default

/-- Where the report of a case goes, below a directory for reports. -/
def outputPath (c : TestCase) (outputDir : Path) (suffix : String) : Path :=
  outputDir.join (Path.derive c.root c.reference suffix)

end TestCase

end GoldenCheck
