import GoldenCheck.Desk

/-!
# The log

Beside what it has to say, the program keeps a log of how it goes. A `LogRecord` says how much something
matters, what it is, and with which values. What is written of a record is up to a `Logger`: it sets the text,
and writes nothing of what it is not to show. What it writes goes to the standard error.

Only two records have a place here, those of loading a case table (`LogRecord.loaded`) and of entering its
directory (`LogRecord.entered`). They alone know by which path the table was called. What is recorded later,
about setup commands, engines, comparisons and the states of cases, is left out.
-/

namespace GoldenCheck

/-- How much a record matters. -/
inductive LogLevel where
  /-- Something is wrong. -/
  | error
  /-- Something may be wrong. -/
  | warn
  /-- This is worth knowing. -/
  | info
  /-- This helps to find out what went on. -/
  | debug
  deriving DecidableEq, Repr

/-- Something that is recorded. -/
structure LogRecord where
  /-- How much it matters. -/
  level : LogLevel
  /-- What it is. -/
  message : String
  /-- The values that belong to it, by their names. -/
  fields : List (String × String)
  deriving DecidableEq, Repr

namespace LogRecord

/-- A case table with so many cases was loaded. -/
def loaded (path : Path) (cases : Nat) : LogRecord :=
  ⟨.debug, "loaded case table", [("path", path.display), ("cases", toString cases)]⟩

/-- A directory was made the current one. -/
def entered (directory : Path) : LogRecord :=
  ⟨.debug, "changed working directory", [("dir", directory.display)]⟩

end LogRecord

/-- What is written of a record; nothing, if it is not shown. -/
abbrev Logger := LogRecord → Bytes

namespace Logger

/-- Write nothing. -/
def off : Logger := fun _ => []

/-- Write records in some way, but those that help to find out what went on only where more is to be told. This is
how records are written unless the environment says something else. -/
def usual (verbose : Bool) (write : LogRecord → Bytes) : Logger := fun r =>
  if r.level = .debug ∧ ¬ verbose then [] else write r

/-- The usual log tells nothing of how a case table was loaded, unless more is to be told. -/
theorem usual_of_debug (write : LogRecord → Bytes) {r : LogRecord} (h : r.level = .debug) :
    usual false write r = [] := if_pos ⟨h, Bool.false_ne_true⟩

end Logger

/-- Write what there is to write of some records. -/
def Desk.log (log : Logger) (records : List LogRecord) (d : Desk) : Desk :=
  { d with errors := d.errors ++ records.flatMap log }

end GoldenCheck
