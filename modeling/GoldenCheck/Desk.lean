import GoldenCheck.Clock
import GoldenCheck.Files.World

/-!
# Where the program works

A `Desk` is what a run of the program works on: the files, a clock, and what it has said so far on
either of its outputs.
-/

namespace GoldenCheck

/-- Files, a clock, and what was said. -/
structure Desk where
  /-- The files. -/
  world : World
  /-- What the clock shows. -/
  now : Instant
  /-- What was written to the standard output. -/
  output : Bytes
  /-- What was written to the standard error. -/
  errors : Bytes
  deriving DecidableEq, Repr

namespace Desk

/-- A desk on which nothing was said yet. -/
def ofWorld (world : World) (now : Instant) : Desk := ⟨world, now, [], []⟩

/-- Say something on the standard output. -/
def print (d : Desk) (text : String) : Desk := { d with output := d.output ++ Utf8.encode text }

/-- Say something on the standard error. -/
def complain (d : Desk) (text : String) : Desk := { d with errors := d.errors ++ Utf8.encode text }

end Desk

end GoldenCheck
