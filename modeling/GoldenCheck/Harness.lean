import GoldenCheck.Attempt
import GoldenCheck.Comparator
import GoldenCheck.Desk
import GoldenCheck.Engine
import GoldenCheck.Outcome

/-!
# What a run needs from its surroundings

A run makes reports, compares them, describes differences, removes reports that are no longer
wanted, and tells whoever watches it how it goes. A `Harness` says how each of these is done in
worlds of some type `W`; the rest of a run does not know what a world is. `Harness.atDesk` is the
harness that runs an engine and works with files.
-/

namespace GoldenCheck

/-- How the steps of a run are done in worlds of type `W`. -/
structure Harness (W : Type) where
  /-- Make the report of a case at a path. -/
  generate : TestCase → Path → W → Attempt GenerationError Unit × W
  /-- Compare a report with a reference. -/
  compare : Path → Path → W → Attempt ComparisonError ContentMatch × W
  /-- Describe how a report differs from a reference. -/
  describe : Path → Path → W → Attempt Empty (Option String) × W
  /-- Remove a report; it does not matter whether that succeeds. -/
  remove : Path → W → W
  /-- Tell whoever watches the run. -/
  tell : RunEvent → W → W

namespace Desk

/-- What lies at a path. -/
def look (d : Desk) (p : Path) : FileState := d.world.look p

/-- Remove a file, if that can be done. -/
def remove (p : Path) (d : Desk) : Desk :=
  match d.world.remove p with
  | .ok world => { d with world }
  | .error _ => d

/-- Run a program for a desk. -/
def launch (start : Launcher World) : Launcher Desk := fun request d =>
  let (result, world) := start request d.world
  (result, { d with world })

/-- Compare as a case table says. -/
def compare (start : Launcher World) (choice : ComparatorChoice) (generated reference : Path)
    (d : Desk) : Attempt ComparisonError ContentMatch × Desk :=
  match choice with
  | .inProcess => (.ofExcept (Comparator.inMemory d.look generated reference), d)
  | .tool program args =>
    let (r, d) := Comparator.byTool Desk.look (launch start) program args generated reference d
    (.ofExcept r, d)

end Desk

/-- The harness that starts programs by a launcher, and says what a style of report has to say. -/
def Harness.atDesk (start : Launcher World) (engine : EngineSettings) (choice : ComparatorChoice)
    (say : RunEvent → Desk → Desk) : Harness Desk where
  generate := Engine.generateCase start engine
  compare := Desk.compare start choice
  describe generated reference d := (.done (Comparator.describe d.look generated reference), d)
  remove := Desk.remove
  tell := say

end GoldenCheck
