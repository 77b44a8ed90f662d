import GoldenCheck.Bless
import GoldenCheck.Verification.Run

/-!
# Rehearsals

A rehearsal is a run whose engine or comparator may follow a script instead of looking at anything.
A scripted engine looks up what to do by the root of a case or by its name, and each of its calls is
kept. What the run tells is kept as well.
-/

namespace GoldenCheck

/-- What a scripted engine does when it is called. -/
structure ScriptedRule where
  /-- The report that it writes first, if it writes one. -/
  report : Option Bytes
  /-- How the call ends then. -/
  ending : Attempt GenerationError Unit
  deriving DecidableEq, Repr

/-- An engine that follows a script. -/
structure ScriptedEngine where
  /-- Rules are looked up by the name of the case, and not by the root. -/
  byName : Bool
  /-- The rules by their keys. -/
  rules : List (String × ScriptedRule)
  deriving DecidableEq, Repr

/-- A call of a scripted engine. -/
structure EngineCall where
  /-- The key by which its rule was looked up. -/
  key : String
  /-- The root. -/
  root : Path
  /-- Where the report was to go. -/
  output : Path
  deriving DecidableEq, Repr

/-- A comparator that follows a script. -/
structure ScriptedComparator where
  /-- What it finds. -/
  finding : Attempt ComparisonError ContentMatch
  /-- How it describes a difference, if not as other comparators do. -/
  description : Option (Option String)
  deriving DecidableEq, Repr

/-- The engine of a rehearsal. -/
inductive EngineChoice where
  /-- A program. -/
  | program (settings : EngineSettings)
  /-- A script. -/
  | script (engine : ScriptedEngine)
  deriving DecidableEq, Repr

/-- The comparator of a rehearsal. -/
inductive JudgeChoice where
  /-- One that looks at the files. -/
  | files (choice : ComparatorChoice)
  /-- A script. -/
  | script (comparator : ScriptedComparator)
  deriving DecidableEq, Repr

/-- A desk, and what is kept of a rehearsal. -/
structure Rehearsal where
  /-- The desk. -/
  desk : Desk
  /-- The calls of scripted engines, newest first. -/
  calls : List EngineCall
  /-- What the run told, newest first. -/
  events : List RunEvent
  deriving DecidableEq, Repr

namespace Rehearsal

/-- Do something at the desk. -/
def atDesk (f : Desk → α × Desk) (r : Rehearsal) : α × Rehearsal :=
  let (a, desk) := f r.desk
  (a, { r with desk })

/-- Put a report at a place, and make the directories on the way to it. -/
def putReport (output : Path) (content : Bytes) (d : Desk) : Desk :=
  let (_, world) := d.world.makeAllDirectories (output.parent?.getD ⟨[]⟩)
  match world.write output content with
  | .ok world => { d with world }
  | .error _ => { d with world }

/-- The calls in order of their keys, roots and outputs. -/
def sortedCalls (r : Rehearsal) : List EngineCall :=
  let before (a b : EngineCall) : Bool :=
    (compare (Utf8.encode a.key) (Utf8.encode b.key)).then
      ((compare a.root.bytes b.root.bytes).then (compare a.output.bytes b.output.bytes)) != .gt
  r.calls.reverse.mergeSort before

/-- The events in the order in which they were told. -/
def told (r : Rehearsal) : List RunEvent := r.events.reverse

end Rehearsal

namespace ScriptedEngine

/-- The failure of a call that no rule is for. -/
def noRule (root : Path) : GenerationError := .invalidRoot root "no rule"

/-- Be called with a key. -/
def call (engine : ScriptedEngine) (key : String) (root output : Path) (r : Rehearsal) :
    Attempt GenerationError Unit × Rehearsal :=
  let r := { r with calls := ⟨key, root, output⟩ :: r.calls }
  match engine.rules.lookup key with
  | none => (.failed (noRule root), r)
  | some rule =>
    let desk := match rule.report with
      | some content => Rehearsal.putReport output content r.desk
      | none => r.desk
    (rule.ending, { r with desk })

end ScriptedEngine

namespace EngineChoice

/-- Make the report of a case. -/
def generateCase (start : Launcher World) (engine : EngineChoice) (c : TestCase) (output : Path)
    (r : Rehearsal) : Attempt GenerationError Unit × Rehearsal :=
  match engine with
  | .program settings => r.atDesk (Engine.generateCase start settings c output)
  | .script e => e.call (if e.byName then c.name else c.root.display) c.root output r

/-- Make a report for a root that belongs to no case. -/
def generate (start : Launcher World) (engine : EngineChoice) (root output : Path)
    (r : Rehearsal) : Attempt GenerationError Unit × Rehearsal :=
  match engine with
  | .program settings => r.atDesk (Engine.generate start settings root output)
  | .script e => e.call (if e.byName then "" else root.display) root output r

end EngineChoice

namespace JudgeChoice

/-- Compare a report with a reference. -/
def compare (start : Launcher World) (judge : JudgeChoice) (generated reference : Path)
    (r : Rehearsal) : Attempt ComparisonError ContentMatch × Rehearsal :=
  match judge with
  | .files choice => r.atDesk (Desk.compare start choice generated reference)
  | .script s => (s.finding, r)

/-- Describe how a report differs from a reference. -/
def describe (judge : JudgeChoice) (generated reference : Path) (r : Rehearsal) : Option String :=
  let usual := Comparator.describe r.desk.look generated reference
  match judge with
  | .files _ => usual
  | .script s => s.description.getD usual

end JudgeChoice

/-- The harness of a rehearsal. -/
def Harness.rehearsal (start : Launcher World) (engine : EngineChoice) (judge : JudgeChoice) :
    Harness Rehearsal where
  generate := engine.generateCase start
  compare := judge.compare start
  describe generated reference r := (.done (judge.describe generated reference r), r)
  remove p r := { r with desk := r.desk.remove p }
  tell e r := { r with events := e :: r.events }

end GoldenCheck
