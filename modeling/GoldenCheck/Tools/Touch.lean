import GoldenCheck.Time.DatePhrase
import GoldenCheck.Tools.Basic

/-!
# `touch`

`touch` makes files that are missing, and marks those that there are as changed now, or at a time
that it is given: in digits (`stamp?`), by a phrase, or by a file that has it. It can mark them as
only read, too, but nothing can tell when a file was read.
-/

namespace GoldenCheck

namespace Tools

namespace Touch

/-- Where the time comes from, and what is marked. -/
structure Style where
  /-- No file is made. -/
  makesNone : Bool := false
  /-- Links are not followed, and no file is made. -/
  keepsLinks : Bool := false
  /-- Files are marked as read. -/
  marksRead : Bool := false
  /-- Files are marked as changed. -/
  marksChanged : Bool := false
  /-- The time that was given in digits. -/
  stamp : Option Int := none
  /-- A phrase for the time. -/
  phrase : Option Bytes := none
  /-- A file that has the time. -/
  model : Option Bytes := none
  deriving DecidableEq, Repr

/-- The times of a file; whether each one tells when it was read. -/
def times : List (String × Bool) :=
  [("atime", true), ("access", true), ("use", true), ("mtime", false), ("modify", false)]

/-- The characters of a text that are in ASCII; others become ones that mean nothing. -/
def letters (text : Bytes) : List Char := text.map fun b => Char.ofNat b.toNat

/-- Digits in pairs. -/
def pairs? : List Char → Option (List Int)
  | [] => some []
  | a :: b :: rest => do
    if !a.isDigit ∨ !b.isDigit then none
    return (numberOf 10 [a, b] : Int) :: (← pairs? rest)
  | [_] => none

/-- A time in digits: a year with two or four digits or none, then month, day, hour and minute, and
perhaps seconds after a point. The second after the last one of a minute may be told as its
sixty-first. -/
def stamp? (thisYear : Int) (text : List Char) : Option Int := do
  let (front, back) := text.span (· ≠ '.')
  let seconds ← match back with
    | [] => some 0
    | [_, a, b] => (← pairs? [a, b]).head?
    | _ => none
  let stamp (year month day hour minute : Int) : Option Int :=
    let t : CivilTime := { year, month, day, hour, minute, second := seconds }
    if t.exists? ∨ seconds = 60 ∧ ({ t with second := 59 } : CivilTime).exists? then
      some (secondNanos * t.seconds)
    else none
  match ← pairs? front with
  | [month, day, hour, minute] => stamp thisYear month day hour minute
  | [year, month, day, hour, minute] =>
    stamp (year + if year < 69 then 2000 else 1900) month day hour minute
  | [century, year, month, day, hour, minute] => stamp (100 * century + year) month day hour minute
  | _ => none

/-- One more option. -/
def Style.option (s : Style) (key : String) (argument : Bytes) : ToolM Style :=
  match key with
  | "c" => return { s with makesNone := true }
  | "a" => return { s with marksRead := true }
  | "d" => return { s with phrase := some argument }
  | "m" => return { s with marksChanged := true }
  | "h" => return { s with keepsLinks := true }
  | "r" => return { s with model := some argument }
  | "t" => do
    let now ← call (Task.look (·.exactNow))
    match stamp? (CivilTime.ofSeconds (now / secondNanos)).year (letters argument) with
    | some stamp => return { s with stamp := some stamp }
    | none => stop (bytes "invalid date format " ++ curlyQuoted argument)
  | "time" => do
    if ← choose "--time" times argument then return { s with marksRead := true }
    return { s with marksChanged := true }
  | _ => return s

/-- The options. -/
def options : OptionTable where
  letters := [('a', .nothing), ('c', .nothing), ('d', .argument), ('f', .nothing), ('h', .nothing),
    ('m', .nothing), ('r', .argument), ('t', .argument)]
  names := [("time", .argument, "time"), ("no-create", .nothing, "c"), ("date", .argument, "d"),
    ("reference", .argument, "r"), ("no-dereference", .nothing, "h"), ("help", .nothing, "help"),
    ("version", .nothing, "version")]

/-- The time that files are marked with; none for the time now. -/
def Style.time (s : Style) : ToolM (Option Int) := do
  if s.stamp.isSome ∧ (s.model.isSome ∨ s.phrase.isSome) then
    misused (bytes "cannot specify times from more than one source")
  let base ← match s.model with
    | none => pure none
    | some model =>
      match ← call (Task.look fun m => (m.places.lookup ⟨model⟩).map fun (l, _) => m.timeOf l) with
      | .ok time => pure (some time)
      | .error e =>
        stop (bytes "failed to get attributes of " ++ alwaysQuoted model
          ++ bytes (": " ++ e.words))
  match s.phrase with
  | none => return base <|> s.stamp
  | some phrase => do
    let now ← call (Task.look (·.exactNow))
    let start := base.getD now
    match timeOfPhrase? start (letters phrase) with
    | none => stop (bytes "invalid date format " ++ curlyQuoted phrase)
    | some time =>
      let isNow := base.isNone && s.marksRead = s.marksChanged && time = now
      return if isNow then none else some time

/-- Mark what lies at a location, if changes are marked. -/
def mark (s : Style) (time : Option Int) (l : Location) (w : World) : World :=
  if s.marksRead ∧ !s.marksChanged then w
  else { w with tree := w.tree.setTime l (FileTree.nearest (time.getD w.tree.now)) }

/-- Mark one file. -/
def touchFile (s : Style) (time : Option Int) (name : Bytes) : ToolM Nat := do
  if name = bytes "-" then
    match ← call (Task.look fun m => m.openFile? outputDescriptor) with
    | some (_, { stream := .file l, .. }) =>
      call (Task.change fun m => m.changeWorld (mark s time l m.world))
      return 0
    | some _ => return 0
    | none => do
      if s.makesNone then return 0
      complain (bytes ("setting times of '-': " ++ SystemError.badDescriptor.words))
      return 1
  let w ← call (Task.look (·.world))
  let opened := if s.makesNone ∨ s.keepsLinks then .ok w
    else (w.openToWrite ⟨name⟩ true).map (·.2)
  let current := match opened with
    | .ok w => w
    | .error _ => w
  match current.lookup ⟨name⟩, opened with
  | .ok (l, _), _ =>
    call (Task.change fun m => m.changeWorld (mark s time l current))
    return 0
  | .error missing, .ok _ => do
    if s.makesNone ∧ missing = .notFound then return 0
    complain (bytes "setting times of " ++ alwaysQuoted name ++ bytes (": " ++ missing.words))
    return 1
  | .error missing, .error cause => do
    let (what, e) := if cause = .isADirectory then ("setting times of ", missing)
      else ("cannot touch ", cause)
    complain (bytes what ++ alwaysQuoted name ++ bytes (": " ++ e.words))
    return 1

end Touch

/-- The tool that marks files as changed. -/
def touch : Tool Touch.Style where
  options := Touch.options
  initial := {}
  option s key argument := s.option key (argument.getD [])
  work s operands := do
    let time ← s.time
    if operands.isEmpty then misused (bytes "missing file operand")
    forEach operands (Touch.touchFile s time)

end Tools

end GoldenCheck
