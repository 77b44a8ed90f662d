import GoldenCheck.Tools.Diff.Script
import GoldenCheck.Tools.Diff.Style

/-!
# Changes that belong together

Changes that are written together make a hunk. A `Hunk` knows which lines of the two files it covers.
Some changes do not matter (`isTrivial`); a hunk of such changes only is not written.

`lineText` is how one line is written after a mark.
-/

namespace GoldenCheck

namespace Tools

namespace Diff

/-- The lines of two files. -/
structure Sides where
  /-- The first file. -/
  first : Array Line
  /-- The second file. -/
  second : Array Line

/-- Some lines of a file. -/
structure Span where
  /-- The first of them, from 0. -/
  start : Nat
  /-- How many. -/
  count : Nat
  deriving DecidableEq, Repr

namespace Span

/-- The line after the last one. -/
def stop (s : Span) : Nat := s.start + s.count

/-- The number of the first line; that of the line before if there is none. -/
def firstNumber (s : Span) : Nat := if s.count = 0 then s.start else s.start + 1

/-- The lines of a span. -/
def lines (s : Span) (a : Array Line) : List Line := (a.extract s.start s.stop).toList

/-- The numbers of the first and the last line with something between them, or one number. -/
def range (separator : String) (s : Span) : String :=
  if 1 < s.count then toString (s.start + 1) ++ separator ++ toString s.stop
  else toString s.stop

/-- With more lines before and after it. -/
def widen (context : Nat) (a : Array Line) (s : Span) : Span :=
  let start := s.start - context
  ⟨start, min a.size (s.stop + context) - start⟩

end Span

/-- Changes that are written together. -/
structure Hunk where
  /-- The changes, in order. -/
  changes : List Change
  /-- The lines of the first file, from the first change to the last one. -/
  first : Span
  /-- The lines of the second file. -/
  second : Span
  /-- What became of the lines. -/
  fate : Fate

namespace Hunk

/-- The hunk of some changes. -/
def ofChanges (changes : List Change) : Hunk :=
  let deletes := changes.any (·.deleted ≠ 0)
  let inserts := changes.any (·.inserted ≠ 0)
  let fate : Fate := match deletes, inserts with
    | true, true => .changed
    | true, false => .old
    | false, true => .new
    | false, false => .unchanged
  match changes.head?, changes.getLast? with
  | some a, some b =>
    { changes, fate
      first := ⟨a.first, b.first + b.deleted - a.first⟩
      second := ⟨a.second, b.second + b.inserted - a.second⟩ }
  | _, _ => ⟨[], ⟨0, 0⟩, ⟨0, 0⟩, .unchanged⟩

/-- Some lines of the first file are in the hunk. -/
def hasOld (h : Hunk) : Bool := h.fate = .old || h.fate = .changed

/-- Some lines of the second file are in the hunk. -/
def hasNew (h : Hunk) : Bool := h.fate = .new || h.fate = .changed

/-- The letter for what became of the lines. -/
def letter (h : Hunk) : String :=
  match h.fate with
  | .old => "d"
  | .new => "a"
  | _ => "c"

end Hunk

/-- Changes of the line do not matter. -/
def isTrivialLine (s : Style) (l : Line) : Bool :=
  (s.ignoresBlankLines && (l.text.isEmpty || (s.rule.ignoresEnd && l.text.all isBlank)))
    || s.ignored.any fun r => r.occursIn (symbols l.text)

/-- The change does not matter. -/
def isTrivial (s : Style) (f : Sides) (c : Change) : Bool :=
  s.ignoresChanges
    && ((Span.mk c.first c.deleted).lines f.first
      ++ (Span.mk c.second c.inserted).lines f.second).all (isTrivialLine s)

/-- Each change in a hunk of its own, without those that do not matter. -/
def singleHunks (s : Style) (f : Sides) (changes : List Change) : List Hunk :=
  (changes.filter (!isTrivial s f ·)).map fun c => .ofChanges [c]

/-- Join changes with not many lines between them. -/
def joinChanges (context : Nat) : List (Change × Bool) → List (List (Change × Bool))
  | [] => []
  | c :: rest =>
    match joinChanges context rest with
    | [] => [[c]]
    | [] :: groups => [c] :: groups
    | (next :: group) :: groups =>
      let gap := next.1.first - (c.1.first + c.1.deleted)
      let limit := if next.2 then context else 2 * context + 1
      if gap < limit then (c :: next :: group) :: groups else [c] :: (next :: group) :: groups

/-- Changes in hunks, without hunks that do not matter. -/
def joinedHunks (s : Style) (f : Sides) (changes : List Change) : List Hunk :=
  let groups := joinChanges s.around (changes.map fun c => (c, isTrivial s f c))
  (groups.filter fun g => g.any (!·.2)).map fun g => .ofChanges (g.map (·.1))

/-- A byte can be seen. -/
def isVisible (b : UInt8) : Bool := 0x20 ≤ b && b ≤ 0x7E

/-- A text with blanks in place of tabs. A carriage return inside the text begins a new line, and so
the mark is written again. -/
def expanded (size : Nat) (mark : Bytes) : Nat → Bytes → Bytes
  | _, [] => []
  | column, b :: rest =>
    if b = 0x09 then
      let count := size - column % size
      List.replicate count 0x20 ++ expanded size mark (column + count) rest
    else if b = 0x0D then
      let again := if rest.isEmpty then [] else mark
      b :: again ++ expanded size mark 0 rest
    else if b = 0x08 then
      if column = 0 then expanded size mark 0 rest
      else b :: expanded size mark (column - 1) rest
    else b :: expanded size mark (if isVisible b then column + 1 else column) rest

/-- The text of a line as it is written. -/
def bodyText (s : Style) (mark : Bytes) (l : Line) : Bytes :=
  if s.writesBlanks then expanded s.tabs mark 0 l.text else l.text

/-- What is written after a last line without a line feed. -/
def lastNote : Bytes := bytes "\n\\ No newline at end of file\n"

/-- What is written after a line. -/
def lineEnd (l : Line) : Bytes := if l.isWhole then [0x0A] else lastNote

/-- A line after a mark, in a color if there is one. -/
def lineText (s : Style) (paint : Paint) (mark : String) (l : Line) : Bytes :=
  let isBare := s.bareEmpty && l.text.isEmpty && l.isWhole
  let gap := if s.startsWithTab then "\t" else " "
  let start := bytes (if isBare then (if mark = " " then "" else mark) else mark ++ gap)
  s.painted paint (start ++ bodyText s (bytes (mark ++ gap)) l) ++ lineEnd l

/-- A line without a mark, which needs none to be told from others. -/
def plainText (s : Style) (l : Line) : Bytes :=
  bodyText s [] l ++ (if l.isWhole then [0x0A] else [])

end Diff

end Tools

end GoldenCheck
