import GoldenCheck.Text.Utf8
import Std.Data.HashMap

/-!
# Lines that count as equal

Two files are compared line by line. Which lines count as equal is the matter of a `LineRule`: it may
leave out blanks, or the difference between upper and lower case. `LineRule.key` is what it leaves of
a line; lines with one key are equal. `classes` gives a number to each key.
-/

namespace GoldenCheck

namespace Tools

namespace Diff

/-- A line. -/
structure Line where
  /-- Its bytes without the line feed. -/
  text : Bytes
  /-- A line feed ends it. -/
  isWhole : Bool
  deriving DecidableEq, Repr, Hashable, Inhabited

namespace Line

/-- All the bytes of a line. -/
def bytes (l : Line) : Bytes := if l.isWhole then l.text ++ [0x0A] else l.text

end Line

/-- Bytes cut at line feeds. -/
def splitLines (bs : Bytes) : List Bytes :=
  let (lines, last) := bs.foldr (fun b (lines, line) =>
    if b = 0x0A then (line :: lines, []) else (lines, b :: line)) (([] : List Bytes), ([] : Bytes))
  last :: lines

/-- The lines of a content. The last one may have no line feed. -/
def linesOf (content : Bytes) : List Line :=
  let parts := splitLines content
  let whole := parts.dropLast.map fun text => { text, isWhole := true : Line }
  match parts.getLast? with
  | none | some [] => whole
  | some text => whole ++ [⟨text, false⟩]

/-- A line without a carriage return before its line feed. -/
def Line.withoutReturn (l : Line) : Line :=
  if l.isWhole ∧ l.text.getLast? = some 0x0D then { l with text := l.text.dropLast } else l

/-- How much of the blanks in a line counts. -/
inductive Blanks where
  /-- All of them. -/
  | all
  /-- All of them, but a tab counts as the blanks that it stands for. -/
  | tabs
  /-- All but those at the end of a line. -/
  | last
  /-- It counts where there are some, but not at the end of a line. -/
  | place
  /-- None of them. -/
  | none
  deriving DecidableEq, Repr

/-- Which lines count as equal. -/
structure LineRule where
  /-- How much of the blanks counts. -/
  blanks : Blanks := .all
  /-- Upper and lower case are the same. -/
  ignoresCase : Bool := false
  /-- How far apart tab stops are. -/
  tabSize : Nat := 8
  deriving DecidableEq, Repr

/-- A byte is a blank. -/
def isBlank (b : UInt8) : Bool := b = 0x20 || (0x09 ≤ b && b ≤ 0x0D)

/-- A byte in lower case. -/
def lower (b : UInt8) : UInt8 := if 0x41 ≤ b ∧ b ≤ 0x5A then b + 0x20 else b

/-- A text without blanks at its end. -/
def trimEnd (text : Bytes) : Bytes := (text.reverse.dropWhile isBlank).reverse

/-- A text with one blank in place of several. -/
def squeeze : Bytes → Bytes
  | [] => []
  | b :: rest =>
    if isBlank b then
      match rest with
      | [] => []
      | c :: _ => if isBlank c then squeeze rest else 0x20 :: squeeze rest
    else b :: squeeze rest

/-- A text with blanks in place of tabs, from a column on. -/
def expandTabs (size : Nat) : Nat → Bytes → Bytes
  | _, [] => []
  | column, b :: rest =>
    if b = 0x09 then
      let count := size - column % size
      List.replicate count 0x20 ++ expandTabs size (column + count) rest
    else if b = 0x08 then b :: expandTabs size (column - 1) rest
    else if b = 0x0D then b :: expandTabs size 0 rest
    else b :: expandTabs size (column + 1) rest

namespace LineRule

/-- Blanks at the end of a line do not count. -/
def ignoresEnd (r : LineRule) : Bool :=
  match r.blanks with
  | .all | .tabs => false
  | .last | .place | .none => true

/-- What a rule leaves of a text. -/
def keyText (r : LineRule) (text : Bytes) : Bytes :=
  let text := match r.blanks with
    | .all => text
    | .tabs => expandTabs r.tabSize 0 text
    | .last => trimEnd text
    | .place => squeeze text
    | .none => text.filter (!isBlank ·)
  if r.ignoresCase then text.map lower else text

/-- What a rule leaves of a line. A line without a line feed is equal to one that has it only if
blanks at the end of a line do not count. -/
def key (r : LineRule) (l : Line) : Line := ⟨r.keyText l.text, l.isWhole || r.ignoresEnd⟩

end LineRule

/-- Give numbers to keys: those that have none get the next one. -/
def number (known : Std.HashMap Line Nat) (keys : List Line) : Std.HashMap Line Nat × List Nat :=
  let (known, numbers) := keys.foldl (fun (known, numbers) key =>
    match known[key]? with
    | some n => (known, n :: numbers)
    | none => (known.insert key known.size, known.size :: numbers)) (known, ([] : List Nat))
  (known, numbers.reverse)

/-- The numbers of the keys of lines of two files. -/
def classes (r : LineRule) (a b : List Line) : List Nat × List Nat :=
  let (known, as) := number {} (a.map r.key)
  let (_, bs) := number known (b.map r.key)
  (as, bs)

end Diff

end Tools

end GoldenCheck
