import GoldenCheck.Tools.Diff.Hunk

/-!
# Formats for changes

Each format writes hunks in its own way: `normal`, `editor`, `forward` and `counted` write the lines
of changes alone, `context` and `unified` with lines around them. The formats for two columns and
for merged files have modules of their own.
-/

namespace GoldenCheck

namespace Tools

namespace Diff

/-- One change: the numbers of the lines, then the lines. -/
def normal (s : Style) (f : Sides) (h : Hunk) : Bytes :=
  let old := if h.hasOld then (h.first.lines f.first).flatMap (lineText s .old "<") else []
  let new := if h.hasNew then (h.second.lines f.second).flatMap (lineText s .new ">") else []
  let between := if h.fate = .changed then bytes "---\n" else []
  s.painted .place (bytes (h.first.range "," ++ h.letter ++ h.second.range ","))
    ++ 0x0A :: old ++ between ++ new

/-! ### Commands -/

/-- The lines to be put in by an editor. A line with only a point would end them, so it is put in
with two of them, one of which is then taken away. -/
def editorLines (s : Style) : Bool → List Line → Bytes
  | inserts, [] => if inserts then bytes ".\n" else []
  | inserts, l :: rest =>
    let again := if inserts then [] else bytes "a\n"
    if l.text = bytes "." then again ++ bytes "..\n.\ns/.//\n" ++ editorLines s false rest
    else again ++ plainText s l ++ editorLines s true rest

/-- A command for a line editor. -/
def editor (s : Style) (f : Sides) (h : Hunk) : Bytes :=
  bytes (h.first.range "," ++ h.letter ++ "\n")
    ++ (if h.fate = .old then [] else editorLines s true (h.second.lines f.second))

/-- A command with its letter first. -/
def forward (s : Style) (f : Sides) (h : Hunk) : Bytes :=
  bytes (h.letter ++ h.first.range " " ++ "\n")
    ++ (if h.fate = .old then []
      else (h.second.lines f.second).flatMap (plainText s) ++ bytes ".\n")

/-- Commands that count lines. -/
def counted (s : Style) (f : Sides) (h : Hunk) : Bytes :=
  let old := if h.hasOld then
      bytes ("d" ++ toString (h.first.start + 1) ++ " " ++ toString h.first.count ++ "\n")
    else []
  let new := if h.hasNew then
      bytes ("a" ++ toString h.first.stop ++ " " ++ toString h.second.count ++ "\n")
        ++ (h.second.lines f.second).flatMap (plainText s)
    else []
  old ++ new

/-! ### Lines around changes -/

/-- The last line before another that tells where a change is, but not before a line that was
searched before. -/
def headingBefore (s : Style) (a : Array Line) (last line : Nat) : Option Nat :=
  ((List.range' last (line - last)).reverse).find? fun k =>
    match a[k]? with
    | some l => s.headings.any fun r => r.occursIn (symbols l.text)
    | none => false

/-- Where each hunk is: the line that tells it. -/
def headings (s : Style) (f : Sides) : Nat → Option Nat → List Hunk → List (Option Nat)
  | _, _, [] => []
  | last, found, h :: rest =>
    let line := (h.first.widen s.around f.first).start
    let found := headingBefore s f.first last line <|> found
    found :: headings s f line found rest

/-- How many bytes of a heading are shown. -/
def headingLength : Nat := 40

/-- A heading as it is shown. -/
def headingText (f : Sides) (heading : Option Nat) : Bytes :=
  match heading.bind (f.first[·]?) with
  | none => []
  | some l =>
    0x20 :: trimEnd ((l.text.dropWhile isBlank).take headingLength)

/-- The lines of one file in a hunk with lines around it. A line is marked by `mark` if the other
file has nothing in its place. -/
def contextLines (s : Style) (paint : Paint) (a : Array Line) (span : Span) (mark : String)
    (changes : List (Span × Bool)) : Bytes :=
  (List.range' span.start span.count).flatMap fun k =>
    let change := changes.find? fun (c, _) => k < c.stop
    let flag := match change with
      | some (c, isReplaced) => if c.start ≤ k then (if isReplaced then "!" else mark) else " "
      | none => " "
    match a[k]? with
    | some l => lineText s paint flag l
    | none => []

/-- A hunk with lines around it, one file after the other. -/
def context (s : Style) (f : Sides) (heading : Option Nat) (h : Hunk) : Bytes :=
  let first := h.first.widen s.around f.first
  let second := h.second.widen s.around f.second
  let old := h.changes.map fun c => (Span.mk c.first c.deleted, c.inserted != 0)
  let new := h.changes.map fun c => (Span.mk c.second c.inserted, c.deleted != 0)
  bytes "***************" ++ headingText f heading
    ++ 0x0A :: s.painted .place (bytes ("*** " ++ first.range "," ++ " ****"))
    ++ 0x0A :: (if h.hasOld then contextLines s .old f.first first "-" old else [])
    ++ s.painted .place (bytes ("--- " ++ second.range "," ++ " ----"))
    ++ 0x0A :: (if h.hasNew then contextLines s .new f.second second "+" new else [])

/-- A line with its mark right before it. -/
def unifiedLine (s : Style) (paint : Option Paint) (mark : String) (l : Line) : Bytes :=
  let isBare := s.bareEmpty && l.text.isEmpty && l.isWhole
  let start :=
    if mark = " " then (if isBare then "" else if s.startsWithTab then "\t" else " ")
    else if s.startsWithTab ∧ !isBare then mark ++ "\t" else mark
  s.maybePainted paint (bytes start ++ bodyText s [] l) ++ lineEnd l

/-- The numbers of lines in a hunk. -/
def unifiedRange (s : Span) : String :=
  if s.count = 1 then toString s.stop
  else toString s.firstNumber ++ "," ++ toString s.count

/-- The lines from one on up to another, with changes between them. -/
def unifiedLines (s : Style) (f : Sides) (stop : Nat) : Nat → List Change → Bytes
  | k, [] => ((Span.mk k (stop - k)).lines f.first).flatMap (unifiedLine s none " ")
  | k, c :: rest =>
    ((Span.mk k (c.first - k)).lines f.first).flatMap (unifiedLine s none " ")
      ++ ((Span.mk c.first c.deleted).lines f.first).flatMap (unifiedLine s (some .old) "-")
      ++ ((Span.mk c.second c.inserted).lines f.second).flatMap (unifiedLine s (some .new) "+")
      ++ unifiedLines s f stop (c.first + c.deleted) rest

/-- A hunk with lines around it, once. -/
def unified (s : Style) (f : Sides) (heading : Option Nat) (h : Hunk) : Bytes :=
  let first := h.first.widen s.around f.first
  let second := h.second.widen s.around f.second
  s.painted .place (bytes ("@@ -" ++ unifiedRange first ++ " +" ++ unifiedRange second ++ " @@"))
    ++ headingText f heading ++ [0x0A]
    ++ unifiedLines s f first.stop first.start h.changes

end Diff

end Tools

end GoldenCheck
