import GoldenCheck.Text.Lines

/-!
# Line differences

Two texts are compared line by line, position by position. `lineDifferences` lists the positions
at which they differ, each with the line of either side (none past the end of that side), and the
other functions of this module only read that list: `firstDifference` its head and its length,
`renderDiff` its beginning.

Texts with the same lines can still differ, in line terminators or at the very end. Such a
difference has no line of its own and is placed after the last one.
-/

namespace GoldenCheck

/-- A position at which two texts have different lines. -/
structure LineChange where
  /-- The line number, from 1. -/
  line : Nat
  /-- The line of the reference, if it reaches that far. -/
  expected : Option String
  /-- The line of the report, if it reaches that far. -/
  actual : Option String
  deriving DecidableEq, Repr

/-- The first difference between two texts. -/
structure LineDifference where
  /-- The line number, from 1. -/
  line : Nat
  /-- The line of the reference, if it reaches that far. -/
  expected : Option String
  /-- The line of the report, if it reaches that far. -/
  actual : Option String
  /-- At how many positions the texts differ. -/
  differingLines : Nat
  deriving DecidableEq, Repr

/-- The lines of two texts side by side, with their numbers. -/
def sideBySide (expected actual : List String) : List LineChange :=
  ((List.zipWithAll Prod.mk expected actual).zipIdx 1).map fun x => ⟨x.2, x.1.1, x.1.2⟩

/-- The positions at which two texts have different lines, in order. -/
def lineDifferences (expected actual : String) : List LineChange :=
  (sideBySide (linesOf expected) (linesOf actual)).filter fun c => c.expected ≠ c.actual

/-- The first difference between two texts; none when they are equal. -/
def firstDifference (expected actual : String) : Option LineDifference :=
  if expected = actual then none
  else match lineDifferences expected actual with
    | c :: cs => some ⟨c.line, c.expected, c.actual, cs.length + 1⟩
    | [] => some ⟨max (linesOf expected).length (linesOf actual).length + 1, none, none, 1⟩

/-- The sentence that tells where two texts first differ. -/
def LineDifference.sentence (d : LineDifference) : String :=
  s!"first difference at line {d.line} ({d.differingLines} differing line(s))"

/-- A number in at least four places, set to the right. -/
def paddedNumber (n : Nat) : String :=
  let digits := toString n
  String.ofList (List.replicate (4 - digits.length) ' ') ++ digits

/-- One side of a change: a sign, the line number and the line. -/
def diffRow (sign : Char) (line : Nat) (body : String) : String :=
  String.ofList [sign] ++ paddedNumber line ++ " | " ++ body ++ "\n"

/-- A change as text: the reference's line, then the report's. -/
def LineChange.render (c : LineChange) : String :=
  ((c.expected.map (diffRow '-' c.line)).getD "") ++ ((c.actual.map (diffRow '+' c.line)).getD "")

/-- At most `limit` changes between two texts, then how many more there are. -/
def renderDiff (expected actual : String) (limit : Nat) : String :=
  let changes := lineDifferences expected actual
  let omitted := changes.length - limit
  String.join ((changes.take limit).map LineChange.render)
    ++ (if omitted > 0 then s!"... {omitted} more differing line(s)\n" else "")

end GoldenCheck
