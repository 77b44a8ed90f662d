import GoldenCheck.Shell.Expansion

/-!
# Fields

An expansion is cut into fields at separators (`Expansion.fields`). Of the separators, blanks are
special: they do not count at the beginning of a field, and many of them count as one. A field that
is a pattern becomes the paths of files (`Shell.arguments`).

The text that a shell reads for some variables is cut by almost the same rules (`fieldsFor`).
-/

namespace GoldenCheck

namespace Shell

/-- How a stretch of cells is cut. -/
inductive Seams where
  /-- It is not cut. -/
  | none
  /-- It is cut at separators, of which blanks are special. -/
  | separators
  /-- It is cut at separators. -/
  | allSeparators
  /-- It is cut between arguments. -/
  | arguments
  deriving DecidableEq, Repr

/-- The cells of an expansion in stretches. After a stretch that is cut between arguments no
separators are special. -/
def Expansion.stretches (e : Expansion) : List (Seams × List Cell) :=
  go 0 false e.cells e.regions.reverse
where
  /-- Go on with the cells from a place on. -/
  go (start : Nat) (afterArguments : Bool) (cells : List Cell) :
      List Region → List (Seams × List Cell)
    | [] => [(.none, cells)]
    | r :: rest =>
      let (before, cells) := cells.splitAt (r.start - start)
      let (inside, cells) := cells.splitAt (r.stop - r.start)
      let seams : Seams :=
        if r.betweenArguments then .arguments
        else if afterArguments then .allSeparators else .separators
      (.none, before) :: (seams, inside) :: go r.stop r.betweenArguments cells rest

/-- Fields, and how far they are cut. -/
structure Cutting where
  /-- The fields that are finished, the last one first. -/
  done : List (List Cell) := []
  /-- The next field, its last cell first. -/
  current : List Cell := []
  /-- Blanks are passed over after a field; and, if so, one other separator as well. -/
  passing : Option Bool := none

namespace Cutting

/-- The next field is finished. -/
def close (k : Cutting) (passing : Option Bool) : Cutting :=
  ⟨k.current.reverse :: k.done, [], passing⟩

/-- One more cell of the next field. -/
def add (k : Cutting) (c : Cell) : Cutting := { k with current := c :: k.current, passing := none }

/-- What stands between arguments. -/
def isBoundary (c : Cell) : Bool := c.char? == some '\x00'

/-- A cell is a separator. -/
def isSeparator (separators : Chars) (c : Cell) : Bool :=
  isBoundary c || c.char?.any separators.contains

/-- A separator is a blank. -/
def isBlank (c : Cell) : Bool := isBoundary c || c.char?.any defaultSeparators.contains

/-- Take a cell where blanks are special. -/
def step (separators : Chars) (k : Cutting) (c : Cell) : Cutting :=
  if !isSeparator separators c then k.add c
  else
    let isPassed := match k.passing with
      | some passesOther => isBlank c || passesOther
      | none => isBlank c && k.current.isEmpty
    if isPassed then
      { k with passing := if isBlank c then k.passing else some false }
    else k.close (some (isBlank c))

/-- Take a stretch of cells. -/
def take (separators : Chars) (k : Cutting) : Seams × List Cell → Cutting
  | (.none, cells) => { k with current := cells.reverse ++ k.current, passing := none }
  | (.separators, cells) => cells.foldl (step separators) { k with passing := none }
  | (.allSeparators, cells) => cells.foldl
    (fun k c => if isSeparator separators c then k.close none else k.add c) k
  | (.arguments, cells) => cells.foldl
    (fun k c => if isBoundary c then k.close none else k.add c) k

end Cutting

/-- The fields of an expansion. There is no empty one at the end, unless it is an argument. -/
def Expansion.fields (separators : Chars) (e : Expansion) : List (List Cell) :=
  let k := e.stretches.foldl (Cutting.take separators) {}
  let endsArguments := e.regions.head?.any (·.betweenArguments)
  let last := if k.current.isEmpty && !endsArguments then [] else [k.current.reverse]
  k.done.reverse ++ last

/-- A character without which there is no pattern for more than itself. -/
def isWildChar (c : Char) : Bool := c = '*' || c = '?' || c = '['

/-- Some cell can make a pattern. -/
def hasWild (cells : List Cell) : Bool := cells.any fun
  | .char c isLiteral => !isLiteral && isWildChar c
  | .mark => false

/-- Some piece can make a pattern. -/
def Expansion.hasWild (e : Expansion) : Bool := e.pieces.any fun
  | .text cs isLiteral => !isLiteral && cs.any isWildChar
  | .mark => false

/-- The paths that a field stands for, or its text. -/
def fieldTexts (w : World) (field : List Cell) : List Chars :=
  let paths := if hasWild field then Pattern.files w (patternOf field) else []
  if paths.isEmpty then [textOf field] else paths

/-- The arguments that an expansion is. -/
def Expansion.arguments (e : Expansion) : ShellM (List Chars) := do
  let s ← get
  let isWild := !s.has 'f' && e.hasWild
  if e.regions.isEmpty && !isWild then return if e.size = 0 then [] else [e.text]
  let fields := e.fields s.separators
  if !isWild then return fields.map textOf
  let world ← call (Task.look (·.places))
  return fields.flatMap (fieldTexts world)

/-- The arguments that words stand for. -/
def arguments (substitute : Substitution) : List (Word Node) → ShellM (List Chars)
  | [] => return []
  | w :: ws => do
    let e ← expand substitute .argument w
    let texts ← e.arguments
    return texts ++ (← arguments substitute ws)

/-- The text that a word stands for. -/
def singleText (substitute : Substitution) (m : Manner) (w : Word Node) : ShellM Chars := do
  return (← expand substitute m w).text

/-- The pattern that a word stands for. -/
def pattern (substitute : Substitution) (w : Word Node) : ShellM Chars := do
  return (← expand substitute .single w).pattern

/-! ### Fields for variables -/

/-- The fields of a text for so many variables. The last variable gets all that is left: without
blanks at the end, and, if there is a single field, without the separator after it. -/
def fieldsFor (separators : Chars) : Nat → List Cell → List Chars
  | 0, _ => []
  | n + 1, cells =>
    let separates (c : Cell) : Bool := match c with
      | .char c isLiteral => !isLiteral && separators.contains c
      | .mark => false
    let isBlank (c : Cell) : Bool := separates c && Cutting.isBlank c
    let body := cells.dropWhile isBlank
    let (field, rest) := body.span fun c => !separates c
    let afterBlanks := rest.dropWhile isBlank
    let after := match afterBlanks with
      | c :: more => if separates c then more.dropWhile isBlank else afterBlanks
      | [] => []
    if body.isEmpty then []
    else if n = 0 ∧ !after.isEmpty then [textOf (body.reverse.dropWhile isBlank).reverse]
    else textOf field :: fieldsFor separators n after

end Shell

end GoldenCheck
