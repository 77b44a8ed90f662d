import GoldenCheck.Tools.Diff.Lines

/-!
# What has changed

The lines of two files that differ are marked: those of the first that are not in the second, and
those of the second that are not in the first. What is left of both is the same. `marks` does so
in three steps. Lines that are in one file only, or too often in the other, are set aside
(`discarded`). Among the others a shortest way from one file to the other is searched from both ends
(`middle`), and the files are cut where the two searches meet (`compareParts`). Last, stretches of
marked lines are moved so that they meet those of the other file (`Shift`).

`changes` lists the marked stretches of both files side by side.
-/

namespace GoldenCheck

namespace Tools

namespace Diff

/-! ### Lines that are set aside -/

/-- How a line is matched by the other file. -/
inductive Standing where
  /-- It is compared. -/
  | kept
  /-- It has no match. -/
  | alone
  /-- It has many matches. -/
  | common
  deriving DecidableEq, Repr

/-- How often something can be divided by four. -/
def quarters : Nat → Nat → Nat
  | 0, _ => 0
  | fuel + 1, n => if n / 4 = 0 then 0 else quarters fuel (n / 4) + 1

/-- A line with more matches than this has many, in a file with so many lines. -/
def manyMatches (lines : Nat) : Nat := 5 * Nat.pow 2 (quarters lines (lines / 64))

/-- The standing of each line, by the classes of its file and of the other. -/
def standings (own other : List Nat) : List Standing :=
  let counts := other.foldl (fun (counts : Std.HashMap Nat Nat) c =>
    counts.insert c (counts.getD c 0 + 1)) {}
  let many := manyMatches own.length
  own.map fun c =>
    let matching := counts.getD c 0
    if matching = 0 then .alone else if many < matching then .common else .kept

/-- Keep lines with many matches at the beginning of a run, up to three lines in a row without a
match or to the first one after eight lines. -/
def keepFront : Nat → Nat → List Standing → List Standing
  | _, _, [] => []
  | n, row, s :: rest =>
    if 8 ≤ n ∧ s = .alone then s :: rest
    else match s with
      | .common => .kept :: keepFront (n + 1) 0 rest
      | .kept => .kept :: keepFront (n + 1) 0 rest
      | .alone => if row = 2 then .alone :: rest else .alone :: keepFront (n + 1) (row + 1) rest

/-- All lines that have many matches are kept. -/
def keepCommon (run : List Standing) : List Standing :=
  run.map fun s => if s = .common then .kept else s

/-- Settle a run of lines, none of them kept so far, whose first and last one have no match. -/
def settleRun (run : List Standing) : List Standing :=
  let count := run.count .common
  if run.length < 4 * count then keepCommon run
  else
    let least := Nat.pow 2 (quarters run.length (run.length / 4)) + 1
    let groups := run.splitBy fun a b => a = b
    let run := groups.flatMap fun group =>
      if least ≤ group.length then keepCommon group else group
    (keepFront 0 0 (keepFront 0 0 run).reverse).reverse

/-- Settle which lines are set aside: those with many matches only within runs of lines that have
none. -/
def settle (standings : List Standing) : List Standing :=
  let groups := standings.splitBy fun a b => (a = .kept) = (b = .kept)
  groups.flatMap fun group =>
    if group.head? = some .kept then group
    else
      let isCommon (s : Standing) : Bool := s = .common
      let (front, rest) := group.span isCommon
      let (back, run) := rest.reverse.span isCommon
      keepCommon front ++ settleRun run.reverse ++ keepCommon back

/-- Which lines are set aside. -/
def discarded (own other : List Nat) : List Bool :=
  (settle (standings own other)).map (· ≠ .kept)

/-! ### The shortest way -/

/-- A part of both files. -/
structure Part where
  /-- The first line of the first file. -/
  left : Nat
  /-- The line after the last one. -/
  right : Nat
  /-- The first line of the second file. -/
  top : Nat
  /-- The line after the last one. -/
  bottom : Nat

/-- Two searches, by diagonals: how far each has come on them. -/
structure Search where
  /-- The search from the beginning. -/
  ahead : Array Int
  /-- The search from the end. -/
  back : Array Int
  /-- The first diagonal of the search from the beginning. -/
  aheadLow : Int
  /-- The last one. -/
  aheadHigh : Int
  /-- The first diagonal of the search from the end. -/
  backLow : Int
  /-- The last one. -/
  backHigh : Int

/-- Go ahead along lines that are equal. -/
def slideAhead (xs ys : Array Nat) (right bottom : Nat) : Nat → Nat → Nat → Nat
  | 0, x, _ => x
  | fuel + 1, x, y =>
    if x < right ∧ y < bottom ∧ xs[x]! = ys[y]! then slideAhead xs ys right bottom fuel (x + 1) (y + 1)
    else x

/-- Go back along lines that are equal. -/
def slideBack (xs ys : Array Nat) (left top : Nat) : Nat → Nat → Nat → Nat
  | 0, x, _ => x
  | fuel + 1, x, y =>
    if left < x ∧ top < y ∧ xs[x - 1]! = ys[y - 1]! then
      slideBack xs ys left top fuel (x - 1) (y - 1)
    else x

/-- Beyond all lines. -/
def beyond : Int := 1000000000000

/-- What a search holds for a diagonal; the first diagonal of a part has the place 1. -/
def reached (part : Part) (a : Array Int) (diagonal : Int) : Int :=
  a[(diagonal - ((part.left : Int) - part.bottom) + 1).toNat]!

/-- Note what a search has come to on a diagonal. -/
def note (part : Part) (a : Array Int) (diagonal value : Int) : Array Int :=
  a.set! (diagonal - ((part.left : Int) - part.bottom) + 1).toNat value

/-- Let the search from the beginning go one step on, diagonal after diagonal. Where it meets the
other one the two stop. -/
def stepAhead (xs ys : Array Nat) (part : Part) (isOdd : Bool) :
    Nat → Int → Search → Search × Option (Nat × Nat)
  | 0, _, s => (s, none)
  | fuel + 1, d, s =>
    if d < s.aheadLow then (s, none)
    else
      let low := reached part s.ahead (d - 1)
      let high := reached part s.ahead (d + 1)
      let x := (if low < high then high else low + 1).toNat
      let y := ((x : Int) - d).toNat
      let x' := slideAhead xs ys part.right part.bottom (part.right + 1) x y
      let s := { s with ahead := note part s.ahead d x' }
      if isOdd && s.backLow ≤ d && d ≤ s.backHigh && reached part s.back d ≤ x' then
        (s, some (x', ((x' : Int) - d).toNat))
      else stepAhead xs ys part isOdd fuel (d - 2) s

/-- Let the search from the end go one step on. -/
def stepBack (xs ys : Array Nat) (part : Part) (isOdd : Bool) :
    Nat → Int → Search → Search × Option (Nat × Nat)
  | 0, _, s => (s, none)
  | fuel + 1, d, s =>
    if d < s.backLow then (s, none)
    else
      let low := reached part s.back (d - 1)
      let high := reached part s.back (d + 1)
      let x := (if low < high then low else high - 1).toNat
      let y := ((x : Int) - d).toNat
      let x' := slideBack xs ys part.left part.top (x + 1) x y
      let s := { s with back := note part s.back d x' }
      if !isOdd && s.aheadLow ≤ d && d ≤ s.aheadHigh && (x' : Int) ≤ reached part s.ahead d then
        (s, some (x', ((x' : Int) - d).toNat))
      else stepBack xs ys part isOdd fuel (d - 2) s

/-- Give the search from the beginning one more diagonal on each side, as long as there are some. -/
def widenAhead (part : Part) (first last : Int) (s : Search) : Search :=
  let s := if first < s.aheadLow then
      { s with aheadLow := s.aheadLow - 1, ahead := note part s.ahead (s.aheadLow - 2) (-1) }
    else { s with aheadLow := s.aheadLow + 1 }
  if s.aheadHigh < last then
    { s with aheadHigh := s.aheadHigh + 1, ahead := note part s.ahead (s.aheadHigh + 2) (-1) }
  else { s with aheadHigh := s.aheadHigh - 1 }

/-- Give the search from the end one more diagonal on each side. -/
def widenBack (part : Part) (first last : Int) (s : Search) : Search :=
  let s := if first < s.backLow then
      { s with backLow := s.backLow - 1, back := note part s.back (s.backLow - 2) beyond }
    else { s with backLow := s.backLow + 1 }
  if s.backHigh < last then
    { s with backHigh := s.backHigh + 1, back := note part s.back (s.backHigh + 2) beyond }
  else { s with backHigh := s.backHigh - 1 }

/-- Where a shortest way through a part passes the middle. -/
def middle (xs ys : Array Nat) (part : Part) : Nat × Nat :=
  let first : Int := (part.left : Int) - part.bottom
  let last : Int := (part.right : Int) - part.top
  let start : Int := (part.left : Int) - part.top
  let stop : Int := (part.right : Int) - part.bottom
  let size := (last - first).toNat + 3
  let s : Search := {
    ahead := note part (Array.replicate size 0) start part.left
    back := note part (Array.replicate size 0) stop part.right
    aheadLow := start, aheadHigh := start, backLow := stop, backHigh := stop }
  go first last ((start - stop) % 2 ≠ 0) s size
where
  /-- One step of both searches after the other. -/
  go (first last : Int) (isOdd : Bool) (s : Search) : Nat → Nat × Nat
    | 0 => (part.left, part.top)
    | fuel + 1 =>
      let s := widenAhead part first last s
      match stepAhead xs ys part isOdd (2 * xs.size + 2 * ys.size + 3) s.aheadHigh s with
      | (_, some place) => place
      | (s, none) =>
        let s := widenBack part first last s
        match stepBack xs ys part isOdd (2 * xs.size + 2 * ys.size + 3) s.backHigh s with
        | (_, some place) => place
        | (s, none) => go first last isOdd s fuel

/-- Which lines of the two files are not in the other. -/
structure Marks where
  /-- Lines of the first file. -/
  first : Array Bool
  /-- Lines of the second file. -/
  second : Array Bool

/-- Mark lines from one to before another. -/
def markRange (a : Array Bool) (low high : Nat) : Array Bool :=
  (List.range' low (high - low)).foldl (fun a k => a.set! k true) a

/-- Mark the lines of a part that are not in the other file. -/
def compareParts (xs ys : Array Nat) : Nat → Part → Marks → Marks
  | 0, _, m => m
  | fuel + 1, part, m =>
    let left := slideAhead xs ys part.right part.bottom (part.right + 1) part.left part.top
    let top := part.top + (left - part.left)
    let right := slideBack xs ys left top (part.right + 1) part.right part.bottom
    let bottom := part.bottom - (part.right - right)
    if left = right then { m with second := markRange m.second top bottom }
    else if top = bottom then { m with first := markRange m.first left right }
    else
      let part : Part := ⟨left, right, top, bottom⟩
      let (x, y) := middle xs ys part
      let m := compareParts xs ys fuel ⟨left, x, top, y⟩ m
      compareParts xs ys fuel ⟨x, right, y, bottom⟩ m

/-! ### Moving stretches -/

/-- A stretch of marked lines on its way. -/
structure Shift where
  /-- The marks of its file. -/
  marks : Array Bool
  /-- Its first line. -/
  start : Nat
  /-- The line after its last one. -/
  stop : Nat
  /-- The place in the other file that goes with `stop`. -/
  other : Nat
  /-- The last `stop` that goes with a stretch of the other file. -/
  meeting : Nat

/-- A line is marked; beyond the first and the last line there is no mark. -/
def isMarked (a : Array Bool) (k : Nat) : Bool := (a[k]?).getD false

/-- The line before is marked. -/
def isMarkedBefore (a : Array Bool) (k : Nat) : Bool := k ≠ 0 && isMarked a (k - 1)

/-- Go on past marked lines. -/
def pastMarks (a : Array Bool) : Nat → Nat → Nat
  | 0, k => k
  | fuel + 1, k => if isMarked a k then pastMarks a fuel (k + 1) else k

/-- Go back past marked lines. -/
def beforeMarks (a : Array Bool) : Nat → Nat → Nat
  | 0, k => k
  | fuel + 1, k => if isMarkedBefore a k then beforeMarks a fuel (k - 1) else k

/-- Go back by one line that is not marked, past those that are. -/
def stepBefore (a : Array Bool) (k : Nat) : Nat := beforeMarks' a k (k - 1)
where
  /-- Go back while the line here is marked. -/
  beforeMarks' (a : Array Bool) : Nat → Nat → Nat
    | 0, k => k
    | fuel + 1, k => if isMarked a k then beforeMarks' a fuel (k - 1) else k

namespace Shift

/-- Move the stretch back as long as the line before it is equal to its last one. -/
def moveBack (classes : Array Nat) (others : Array Bool) : Nat → Shift → Shift
  | 0, s => s
  | fuel + 1, s =>
    if s.start ≠ 0 ∧ classes[s.start - 1]! = classes[s.stop - 1]! then
      let marks := (s.marks.set! (s.start - 1) true).set! (s.stop - 1) false
      moveBack classes others fuel { s with
        marks, start := beforeMarks marks marks.size (s.start - 1), stop := s.stop - 1
        other := stepBefore others s.other }
    else s

/-- Move the stretch on as long as the line after it is equal to its first one. -/
def moveOn (classes : Array Nat) (others : Array Bool) : Nat → Shift → Shift
  | 0, s => s
  | fuel + 1, s =>
    if s.stop ≠ classes.size ∧ classes[s.start]! = classes[s.stop]! then
      let marks := (s.marks.set! s.start false).set! s.stop true
      let stop := pastMarks marks marks.size (s.stop + 1)
      let other := pastMarks others others.size (s.other + 1)
      moveOn classes others fuel { s with
        marks, start := s.start + 1, stop, other
        meeting := if other = s.other + 1 then s.meeting else stop }
    else s

/-- Move the stretch back and on until it does not grow any more. -/
def merge (classes : Array Nat) (others : Array Bool) : Nat → Shift → Shift
  | 0, s => s
  | fuel + 1, s =>
    let length := s.stop - s.start
    let s := moveBack classes others (classes.size + 1) s
    let s := { s with
      meeting := if isMarkedBefore others s.other then s.stop else classes.size }
    let s := moveOn classes others (classes.size + 1) s
    if s.stop - s.start = length then s else merge classes others fuel s

/-- Move the stretch back to where it meets one of the other file. -/
def meet (others : Array Bool) : Nat → Shift → Shift
  | 0, s => s
  | fuel + 1, s =>
    if s.meeting < s.stop then
      meet others fuel { s with
        marks := (s.marks.set! (s.start - 1) true).set! (s.stop - 1) false
        start := s.start - 1, stop := s.stop - 1, other := stepBefore others s.other }
    else s

end Shift

/-- Move the stretches of a file from a line on, which goes with a line of the other file. -/
def shiftFrom (classes : Array Nat) (others : Array Bool) :
    Nat → Nat → Nat → Array Bool → Array Bool
  | 0, _, _, marks => marks
  | fuel + 1, k, j, marks =>
    if classes.size ≤ k then marks
    else if isMarked marks k then
      let stop := pastMarks marks marks.size k
      let other := pastMarks others others.size j
      let s := Shift.merge classes others (classes.size + 1) ⟨marks, k, stop, other, 0⟩
      let s := Shift.meet others classes.size s
      shiftFrom classes others fuel s.stop s.other s.marks
    else shiftFrom classes others fuel (k + 1) (pastMarks others others.size j + 1) marks

/-- Move the stretches of both files. -/
def shift (as bs : Array Nat) (m : Marks) : Marks :=
  let first := shiftFrom as m.second (2 * as.size + 1) 0 0 m.first
  let second := shiftFrom bs first (2 * bs.size + 1) 0 0 m.second
  ⟨first, second⟩

/-! ### Changes -/

/-- Mark the lines of two files that are not in the other, by the classes of the lines. Lines are
set aside first unless all shall be compared. -/
def marks (isMinimal : Bool) (as bs : List Nat) : Marks :=
  let aside (own other : List Nat) : List Bool :=
    if isMinimal then own.map fun _ => false else discarded own other
  let compared (own : List Nat) (aside : List Bool) : List (Nat × Nat) :=
    (own.zipIdx.zip aside).filterMap fun (c, isAside) => if isAside then none else some c
  let asideA := aside as bs
  let asideB := aside bs as
  let xs := compared as asideA
  let ys := compared bs asideB
  let found := compareParts (xs.map (·.1)).toArray (ys.map (·.1)).toArray
    (xs.length + ys.length + 1) ⟨0, xs.length, 0, ys.length⟩
    ⟨Array.replicate xs.length false, Array.replicate ys.length false⟩
  let place (aside : List Bool) (lines : List (Nat × Nat)) (found : Array Bool) : Array Bool :=
    (lines.zip found.toList).foldl (fun a (line, isFound) =>
      if isFound then a.set! line.2 true else a) aside.toArray
  shift as.toArray bs.toArray ⟨place asideA xs found.first, place asideB ys found.second⟩

/-- A stretch of lines of the first file in place of which there is one of the second. -/
structure Change where
  /-- The first line of the first file. -/
  first : Nat
  /-- The first line of the second file. -/
  second : Nat
  /-- How many lines of the first file. -/
  deleted : Nat
  /-- How many lines of the second file. -/
  inserted : Nat
  deriving DecidableEq, Repr

/-- The stretches of marked lines, side by side. -/
def changesOf (m : Marks) : List Change :=
  go 0 0 (m.first.size + m.second.size + 1)
where
  /-- Go on from a line of each file. -/
  go (i j : Nat) : Nat → List Change
    | 0 => []
    | fuel + 1 =>
      if m.first.size ≤ i ∧ m.second.size ≤ j then []
      else
        let i' := pastMarks m.first m.first.size i
        let j' := pastMarks m.second m.second.size j
        if i' = i ∧ j' = j then go (i + 1) (j + 1) fuel
        else ⟨i, j, i' - i, j' - j⟩ :: go i' j' fuel

/-- How many lines two lists begin with alike. -/
def commonLength [DecidableEq α] : List α → List α → Nat
  | a :: as, b :: bs => if a = b then commonLength as bs + 1 else 0
  | _, _ => 0

/-- The changes from one file to another. Lines that both begin or end with are not looked at, but
for some next to the others. -/
def changes (rule : LineRule) (isMinimal : Bool) (horizon : Nat) (a b : List Line) : List Change :=
  let front := commonLength a b - horizon
  let a := a.drop front
  let b := b.drop front
  let endsAlike := (a.getLast?.map (·.isWhole)).getD true = (b.getLast?.map (·.isWhole)).getD true
  let back := if endsAlike then commonLength a.reverse b.reverse - horizon else 0
  let (as, bs) := classes rule (a.take (a.length - back)) (b.take (b.length - back))
  (changesOf (marks isMinimal as bs)).map fun c =>
    { c with first := c.first + front, second := c.second + front }

end Diff

end Tools

end GoldenCheck
