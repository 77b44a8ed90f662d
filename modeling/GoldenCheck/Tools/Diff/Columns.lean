import GoldenCheck.Tools.Diff.Hunk

/-!
# Files side by side

The lines of two files are written in two columns with a sign between them (`row`). Each column shows
as much of a line as there is room for (`halfLine`). `columnsText` writes both files, or without the
lines that they have in common.
-/

namespace GoldenCheck

namespace Tools

namespace Diff

/-- Where the columns are. -/
structure Layout where
  /-- How wide a column is. -/
  half : Nat
  /-- Where the second one begins. -/
  second : Nat
  /-- How far apart tab stops are. -/
  tabs : Nat
  /-- Tabs are written as blanks. -/
  writesBlanks : Bool

/-- The least room between the columns. -/
def gutter : Nat := 3

/-- The columns are as wide as possible, and tabs stand in the second one as in the first. -/
def Layout.ofStyle (s : Style) : Layout :=
  let t := if s.writesBlanks then 1 else s.tabs
  let w := s.columns
  let both := t + gutter
  let middle := w / 2 + both / 2 + (if w % 2 = 1 ∧ both % 2 = 1 then 1 else 0)
  let off := middle - middle % t
  let half := if off ≤ gutter ∨ w ≤ off then 0 else min (off - gutter) (w - off)
  { half, second := if half = 0 then w else off, tabs := s.tabs, writesBlanks := s.writesBlanks }

/-- Go from one column to another, with tabs as far as they lead. -/
def tabTo (l : Layout) (start stop : Nat) : Bytes :=
  if l.writesBlanks then List.replicate (stop - start) 0x20
  else
    let stops := stop / l.tabs - start / l.tabs
    let reached := if stops = 0 then start else stop / l.tabs * l.tabs
    List.replicate stops 0x09 ++ List.replicate (stop - reached) 0x20

/-- A place in a column. -/
structure Column where
  /-- Where the line is. -/
  read : Nat := 0
  /-- Where what is written of it is. -/
  written : Nat := 0

/-- How many columns a character fills. -/
def symbolWidth (n : Nat) : Nat :=
  if n < 0x20 ∨ (0x7F ≤ n ∧ n < 0xA0) then 0
  else if (0x300 ≤ n ∧ n ≤ 0x36F) ∨ (0x200B ≤ n ∧ n ≤ 0x200F) ∨ n = 0xFEFF then 0
  else if (0x1100 ≤ n ∧ n ≤ 0x115F) ∨ (0x2E80 ≤ n ∧ n ≤ 0xA4CF) ∨ (0xAC00 ≤ n ∧ n ≤ 0xD7A3)
      ∨ (0xF900 ≤ n ∧ n ≤ 0xFAFF) ∨ (0xFE30 ≤ n ∧ n ≤ 0xFE6F) ∨ (0xFF00 ≤ n ∧ n ≤ 0xFF60)
      ∨ (0xFFE0 ≤ n ∧ n ≤ 0xFFE6) ∨ (0x1F300 ≤ n ∧ n ≤ 0x1F64F) ∨ (0x20000 ≤ n ∧ n ≤ 0x3FFFD) then
    2
  else 1

/-- As much of a line as there is room for, in a column that begins at `indent`; and where it
ends. -/
def halfLine (l : Layout) (indent bound : Nat) (text : Bytes) : Bytes × Nat :=
  go text {} (text.length + 1)
where
  /-- Write something more. -/
  more (part : Bytes) (rest : Bytes × Nat) : Bytes × Nat := (part ++ rest.1, rest.2)
  /-- Go on. -/
  go (text : Bytes) (c : Column) : Nat → Bytes × Nat
    | 0 => ([], c.written)
    | fuel + 1 =>
      match text with
      | [] => ([], c.written)
      | b :: rest =>
        if b = 0x09 then
          let spaces := l.tabs - c.read % l.tabs
          let stop := c.written + spaces
          let read := c.read + spaces
          if c.read ≠ c.written then go rest { c with read } fuel
          else if l.writesBlanks then
            let stop := min stop bound
            let part := List.replicate (stop - c.written) 0x20
            more part (go rest ⟨read, max c.written stop⟩ fuel)
          else if stop < bound then more [b] (go rest ⟨read, stop⟩ fuel)
          else go rest { c with read } fuel
        else if b = 0x0D then more (b :: tabTo l 0 indent) (go rest {} fuel)
        else if b = 0x08 then
          if c.read = 0 then go rest c fuel
          else
            let read := c.read - 1
            if bound ≤ read then go rest { c with read } fuel
            else if c.written ≤ read then
              more (List.replicate (read - c.written) 0x20) (go rest ⟨read, read⟩ fuel)
            else more [b] (go rest ⟨read, read⟩ fuel)
        else if isVisible b then
          let read := c.read + 1
          if c.read < bound then more [b] (go rest ⟨read, read⟩ fuel)
          else go rest { c with read } fuel
        else match firstChar? text with
          | some (ch, n) =>
            let width := symbolWidth ch.toNat
            let read := c.read + width
            if read ≤ bound then
              more (text.take n) (go (text.drop n) ⟨read, if width = 0 then c.written else read⟩ fuel)
            else go (text.drop n) { c with read } fuel
          | none =>
            if c.read < bound then more [b] (go rest c fuel) else go rest c fuel

/-- A line of each file, or of one, with a sign between them. -/
def row (l : Layout) (left : Option Line) (sign : Char) (right : Option Line) : Bytes :=
  let (start, column) := match left with
    | some line => halfLine l 0 l.half line.text
    | none => ([], 0)
  let leftEnds := left.any (·.isWhole)
  let rightEnds := right.any (·.isWhole)
  let (middle, column) :=
    if sign = ' ' then ([], column)
    else
      let place := (l.half + l.second - 1) / 2
      let sign := if sign = '|' ∧ leftEnds ≠ rightEnds then (if leftEnds then '/' else '\\') else sign
      (tabTo l column place ++ bytes (String.ofList [sign]), max column place + 1)
  let back := match right with
    | some line =>
      if line.text.isEmpty ∧ line.isWhole then []
      else tabTo l column l.second ++ (halfLine l l.second l.half line.text).1
    | none => []
  start ++ middle ++ back ++ (if leftEnds ∨ rightEnds then [0x0A] else [])

/-- Rows of two lists of lines. -/
def rows (l : Layout) (sign : Char) : List Line → List Line → Bytes
  | a :: as, b :: bs => row l (some a) sign (some b) ++ rows l sign as bs
  | _, _ => []

/-- Lines that both files have, up to a line of each. -/
def commonRows (s : Style) (l : Layout) (f : Sides) (i j stopI stopJ : Nat) : Bytes :=
  if s.hidesCommon ∨ (i = stopI ∧ j = stopJ) then []
  else
    let as := (Span.mk i (stopI - i)).lines f.first
    let bs := (Span.mk j (stopJ - j)).lines f.second
    let lengths := if s.countsParts then
        bytes ("i" ++ toString as.length ++ "," ++ toString bs.length ++ "\n")
      else []
    let only (sign : Char) (b : Line) : Bytes := row l none sign (some b)
    if s.leftOnly then lengths ++ as.flatMap fun a => row l (some a) '(' none
    else lengths ++ rows l ' ' as bs ++ (bs.drop as.length).flatMap (only ')')
      ++ (as.drop bs.length).flatMap fun a => row l (some a) '(' none

/-- The lines of a change. -/
def changeRows (s : Style) (l : Layout) (f : Sides) (h : Hunk) : Bytes :=
  let as := h.first.lines f.first
  let bs := h.second.lines f.second
  let lengths := if s.countsParts then
      bytes ("c" ++ toString as.length ++ "," ++ toString bs.length ++ "\n")
    else []
  lengths ++ rows l '|' as bs
    ++ ((bs.drop as.length).flatMap fun b => s.painted .new (row l none '>' (some b)))
    ++ ((as.drop bs.length).flatMap fun a => s.painted .old (row l (some a) '<' none))

/-- Both files side by side. -/
def columnsText (s : Style) (f : Sides) (hunks : List Hunk) : Bytes :=
  go 0 0 hunks
where
  /-- Where the columns are. -/
  layout : Layout := .ofStyle s
  /-- Go on from a line of each file. -/
  go (i j : Nat) : List Hunk → Bytes
    | [] => commonRows s layout f i j f.first.size f.second.size
    | h :: rest =>
      commonRows s layout f i j h.first.start h.second.start ++ changeRows s layout f h
        ++ go h.first.stop h.second.stop rest

end Diff

end Tools

end GoldenCheck
