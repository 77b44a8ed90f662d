import GoldenCheck.Text.Utf8

/-!
# Regular expressions

A regular expression (`Regex`) stands for a set of texts. `Regex.ends` lists all places in a text
where a match that begins at some place can end; `Regex.occursIn` says whether a part of a text
matches. A text is a list of symbols: characters by their numbers, and bytes that belong to no
character with numbers of their own, so that only they themselves stand for them.
-/

namespace GoldenCheck

namespace Tools

/-- One more than the greatest number of a character. -/
def symbolLimit : Nat := 0x110000

/-- The symbols of a byte string. -/
def symbols (bs : Bytes) : List Nat := go bs (bs.length + 1)
where
  /-- Go on. -/
  go (bs : Bytes) : Nat → List Nat
    | 0 => []
    | fuel + 1 =>
      match bs with
      | [] => []
      | b :: rest =>
        if b < 128 then b.toNat :: go rest fuel
        else
          let found := [2, 3, 4].findSome? fun n =>
            if bs.length < n then none
            else match (Utf8.decode? (bs.take n)).map String.toList with
              | some [c] => some (c, n)
              | _ => none
          match found with
          | some (c, n) => c.toNat :: go (bs.drop n) fuel
          | none => (symbolLimit + b.toNat) :: go rest fuel

/-- The symbol is part of words. -/
def isWordSymbol (n : Nat) : Bool :=
  if n < 128 then (Char.ofNat n).isAlphanum || n = 0x5F
  else 0xC0 ≤ n && n < symbolLimit && n ≠ 0xD7 && n ≠ 0xF7 && !(0x2000 ≤ n && n ≤ 0x2BFF)
    && !(0x3000 ≤ n && n ≤ 0x303F)

/-- The symbol is a blank. -/
def isSpaceSymbol (n : Nat) : Bool := n = 0x20 || (0x09 ≤ n && n ≤ 0x0D)

/-- A place in a text. -/
inductive Place where
  /-- The beginning. -/
  | start
  /-- The end. -/
  | stop
  /-- The beginning of a word. -/
  | wordStart
  /-- The end of a word. -/
  | wordStop
  /-- One of the two. -/
  | wordEdge
  /-- None of the two. -/
  | noWordEdge
  deriving DecidableEq, Repr

/-- A regular expression. -/
inductive Regex where
  /-- The empty text. -/
  | empty
  /-- One symbol of some. -/
  | one (test : Nat → Bool)
  /-- The empty text, at some place. -/
  | at (place : Place)
  /-- The same text as a group. -/
  | again (group : Nat)
  /-- A group. -/
  | group (number : Nat) (body : Regex)
  /-- One expression after the other. -/
  | seq (first second : Regex)
  /-- One of two. -/
  | either (first second : Regex)
  /-- One expression several times. -/
  | times (least : Nat) (most : Option Nat) (body : Regex)

/-- A place in a text that a match has come to, and where its groups begin and end. -/
structure Reached where
  /-- The place. -/
  place : Nat
  /-- The groups. -/
  groups : List (Nat × Nat × Nat) := []
  deriving DecidableEq, Repr

namespace Place

/-- The place is there. -/
def holds (text : Array Nat) (n : Nat) (p : Place) : Bool :=
  let isWordBefore := n ≠ 0 && (text[n - 1]?.map isWordSymbol).getD false
  let isWordAfter := (text[n]?.map isWordSymbol).getD false
  match p with
  | .start => n = 0
  | .stop => n = text.size
  | .wordStart => !isWordBefore && isWordAfter
  | .wordStop => isWordBefore && !isWordAfter
  | .wordEdge => isWordBefore != isWordAfter
  | .noWordEdge => isWordBefore == isWordAfter

end Place

namespace Regex

/-- Everything that can be reached by steps, as long as there is something new. -/
def closure (step : Reached → List Reached) : Nat → List Reached → List Reached → List Reached
  | 0, seen, _ => seen
  | fuel + 1, seen, fresh =>
    let next := (fresh.flatMap step).eraseDups.filter (!seen.contains ·)
    if next.isEmpty then seen else closure step fuel (seen ++ next) next

/-- Where at most so many steps lead. -/
def atMost (step : Reached → List Reached) : Nat → List Reached → List Reached
  | 0, before => before
  | n + 1, before => (before ++ atMost step n (before.flatMap step).eraseDups).eraseDups

/-- Where exactly so many steps lead. -/
def exactly (step : Reached → List Reached) : Nat → List Reached → List Reached
  | 0, before => before
  | n + 1, before => exactly step n (before.flatMap step).eraseDups

/-- Where a match that begins at some place can end. -/
def ends (text : Array Nat) : Regex → Reached → List Reached
  | .empty, r => [r]
  | .one test, r =>
    match text[r.place]? with
    | some n => if test n then [{ r with place := r.place + 1 }] else []
    | none => []
  | .at place, r => if place.holds text r.place then [r] else []
  | .again g, r =>
    match r.groups.lookup g with
    | none => []
    | some (start, stop) =>
      let body := text.extract start stop
      if text.extract r.place (r.place + body.size) = body then
        [{ r with place := r.place + body.size }]
      else []
  | .group g body, r =>
    (ends text body r).map fun e =>
      { e with groups := (g, r.place, e.place) :: e.groups.filter (·.1 ≠ g) }
  | .seq a b, r => ((ends text a r).flatMap (ends text b)).eraseDups
  | .either a b, r => (ends text a r ++ ends text b r).eraseDups
  | .times least most body, r =>
    let step := ends text body
    let first := exactly step least [r]
    match most with
    | some most => atMost step (most - least) first
    | none => closure step ((text.size + 1) * (text.size + 1)) first first

/-- Some part of a text matches. -/
def occursIn (r : Regex) (text : List Nat) : Bool :=
  let text := text.toArray
  (List.range (text.size + 1)).any fun n => !(r.ends text { place := n }).isEmpty

end Regex

end Tools

end GoldenCheck
