import GoldenCheck.Files.World
import GoldenCheck.Shell.Script

/-!
# Patterns of the shell

In a pattern `*` stands for any characters, `?` for any one, and brackets for one of a set; a
backslash takes its meaning from the character after it (`Pattern.fits`). A pattern also stands for
the files whose paths fit it, segment by segment (`Pattern.files`).
-/

namespace GoldenCheck

namespace Shell

namespace Pattern

/-- The classes that a set can name. -/
def classes : List (String × (Nat → Bool)) :=
  let upper (n : Nat) : Bool := 65 ≤ n && n ≤ 90
  let lower (n : Nat) : Bool := 97 ≤ n && n ≤ 122
  let digit (n : Nat) : Bool := 48 ≤ n && n ≤ 57
  let shown (n : Nat) : Bool := 33 ≤ n && n ≤ 126
  let letter (n : Nat) : Bool := upper n || lower n
  [("alnum", fun n => letter n || digit n), ("cntrl", fun n => n < 32 || n = 127),
   ("lower", lower), ("space", fun n => n = 32 || (9 ≤ n && n ≤ 13)), ("alpha", letter),
   ("digit", digit), ("print", fun n => n = 32 || shown n), ("upper", upper),
   ("blank", fun n => n = 32 || n = 9), ("graph", shown),
   ("punct", fun n => shown n && !letter n && !digit n),
   ("xdigit", fun n => digit n || (65 ≤ n && n ≤ 70) || (97 ≤ n && n ≤ 102))]

/-- The class that a text names from its colon on, and what follows it. -/
def className? (cs : Chars) : Option ((Nat → Bool) × Chars) :=
  classes.findSome? fun (name, test) =>
    let text := ofText (":" ++ name ++ ":]")
    if text.isPrefixOf cs then some (test, cs.drop text.length) else none

/-- The place of a character in ranges: those beyond ASCII come first. -/
def rank (c : Char) : Nat := (c.toNat + 128) % 256

/-- A character is in the set that the text begins with, and what follows the set. The first
character is never the closing bracket. There is no set without one. -/
def readSet (ch : Char) (found : Bool) (isFirst : Bool) : Nat → Chars → Option (Bool × Chars)
  | 0, _ => none
  | fuel + 1, cs =>
    match cs with
    | [] => none
    | c :: rest =>
      if c = ']' ∧ !isFirst then some (found, rest)
      else match if c = '[' then className? rest else none with
        | some (test, rest) => readSet ch (found || test ch.toNat) false fuel rest
        | none =>
          let start := if c = '\\' then rest else cs
          match start with
          | [] => none
          | c :: rest =>
            match rest with
            | '-' :: d :: rest' =>
              if d = ']' then readSet ch (found || ch = c) false fuel rest
              else
                let bound := if d = '\\' then rest' else d :: rest'
                match bound with
                | [] => none
                | d :: rest =>
                  let isIn := rank c ≤ rank ch && rank ch ≤ rank d
                  readSet ch (found || isIn) false fuel rest
            | _ => readSet ch (found || ch = c) false fuel rest

/-- A text fits a pattern. -/
def fitsWithin : Nat → Chars → Chars → Bool
  | 0, _, _ => false
  | _, [], text => text.isEmpty
  | fuel + 1, p :: pattern, text =>
    let one (c : Char) (pattern : Chars) : Bool :=
      match text with
      | d :: text => c = d && fitsWithin fuel pattern text
      | [] => false
    match p with
    | '\\' =>
      match pattern with
      | c :: pattern => one c pattern
      | [] => one '\\' []
    | '?' =>
      match text with
      | _ :: text => fitsWithin fuel pattern text
      | [] => false
    | '*' =>
      fitsWithin fuel pattern text || match text with
        | _ :: text => fitsWithin fuel ('*' :: pattern) text
        | [] => false
    | '[' =>
      let (negated, body) := match pattern with
        | '!' :: body => (true, body)
        | body => (false, body)
      match text with
      | [] => false
      | ch :: after =>
        match readSet ch false true (body.length + 1) body with
        | some (found, pattern) => found != negated && fitsWithin fuel pattern after
        | none => one '[' pattern
    | c => one c pattern

/-- A text fits a pattern. -/
def fits (pattern text : Chars) : Bool :=
  fitsWithin (pattern.length + text.length + 1) pattern text

/-- The text that a pattern stands for, if it stands for one text only. -/
def text? (pattern : Chars) : Option Chars := go [] pattern
where
  /-- Go on after some characters, the last one first. -/
  go (before : Chars) : Chars → Option Chars
    | [] => some before.reverse
    | ['\\'] => some ('\\' :: before).reverse
    | '\\' :: c :: rest => go (c :: before) rest
    | c :: rest => if c = '*' ∨ c = '?' ∨ c = '[' then none else go (c :: before) rest

/-- The first number from `n` on for which something holds, among so many. -/
def firstFrom (holds : Nat → Bool) (n : Nat) : Nat → Option Nat
  | 0 => none
  | count + 1 => if holds n then some n else firstFrom holds (n + 1) count

/-- The greatest number below a bound for which something holds. -/
def lastBelow (holds : Nat → Bool) : Nat → Option Nat
  | 0 => none
  | n + 1 => if holds n then some n else lastBelow holds n

/-- The length of the shortest or longest beginning of a text that fits a pattern. -/
def beginning? (longest : Bool) (pattern text : Chars) : Option Nat :=
  match text? pattern with
  | some start => if start.isPrefixOf text then some start.length else none
  | none =>
    let count := text.length + 1
    let holds (n : Nat) : Bool := fitsWithin (pattern.length + count) pattern (text.take n)
    if longest then lastBelow holds count else firstFrom holds 0 count

/-- The ends of a text, the shortest first, before some that are longer. -/
def endings (longer : List Chars) : Chars → List Chars
  | [] => [] :: longer
  | c :: rest => endings ((c :: rest) :: longer) rest

/-- Where the longest end of a text begins that fits, in a text whose first character has a place. -/
def longestEnding (fits : Chars → Bool) (place : Nat) (text : Chars) : Option Nat :=
  if fits text then some place
  else match text with
    | [] => none
    | _ :: rest => longestEnding fits (place + 1) rest

/-- Where the shortest or longest end of a text begins that fits a pattern. -/
def ending? (longest : Bool) (pattern text : Chars) : Option Nat :=
  match text? pattern with
  | some last =>
    let place := text.length - last.length
    if last.length ≤ text.length ∧ text.drop place = last then some place else none
  | none =>
    let fits := fitsWithin (pattern.length + text.length + 1) pattern
    if longest then longestEnding fits 0 text
    else ((endings [] text).find? fits).map fun last => text.length - last.length

/-! ### Files -/

/-- A text without the backslashes that protect characters. -/
def unescape : Chars → Chars
  | '\\' :: c :: rest => c :: unescape rest
  | c :: rest => c :: unescape rest
  | [] => []

/-- The set that begins here is closed before the segment ends. -/
def closesSet : Bool → Chars → Bool
  | _, [] => false
  | _, '\\' :: c :: rest => c ≠ '/' && closesSet false rest
  | isFirst, c :: rest =>
    if c = '/' then false else if c = ']' ∧ !isFirst then true else closesSet false rest

/-- The segment stands for more than itself. -/
def isWild : Chars → Bool
  | [] => false
  | '\\' :: _ :: rest => isWild rest
  | '[' :: rest =>
    let body := match rest with
      | '!' :: body => body
      | body => body
    closesSet true body || isWild rest
  | c :: rest => c = '*' || c = '?' || isWild rest

/-- The segments of a pattern; no slash is protected. -/
def segments (pattern : Chars) : List Chars := (clean pattern).splitOn '/'
where
  /-- Slashes without the backslashes before them. -/
  clean : Chars → Chars
    | '\\' :: '/' :: rest => '/' :: clean rest
    | '\\' :: c :: rest => '\\' :: c :: clean rest
    | c :: rest => c :: clean rest
    | [] => []

/-- The names in a directory that a path leads to, with those that stand for itself and for the
directory around it. -/
def namesIn (w : World) (path : Chars) : List Chars :=
  match w.lookup ⟨toBytes (if path.isEmpty then ['.'] else path)⟩ with
  | .ok (l, .directory) => ['.'] :: ['.', '.'] :: (w.tree.names l).map ofBytes
  | _ => []

/-- Paths that begin with a text and whose further segments fit. -/
def expand (w : World) (start : Chars) : List Chars → List Chars
  | [] => []
  | [segment] =>
    if isWild segment then (matching start segment).map (start ++ ·)
    else
      let path := start ++ unescape segment
      if (w.lookup ⟨toBytes path⟩).isOk then [path] else []
  | segment :: rest =>
    if isWild segment then
      (matching start segment).flatMap fun name => expand w (start ++ name ++ ['/']) rest
    else expand w (start ++ unescape segment ++ ['/']) rest
where
  /-- The names in a directory that fit; one that begins with a dot only when the pattern does. -/
  matching (start segment : Chars) : List Chars :=
    let showsHidden := segment.head? = some '.' ∨ ['\\', '.'].isPrefixOf segment
    (namesIn w start).filter fun name =>
      (name.head? ≠ some '.' || showsHidden) && fits segment name

/-- The paths of the files that fit a pattern, in order; none when the pattern stands only for
itself. -/
def files (w : World) (pattern : Chars) : List Chars :=
  let parts := segments pattern
  if parts.any isWild then
    (expand w [] parts).mergeSort fun a b => compare (toBytes a) (toBytes b) != .gt
  else []

end Pattern

end Shell

end GoldenCheck
