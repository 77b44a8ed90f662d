import GoldenCheck.Tools.Diff.Hunk

/-!
# Both files in one

Groups of lines are written as formats say (`groupText`), and in them lines as other formats say
(`lineFormatted`). After `%` a format names lines, numbers of lines, or a character; `%(A=B?T:E)`
stands for one of two formats.
-/

namespace GoldenCheck

namespace Tools

namespace Diff

/-- A group of lines of both files. -/
structure Group where
  /-- Lines of the first file. -/
  first : Span
  /-- Lines of the second file. -/
  second : Span

/-- The number that a letter stands for: a small one for the first file. -/
def Group.number? (g : Group) (letter : UInt8) : Option Nat :=
  let number (s : Span) : UInt8 → Option Nat
    | 0x65 => some s.start
    | 0x66 => some (s.start + 1)
    | 0x6C => some s.stop
    | 0x6D => some (s.stop + 1)
    | 0x6E => some s.count
    | _ => none
  if 0x41 ≤ letter ∧ letter ≤ 0x5A then number g.second (letter + 0x20) else number g.first letter

/-- A byte is a digit. -/
def isDigitByte (b : UInt8) : Bool := 0x30 ≤ b && b ≤ 0x39

/-- The number of some digits. -/
def digitsNumber (bs : Bytes) : Nat := bs.foldl (fun n b => 10 * n + (b.toNat - 48)) 0

/-- A character between quotes, and what follows it. -/
def quotedByte : Bytes → Option (UInt8 × Bytes)
  | [] => none
  | 0x27 :: _ => none
  | 0x5C :: rest =>
    let (digits, after) := rest.span (· ≠ 0x27)
    let isOctal (b : UInt8) : Bool := 0x30 ≤ b && b ≤ 0x37
    match after with
    | _ :: after =>
      if 1 ≤ digits.length ∧ digits.length ≤ 3 ∧ digits.all isOctal then
        some (UInt8.ofNat (digits.foldl (fun n b => 8 * n + (b.toNat - 48)) 0), after)
      else none
    | [] => none
  | b :: 0x27 :: rest => some (b, rest)
  | _ => none

/-- How a number is written. -/
structure NumberStyle where
  /-- It stands on the left. -/
  toLeft : Bool
  /-- Zeros stand before it. -/
  padsZeros : Bool
  /-- How many columns it has. -/
  width : Nat
  /-- How many digits it has at least. -/
  digits : Option Nat

/-- Write a number in the base of a letter. -/
def NumberStyle.write (s : NumberStyle) (letter : UInt8) (n : Nat) : Bytes :=
  let base := if letter = 0x6F then 8 else if letter = 0x64 then 10 else 16
  let digits := Nat.toDigits base n
  let digits := if letter = 0x58 then digits.map Char.toUpper else digits
  let digits := if s.digits = some 0 ∧ n = 0 then [] else digits
  let least := s.digits.getD (if s.padsZeros ∧ !s.toLeft then s.width else 1)
  let text := List.replicate (least - digits.length) '0' ++ digits
  let blanks := List.replicate (s.width - text.length) ' '
  bytes (String.ofList (if s.toLeft then text ++ blanks else blanks ++ text))

/-- A number or a character after `%`, and what follows it. -/
def special? (number? : UInt8 → Option Nat) (format : Bytes) : Option (Bytes × Bytes) := do
  let (flags, rest) := format.span fun b => b = 0x2D || b = 0x27 || b = 0x30
  let (width, rest) := rest.span isDigitByte
  let (digits, rest) := match rest with
    | 0x2E :: rest =>
      let (digits, rest) := rest.span isDigitByte
      (some (digitsNumber digits), rest)
    | rest => (none, rest)
  match rest with
  | 0x63 :: 0x27 :: rest =>
    let (b, rest) ← quotedByte rest
    return ([b], rest)
  | letter :: name :: rest =>
    if [0x64, 0x6F, 0x78, 0x58].contains letter then
      let n ← number? name
      let style : NumberStyle :=
        ⟨flags.contains 0x2D, flags.contains 0x30, digitsNumber width, digits⟩
      return (style.write letter n, rest)
    else none
  | _ => none

/-- A line as a format says. -/
def lineFormatted (s : Style) (l : Line) (n : Nat) (format : Bytes) : Bytes :=
  go format (format.length + 1)
where
  /-- Go on. -/
  go (format : Bytes) : Nat → Bytes
    | 0 => []
    | fuel + 1 =>
      match format with
      | [] => []
      | 0x25 :: 0x25 :: rest => 0x25 :: go rest fuel
      | 0x25 :: 0x6C :: rest => bodyText s [] l ++ go rest fuel
      | 0x25 :: 0x4C :: rest => plainText s l ++ go rest fuel
      | 0x25 :: rest =>
        match special? (fun b => if b = 0x6E then some (n + 1) else none) rest with
        | some (text, rest) => text ++ go rest fuel
        | none => 0x25 :: go rest fuel
      | b :: rest => b :: go rest fuel

/-- Lines as a format says. -/
def linesFormatted (s : Style) (a : Array Line) (span : Span) (format : Bytes) : Bytes :=
  ((span.lines a).zipIdx span.start).flatMap fun (l, n) =>
    if format = bytes "%l\n" ∧ !s.writesBlanks then l.text ++ [0x0A]
    else lineFormatted s l n format

/-- A number or the letter of one, and what follows it. -/
def operand? (g : Group) (format : Bytes) : Option (Nat × Bytes) :=
  let (digits, rest) := format.span isDigitByte
  if digits.isEmpty then
    match format with
    | letter :: rest => (g.number? letter).map (·, rest)
    | [] => none
  else some (digitsNumber digits, rest)

/-- The two numbers of a question, and what follows it. -/
def question? (g : Group) (format : Bytes) : Option (Bool × Bytes) := do
  let (a, rest) ← operand? g format
  let 0x3D :: rest := rest | none
  let (b, rest) ← operand? g rest
  let 0x3F :: rest := rest | none
  return (a = b, rest)

/-- A group of lines as a format says, up to a byte that ends the format; and what follows, from
that byte on. -/
def groupText (s : Style) (f : Sides) (g : Group) : Nat → Option UInt8 → Bytes → Bytes × Bytes
  | 0, _, format => ([], format)
  | fuel + 1, stop, format =>
    let more (part : Bytes) (rest : Bytes) : Bytes × Bytes :=
      let (text, after) := groupText s f g fuel stop rest
      (part ++ text, after)
    match format with
    | [] => ([], [])
    | b :: rest =>
      if some b = stop then ([], format)
      else if b ≠ 0x25 then more [b] rest
      else match rest with
        | 0x25 :: rest => more [0x25] rest
        | 0x3C :: rest => more (linesFormatted s f.first g.first (s.lineFormat .old)) rest
        | 0x3D :: rest => more (linesFormatted s f.first g.first (s.lineFormat .unchanged)) rest
        | 0x3E :: rest => more (linesFormatted s f.second g.second (s.lineFormat .new)) rest
        | 0x28 :: body =>
          match question? g body with
          | none => more [0x25] rest
          | some (holds, body) =>
            let (yes, rest) := groupText s f g fuel (some 0x3A) body
            let (no, rest) := match rest with
              | [] => ([], [])
              | _ :: rest => groupText s f g fuel (some 0x29) rest
            more (if holds then yes else no) (rest.drop 1)
        | _ =>
          match special? g.number? rest with
          | some (text, rest) => more text rest
          | none => more [0x25] rest

/-- A group of lines. -/
def groupOf (s : Style) (f : Sides) (fate : Fate) (first second : Span) : Bytes :=
  let format := s.groupFormat fate
  (groupText s f ⟨first, second⟩ (format.length + 1) none format).1

/-- Both files in one. -/
def mergedText (s : Style) (f : Sides) (hunks : List Hunk) : Bytes := go 0 0 hunks
where
  /-- The lines before a line of each file. -/
  between (i j stopI stopJ : Nat) : Bytes :=
    if i < stopI ∨ j < stopJ then groupOf s f .unchanged ⟨i, stopI - i⟩ ⟨j, stopJ - j⟩ else []
  /-- Go on from a line of each file. -/
  go (i j : Nat) : List Hunk → Bytes
    | [] => between i j f.first.size f.second.size
    | h :: rest =>
      between i j h.first.start h.second.start ++ groupOf s f h.fate h.first h.second
        ++ go h.first.stop h.second.stop rest

end Diff

end Tools

end GoldenCheck
