import GoldenCheck.Decimal.Digit
import GoldenCheck.Shell.Script

/-!
# Numbers in the shell

Numbers are written in base 10, or with a mark in base 8 or 16, and are held in words of 64 bits
with a sign. `wholeNumber?` reads a text that is a number, `saturate` and `wrap` fit a number into a
word.
-/

namespace GoldenCheck

namespace Shell

/-- The sign of a number and its digits in a base, and what follows. -/
structure Numeral where
  /-- The number is below zero. -/
  isNegative : Bool
  /-- The number without its sign. -/
  size : Nat
  /-- There were digits. -/
  hasDigits : Bool
  /-- What follows. -/
  rest : Chars

/-- Read a numeral: blanks, a sign, a mark of the base, and digits. Without a base given, `0x` stands
before digits of base 16 and `0` before digits of base 8. -/
def Numeral.read (base : Option Nat) (cs : Chars) : Numeral :=
  let body := cs.dropWhile isSpace
  let (isNegative, body) := match body with
    | '-' :: rest => (true, rest)
    | '+' :: rest => (false, rest)
    | rest => (false, rest)
  let hex (rest : Chars) : Bool := rest.head?.any fun c => digit c < 16
  let (radix, digits) := match base, body with
    | none, '0' :: 'x' :: rest => if hex rest then (16, rest) else (8, body)
    | none, '0' :: 'X' :: rest => if hex rest then (16, rest) else (8, body)
    | none, '0' :: _ => (8, body)
    | none, _ => (10, body)
    | some 16, '0' :: 'x' :: rest => if hex rest then (16, rest) else (16, body)
    | some 16, '0' :: 'X' :: rest => if hex rest then (16, rest) else (16, body)
    | some b, _ => (b, body)
  let (ds, rest) := digits.span fun c => digit c < radix
  if ds.isEmpty then ⟨false, 0, false, cs⟩
  else ⟨isNegative, ds.foldl (fun n c => n * radix + digit c) 0, true, rest⟩

/-- The greatest number, `2 ^ 63 - 1`. -/
def greatest : Int := 9223372036854775807

/-- The least number, `- 2 ^ 63`. -/
def least : Int := -9223372036854775808

/-- The number of a numeral, before it is fitted into a word of the machine. -/
def Numeral.number (n : Numeral) : Int := if n.isNegative then -(n.size : Int) else n.size

/-- A number is one that a word of the machine can hold. -/
def isWordSized (n : Int) : Bool := least ≤ n && n ≤ greatest

/-- The number nearest to another that a word of the machine can hold. -/
def saturate (n : Int) : Int := max least (min greatest n)

/-- The whole text is a number that a word of the machine can hold. -/
def wholeNumber? (base : Option Nat) (cs : Chars) : Option Int :=
  let n := Numeral.read base cs
  if base.isSome ∧ !n.hasDigits then none
  else if !isWordSized n.number ∨ !(n.rest.all isSpace) then none
  else some n.number

/-- A number as a word of the machine holds it, without the digits that are too many. -/
def wrap (n : Int) : Int := n.bmod 18446744073709551616

/-- The text of a number. -/
def numeral (n : Int) : Chars := (toString n).toList

end Shell

end GoldenCheck
