/-!
# Digits

Numbers in texts are made of digits in a base of up to 36.
-/

namespace GoldenCheck

/-- The value of a digit; what is no digit has a value beyond all bases. -/
def digit (c : Char) : Nat :=
  if c.isDigit then c.toNat - 48
  else if 'a' ≤ c ∧ c ≤ 'z' then c.toNat - 87
  else if 'A' ≤ c ∧ c ≤ 'Z' then c.toNat - 55
  else 99

/-- A blank of any kind. -/
def isSpace (c : Char) : Bool := c == ' ' || ('\t' ≤ c && c ≤ '\r')

/-- The number that digits in a base are. -/
def numberOf (base : Nat) (ds : List Char) : Nat := ds.foldl (fun n c => n * base + digit c) 0

end GoldenCheck
