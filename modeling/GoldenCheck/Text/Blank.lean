/-!
# White space

The characters with the Unicode property `White_Space`, and trimming by them.
-/

namespace GoldenCheck

/-- The inclusive ranges of code points that have the property `White_Space`. -/
def blankRanges : List (Nat × Nat) :=
  [(0x09, 0x0D), (0x20, 0x20), (0x85, 0x85), (0xA0, 0xA0), (0x1680, 0x1680), (0x2000, 0x200A),
   (0x2028, 0x2029), (0x202F, 0x202F), (0x205F, 0x205F), (0x3000, 0x3000)]

/-- `c` has the property `White_Space`. -/
def isBlank (c : Char) : Bool :=
  blankRanges.any fun r => r.1 ≤ c.toNat && c.toNat ≤ r.2

/-- A list of characters without the white space at its two ends. -/
def trimBlanks (cs : List Char) : List Char :=
  ((cs.dropWhile isBlank).reverse.dropWhile isBlank).reverse

/-- A text without the white space at its two ends. -/
def trimmed (s : String) : String :=
  String.ofList (trimBlanks s.toList)

/-- A text of white space only, or the empty one. -/
def isBlankText (s : String) : Bool :=
  s.toList.all isBlank

end GoldenCheck
