/-!
# Lines of a text

A line ends with a line feed, before which one carriage return belongs to the terminator; the
last line may lack its terminator. A carriage return that stands elsewhere is part of the line,
and the end of the text begins no further line.
-/

namespace GoldenCheck

/-- The body of a line that a line feed ended: one carriage return at its end is dropped. -/
def lineBody (cs : List Char) : List Char :=
  if cs.getLast? = some '\r' then cs.dropLast else cs

/-- The bodies of the lines of a text, given as characters. -/
def lineBodies (cs : List Char) : List (List Char) :=
  let parts := cs.splitOn '\n'
  parts.dropLast.map lineBody ++ (parts.getLast?.toList.filter (· ≠ []))

/-- The lines of a text, without their terminators. -/
def linesOf (s : String) : List String :=
  (lineBodies s.toList).map String.ofList

end GoldenCheck
