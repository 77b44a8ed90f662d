import GoldenCheck.Path.Basic

/-!
# Lexical normal form

`Path.normalize` writes a path without `.` and without a `..` that cancels a name before it, so
that two spellings of one file compare equal. No link is followed: a name and the `..` after it
always cancel. A `..` with no name before it is kept, also after the root.

The form is a fold of one step, `Path.pushPart`, over the components, on a stack that holds the
parts with the last one on top.
-/

namespace GoldenCheck

namespace Path

/-- Take one more component: a `.` adds nothing, a `..` takes back a name on top, and all else
goes on top. -/
def pushPart : List Component → Component → List Component
  | parts, .here => parts
  | .name _ :: parts, .up => parts
  | parts, c => c :: parts

/-- The components of the normal form of a list of components. -/
def normalParts (cs : List Component) : List Component :=
  (cs.foldl pushPart []).reverse

/-- The normal form of a path; `.` when nothing is left. -/
def normalize (p : Path) : Path :=
  match normalParts p.components with
  | [] => ⟨[dot]⟩
  | c :: cs => ofComponents (c :: cs)

/-- Two paths are spellings of one file as far as their text tells. -/
def sameFile (p q : Path) : Bool := p.normalize == q.normalize

end Path

end GoldenCheck
