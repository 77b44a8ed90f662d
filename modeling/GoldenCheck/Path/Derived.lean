import GoldenCheck.Path.Basic

/-!
# Where the report of a root goes

`Path.derive root reference suffix` is the relative path of the report made for `root`: the
names of the root, each `..` taking back the name before it, with `suffix` and the extension of
the reference added to the last. A root without names lends its place to the reference's stem.
-/

namespace GoldenCheck

namespace Path

/-- The suffix of derived names when none is chosen. -/
def defaultSuffix : String := "-workflow"

/-- The name used where neither the root nor the reference has one. -/
def fallbackStem : String := "report"

/-- Take one more component of a root: only names stay, and a `..` takes back the last. -/
def pushName : List Bytes → Component → List Bytes
  | names, .name n => n :: names
  | names, .up => names.tail
  | names, .here => names
  | names, .root => names

/-- The names of a root, last one first. -/
def rootNames (root : Path) : List Bytes :=
  root.components.foldl pushName []

/-- The name of a derived report: a stem, the suffix, and the reference's extension if it has
one. -/
def derivedName (stem : String) (reference : Path) (suffix : String) : String :=
  match reference.extension? with
  | some ext => stem ++ suffix ++ "." ++ Utf8.decodeLossy ext
  | none => stem ++ suffix

/-- The relative path of the report for `root`. -/
def derive (root reference : Path) (suffix : String) : Path :=
  match root.rootNames with
  | last :: before =>
    (ofComponents (before.reverse.map .name)).join
      (ofText (derivedName (Utf8.decodeLossy last) reference suffix))
  | [] =>
    let stem := (reference.stem?.map Utf8.decodeLossy).getD fallbackStem
    ofText (derivedName stem reference suffix)

end Path

end GoldenCheck
