import GoldenCheck.Text.Utf8

/-!
# Paths

A path is a byte string (`Path.bytes`). Slashes cut it into segments, and `Path.components`
reads the segments: a leading slash is the root, an empty segment and a `.` say nothing, except
that a `.` at the very start of a relative path is kept, and all else is a name or `..`.

The rest of the module is what the components decide: the final name with its stem and
extension, the parent, and joining. No function here looks at any file.
-/

namespace GoldenCheck

/-- A path, as the bytes it is written with. -/
structure Path where
  /-- The bytes of the path. -/
  bytes : Bytes
  deriving DecidableEq, Repr, Inhabited

/-- One step of a path. -/
inductive Component where
  /-- The slash at the start of an absolute path. -/
  | root
  /-- The `.` at the start of a relative path. -/
  | here
  /-- A `..`. -/
  | up
  /-- A name. -/
  | name (n : Bytes)
  deriving DecidableEq, Repr

namespace Path

/-- The byte between the segments of a path. -/
def slash : UInt8 := 0x2F

/-- The byte before an extension. -/
def dot : UInt8 := 0x2E

/-- The path written as a text. -/
def ofText (s : String) : Path := ⟨Utf8.encode s⟩

/-- The path as a text for people: bytes that are no text become U+FFFD. -/
def display (p : Path) : String := Utf8.decodeLossy p.bytes

/-- The path of no bytes at all. -/
def isEmpty (p : Path) : Bool := p.bytes.isEmpty

/-- A path that starts at the root. -/
def isAbsolute (p : Path) : Bool := p.bytes.head? == some slash

/-- The stretches of a path between its slashes. -/
def segments (p : Path) : List Bytes := p.bytes.splitOn slash

/-- The component that a segment stands for, when it is not the first of a relative path. -/
def component? (segment : Bytes) : Option Component :=
  if segment = [] ∨ segment = [dot] then none
  else if segment = [dot, dot] then some .up
  else some (.name segment)

theorem component?_eq_none_iff {s : Bytes} : component? s = none ↔ s = [] ∨ s = [dot] := by
  unfold component?
  split
  · simp_all
  · split <;> simp_all

/-- The steps of a path, in order. -/
def components (p : Path) : List Component :=
  if p.isAbsolute then .root :: p.segments.filterMap component?
  else match p.segments with
    | [] => []
    | first :: rest =>
      (if first = [dot] then [Component.here] else (component? first).toList)
        ++ rest.filterMap component?

/-- `p` followed by `q`: `q` alone when it is absolute, else the two with one slash between
them, unless `p` is empty or ends with one. -/
def join (p q : Path) : Path :=
  if q.isAbsolute then q
  else if p.isEmpty ∨ p.bytes.getLast? = some slash then ⟨p.bytes ++ q.bytes⟩
  else ⟨p.bytes ++ slash :: q.bytes⟩

theorem join_of_isAbsolute (p : Path) {q : Path} (h : q.isAbsolute = true) : p.join q = q := by
  simp [join, h]

/-- The path of a single step. -/
def ofComponent : Component → Path
  | .root => ⟨[slash]⟩
  | .here => ⟨[dot]⟩
  | .up => ⟨[dot, dot]⟩
  | .name n => ⟨n⟩

/-- The path that takes the given steps. -/
def ofComponents (cs : List Component) : Path :=
  cs.foldl (fun p c => p.join (ofComponent c)) ⟨[]⟩

/-- The final name, unless the path ends at the root, at `.` or at `..`. -/
def fileName? (p : Path) : Option Bytes :=
  match p.components.getLast? with
  | some (.name n) => some n
  | _ => none

/-- A name cut at its last dot into what stands before and after it. A dot at the very start
cuts nothing. -/
def splitName (n : Bytes) : Bytes × Option Bytes :=
  match n.reverse.span (· ≠ dot) with
  | (_, []) => (n, none)
  | (_, [_]) => (n, none)
  | (after, _ :: before) => (before.reverse, some after.reverse)

/-- The final name without its extension. -/
def stem? (p : Path) : Option Bytes := p.fileName?.map fun n => (splitName n).1

/-- What stands after the last dot of the final name. -/
def extension? (p : Path) : Option Bytes := p.fileName?.bind fun n => (splitName n).2

/-- Segments, last one first, from the last that stands for a component on. The first segment of
a relative path may be a `.` that counts. -/
def dropSilent (relative : Bool) : List Bytes → List Bytes
  | [] => []
  | [s] => if (component? s).isSome || (relative && s == [dot]) then [s] else []
  | s :: t :: rest =>
    if (component? s).isSome then s :: t :: rest else dropSilent relative (t :: rest)

/-- The segments of a path up to its last component, last one first. -/
def significant (p : Path) : List Bytes :=
  dropSilent (!p.isAbsolute) p.segments.reverse

/-- The path without its last component, as it was written; nothing for the empty path and for
the root. -/
def parent? (p : Path) : Option Path :=
  match p.significant with
  | [] => none
  | _ :: before =>
    let kept := List.intercalate [slash] before.reverse
    let trimmed := (significant ⟨kept⟩).reverse
    if before = [] then some ⟨[]⟩
    else if trimmed = [] ∧ p.isAbsolute then some ⟨[slash]⟩
    else some ⟨List.intercalate [slash] trimmed⟩

end Path

end GoldenCheck
