import GoldenCheck.Text.Utf8

/-!
# Trees of files

A tree of files is a list of entries, each at its `Location`: the names that lead to it from the
top, the last one first. The top itself is always a directory and has no entry. There are no links,
so each file has one location. The entry that was made last comes first.

Each location has a time, when what lies there was changed last. The tree knows what time it is, and
changes take place at that time.

The functions of this module work on locations. How a path leads to a location is the matter of
`GoldenCheck.Files.World`.
-/

namespace GoldenCheck

/-- The names that lead to an entry from the top, the last one first. -/
abbrev Location := List Bytes

/-- What is behind an entry that is neither a directory nor a file. -/
inductive Device where
  /-- It is empty, and swallows what is written to it. -/
  | null
  /-- It has no room. -/
  | full
  /-- The terminal, which is not there. -/
  | terminal
  deriving DecidableEq, Repr

/-- What lies at a location. -/
inductive Entry where
  /-- A directory. -/
  | directory
  /-- A file and its content. -/
  | file (content : Bytes)
  /-- A device. -/
  | device (kind : Device)
  /-- An installed program. -/
  | program (name : String)
  deriving DecidableEq, Repr

/-- The entry is a directory. -/
def Entry.isDirectory : Entry → Bool
  | .directory => true
  | _ => false

/-- A tree of files. -/
structure FileTree where
  /-- The entries below the top, one for a location, the one made last first. -/
  entries : List (Location × Entry)
  /-- When what lies at locations was changed last, in nanoseconds since 1970. -/
  times : List (Location × Int) := []
  /-- What time it is. -/
  now : Int := 0
  deriving DecidableEq, Repr

namespace FileTree

/-- A tree without entries. -/
def empty : FileTree := { entries := [] }

/-- What lies at a location. -/
def get? (t : FileTree) : Location → Option Entry
  | [] => some .directory
  | l => t.entries.lookup l

/-- When what lies at a location was changed last. -/
def timeOf (t : FileTree) (l : Location) : Int := (t.times.lookup l).getD 0

/-- The earliest time of a file, in nanoseconds: 31 bits hold the seconds before 1970. -/
def earliest : Int := -2147483648000000000

/-- The latest time of a file, but for parts of a second. -/
def latest : Int := 15032385535000000000

/-- The time of a file that is nearest to a time. -/
def nearest (time : Int) : Int :=
  if time < earliest + 1000000000 then earliest else if latest ≤ time then latest else time

/-- Let what lies at a location have been changed at a time. -/
def setTime (t : FileTree) (l : Location) (time : Int) : FileTree :=
  { t with times := (l, time) :: t.times.filter (·.1 ≠ l) }

/-- Some entry lies at a location. -/
def hasEntry (t : FileTree) (l : Location) : Bool := t.entries.any (·.1 = l)

/-- Put an entry at a location where none lies. -/
def make (t : FileTree) (l : Location) (e : Entry) : FileTree :=
  { t.setTime l.tail t.now with entries := (l, e) :: t.entries }

/-- Put an entry at a location in place of the one there. -/
def replace (t : FileTree) (l : Location) (e : Entry) : FileTree :=
  { t with entries := t.entries.map fun x => if x.1 = l then (l, e) else x }

/-- Put an entry at a location, instead of what lay there. -/
def insert (t : FileTree) (l : Location) (e : Entry) : FileTree :=
  (if t.hasEntry l then t.replace l e else t.make l e).setTime l t.now

/-- Take away what lies at a location. -/
def erase (t : FileTree) (l : Location) : FileTree :=
  { t.setTime l.tail t.now with entries := t.entries.filter (·.1 ≠ l) }

/-! What `insert` and `erase` do to `get?`: they change what lies at their location, and nothing
else. -/

@[simp] theorem get?_nil (t : FileTree) : t.get? [] = some .directory := rfl

theorem get?_of_ne_nil (t : FileTree) {l : Location} (h : l ≠ []) :
    t.get? l = t.entries.lookup l := by
  cases l with
  | nil => exact absurd rfl h
  | cons _ _ => rfl

theorem lookup_filter_self (es : List (Location × Entry)) (l : Location) :
    (es.filter (·.1 ≠ l)).lookup l = none := by
  rw [List.lookup_eq_none_iff]
  intro e he
  have hl : e.1 ≠ l := by simpa using (List.mem_filter.1 he).2
  simpa using fun h => hl h.symm

theorem lookup_filter_of_ne (es : List (Location × Entry)) {k l : Location} (h : k ≠ l) :
    (es.filter (·.1 ≠ l)).lookup k = es.lookup k := by
  induction es with
  | nil => rfl
  | cons e es ih =>
    obtain ⟨m, e⟩ := e
    by_cases hm : m = l
    · subst hm
      have hk : (k == m) = false := by simpa using h
      rw [List.filter_cons_of_neg (by simp), List.lookup_cons, hk, ih]
    · rw [List.filter_cons_of_pos (by simpa using hm), List.lookup_cons, List.lookup_cons, ih]

theorem lookup_replace_self (es : List (Location × Entry)) {l : Location} (e : Entry)
    (h : es.any (·.1 = l)) :
    (es.map fun x => if x.1 = l then (l, e) else x).lookup l = some e := by
  induction es with
  | nil => simp at h
  | cons x es ih =>
    obtain ⟨m, x⟩ := x
    by_cases hm : m = l
    · simp [hm]
    · have hb : (l == m) = false := by simpa using fun h => hm h.symm
      simpa [List.lookup_cons, hm, hb] using ih (by simpa [hm] using h)

theorem lookup_replace_of_ne (es : List (Location × Entry)) {k l : Location} (e : Entry)
    (h : k ≠ l) :
    (es.map fun x => if x.1 = l then (l, e) else x).lookup k = es.lookup k := by
  induction es with
  | nil => rfl
  | cons x es ih =>
    obtain ⟨m, x⟩ := x
    by_cases hm : m = l
    · subst hm
      have hb : (k == m) = false := by simpa using h
      simp [List.lookup_cons, hb, ih]
    · simp [List.lookup_cons, hm, ih]

theorem get?_insert_self (t : FileTree) {l : Location} (e : Entry) (h : l ≠ []) :
    (t.insert l e).get? l = some e := by
  rw [get?_of_ne_nil _ h]
  by_cases hl : t.hasEntry l
  · simpa [insert, setTime, replace, hl] using lookup_replace_self t.entries e hl
  · simp [insert, setTime, make, hl]

theorem get?_insert_of_ne (t : FileTree) {k l : Location} (e : Entry) (h : k ≠ l) :
    (t.insert l e).get? k = t.get? k := by
  cases k with
  | nil => rfl
  | cons n k =>
    have hb : (n :: k == l) = false := by simpa using h
    by_cases hl : t.hasEntry l
    · simpa [get?, insert, setTime, replace, hl] using lookup_replace_of_ne t.entries e h
    · simp [get?, insert, setTime, make, hl, List.lookup_cons, hb]

theorem get?_erase_self (t : FileTree) {l : Location} (h : l ≠ []) : (t.erase l).get? l = none := by
  rw [get?_of_ne_nil _ h]
  exact lookup_filter_self _ _

theorem get?_erase_of_ne (t : FileTree) {k l : Location} (h : k ≠ l) :
    (t.erase l).get? k = t.get? k := by
  cases k with
  | nil => rfl
  | cons n k => exact lookup_filter_of_ne _ h

/-- The location is inside the directory at `top`. -/
def isInside (top l : Location) : Bool := top.isSuffixOf l && l ≠ top

/-- Take away what lies at a location, and all that is inside it. -/
def eraseAll (t : FileTree) (l : Location) : FileTree :=
  { t.setTime l.tail t.now with entries := t.entries.filter fun e => !(l.isSuffixOf e.1) }

/-- The directory at a location has entries. -/
def hasEntries (t : FileTree) (l : Location) : Bool := t.entries.any fun e => isInside l e.1

/-- The content of the file at a location, if there is one. -/
def content? (t : FileTree) (l : Location) : Option Bytes :=
  match t.get? l with
  | some (.file content) => some content
  | _ => none

/-- The bytes of the path from `top` to a location inside it. -/
def pathBytes (top l : Location) : Bytes :=
  List.intercalate [0x2F] (l.take (l.length - top.length)).reverse

/-- The entries inside a directory by their paths from it, in order of the bytes of the paths. -/
def listing (t : FileTree) (top : Location) : List (Bytes × Entry) :=
  let inside := t.entries.filter fun e => isInside top e.1
  (inside.map fun e => (pathBytes top e.1, e.2)).mergeSort fun a b => compare a.1 b.1 != .gt

/-- The names of the entries right inside a directory, the one made last first. -/
def children (t : FileTree) (top : Location) : List Bytes :=
  t.entries.filterMap fun e =>
    match e.1 with
    | n :: parent => if parent = top then some n else none
    | [] => none

/-- The names of the entries right inside a directory, in order. -/
def names (t : FileTree) (top : Location) : List Bytes :=
  (t.children top).mergeSort fun a b => compare a b != .gt

end FileTree

end GoldenCheck
