import GoldenCheck.Failure
import GoldenCheck.Files.Tree

/-!
# Working with files

A `World` is a tree of files with a current directory. This module says how a path leads to a
location (`World.lookup`, `World.target?`) and what the operations on files answer.

A path is walked name by name. Whatever is followed by another segment, even an empty one, must be a
directory. `.` stays, `..` goes up and stays at the top.
-/

namespace GoldenCheck

/-- Files and a current directory. -/
structure World where
  /-- The files. -/
  tree : FileTree
  /-- The current directory. -/
  cwd : Location
  deriving DecidableEq, Repr

/-- What a caller can tell about a path without changing anything. -/
inductive FileState where
  /-- Nothing is there, or the way to it is barred. -/
  | absent (cause : SystemError)
  /-- A directory. -/
  | directory
  /-- A file and its content. -/
  | regular (content : Bytes)
  /-- A file whose content cannot be had. -/
  | unreadable (cause : SystemError)
  /-- Neither a directory nor a file; it reads as empty. -/
  | device
  deriving DecidableEq, Repr

namespace FileState

/-- What is there is a file. -/
def isFile : FileState → Bool
  | .regular _ | .unreadable _ => true
  | _ => false

/-- What reading gives. -/
def content : FileState → Except SystemError Bytes
  | .absent cause => .error cause
  | .directory => .error .isADirectory
  | .regular content => .ok content
  | .unreadable cause => .error cause
  | .device => .ok []

end FileState

/-- Where an entry can be made. -/
inductive Target where
  /-- The path ends at a directory without naming it. -/
  | directory (l : Location)
  /-- A name inside a directory; the path may end with a slash. -/
  | child (parent : Location) (name : Bytes) (slashed : Bool)
  deriving DecidableEq, Repr

namespace World

/-- The longest name of an entry. -/
def longestName : Nat := 255

/-- The longest path. -/
def longestPath : Nat := 4095

/-- A path that the system looks at. -/
def checkPath (p : Path) : Except SystemError Unit :=
  if p.bytes.contains 0 then .error .nulInPath
  else if p.isEmpty then .error .notFound
  else if longestPath < p.bytes.length then .error .nameTooLong
  else .ok ()

/-- Go one segment on. -/
def step (w : World) (l : Location) (segment : Bytes) : Except SystemError Location :=
  match w.tree.get? l with
  | none => .error .notFound
  | some e =>
    if !e.isDirectory then .error .notADirectory
    else if segment = [] ∨ segment = [Path.dot] then .ok l
    else if segment = [Path.dot, Path.dot] then .ok l.tail
    else if longestName < segment.length then .error .nameTooLong
    else if (w.tree.get? (segment :: l)).isSome then .ok (segment :: l)
    else .error .notFound

/-- Where the walk along a path begins. -/
def start (w : World) (p : Path) : Location := if p.isAbsolute then [] else w.cwd

/-- The location that a path leads to, and what lies there. -/
def lookup (w : World) (p : Path) : Except SystemError (Location × Entry) := do
  checkPath p
  let l ← p.segments.foldlM w.step (w.start p)
  match w.tree.get? l with
  | some e => return (l, e)
  | none => throw .notFound

/-- Where a path would have an entry made. -/
def target (w : World) (p : Path) : Except SystemError Target := do
  checkPath p
  let backwards := p.segments.reverse
  match backwards.dropWhile (· = []) with
  | [] => return .directory []
  | last :: before =>
    let l ← before.reverse.foldlM w.step (w.start p)
    match w.tree.get? l with
    | none => throw .notFound
    | some e =>
      if !e.isDirectory then throw .notADirectory
      else if last = [Path.dot] ∨ last = [Path.dot, Path.dot] then
        return .directory (if last = [Path.dot] then l else l.tail)
      else if longestName < last.length then throw .nameTooLong
      else return .child l last (backwards.head? == some [])

/-- What can be told about a path. -/
def look (w : World) (p : Path) : FileState :=
  match w.lookup p with
  | .error cause => .absent cause
  | .ok (_, .directory) => .directory
  | .ok (_, .file content) => .regular content
  | .ok (_, .device _) => .device
  | .ok (_, .program _) => .unreadable .permissionDenied

/-- The path leads to a directory. -/
def isDirectory (w : World) (p : Path) : Bool := w.look p == .directory

/-- Read a file. -/
def read (w : World) (p : Path) : Except SystemError Bytes := (w.look p).content

/-- Make one directory. -/
def makeDirectory (w : World) (p : Path) : Except SystemError World := do
  match ← w.target p with
  | .directory _ => throw .alreadyExists
  | .child parent name _ =>
    if (w.tree.get? (name :: parent)).isSome then throw .alreadyExists
    else return { w with tree := w.tree.insert (name :: parent) .directory }

/-- Make a directory and what is missing on the way to it, with fuel for the length of the path.
Directories that were made stay also when a later one cannot be made. -/
def makeDirectories (w : World) : Nat → Path → Except SystemError Unit × World
  | 0, _ => (.error .nameTooLong, w)
  | fuel + 1, p =>
    let settle (w : World) : Except SystemError Unit × World :=
      match w.makeDirectory p with
      | .ok w => (.ok (), w)
      | .error cause => if w.isDirectory p then (.ok (), w) else (.error cause, w)
    if p.isEmpty then (.ok (), w)
    else match w.makeDirectory p, p.parent? with
      | .error .notFound, some parent =>
        match w.makeDirectories fuel parent with
        | (.ok (), w) => settle w
        | (.error cause, w) => (.error cause, w)
      | _, _ => settle w

/-- Make a directory and what is missing on the way to it. -/
def makeAllDirectories (w : World) (p : Path) : Except SystemError Unit × World :=
  w.makeDirectories (p.bytes.length + 1) p

/-- The location of a file to write to, which is made if it is missing, and emptied unless it is to
keep what it holds. -/
def openToWrite (w : World) (p : Path) (keep : Bool) : Except SystemError (Location × World) := do
  match ← w.target p with
  | .directory _ => throw .isADirectory
  | .child parent name slashed =>
    let l := name :: parent
    if slashed then throw .isADirectory
    match w.tree.get? l with
    | some .directory => throw .isADirectory
    | none => return (l, { w with tree := w.tree.insert l (.file []) })
    | some (.device .terminal) => throw .noDevice
    | some (.device _) => return (l, w)
    | some (.program _) => throw .permissionDenied
    | some (.file _) =>
      return (l, if keep then w else { w with tree := w.tree.insert l (.file []) })

/-- Write a file, in place of what it held. -/
def write (w : World) (p : Path) (content : Bytes) : Except SystemError World := do
  let (l, w) ← w.openToWrite p false
  match w.tree.get? l with
  | some (.device .null) => return w
  | some (.device _) => throw .noSpace
  | _ => return { w with tree := w.tree.insert l (.file content) }

/-- Remove a file. -/
def remove (w : World) (p : Path) : Except SystemError World := do
  match ← w.target p with
  | .directory _ => throw .isADirectory
  | .child parent name slashed =>
    match w.tree.get? (name :: parent) with
    | none => throw .notFound
    | some .directory => throw .isADirectory
    | some _ =>
      if slashed then throw .notADirectory
      else return { w with tree := w.tree.erase (name :: parent) }

/-- Remove a file, or a directory with all that is inside it. -/
def removeAll (w : World) (p : Path) : Except SystemError World := do
  let (l, e) ← w.lookup p
  if e.isDirectory then return { w with tree := w.tree.eraseAll l } else w.remove p

/-- Move the file at a location to a path, in place of a file there. -/
def moveTo (w : World) (l : Location) (p : Path) : Except SystemError World := do
  if p.bytes.contains 0 then throw .invalidArgument
  match ← w.target p with
  | .directory _ => throw .busy
  | .child parent name slashed =>
    if slashed then throw .notADirectory
    match w.tree.get? (name :: parent), w.tree.get? l with
    | some .directory, _ => throw .isADirectory
    | _, none => throw .notFound
    | _, some e =>
      let tree := (w.tree.erase l).insert (name :: parent) e
      return { w with tree := tree.setTime (name :: parent) (w.tree.timeOf l) }

/-- Make a directory the current one. -/
def enter (w : World) (p : Path) : Except SystemError World := do
  let (l, e) ← w.lookup p
  if e.isDirectory then return { w with cwd := l } else throw .notADirectory

end World

end GoldenCheck
