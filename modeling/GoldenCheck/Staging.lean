import GoldenCheck.Files.World

/-!
# Staging files

A staging file stands beside the place of a report while the report is being made. Its name is one
that nothing in the directory has (`freshName?`), and ends with the extension of the report.
-/

namespace GoldenCheck

namespace Staging

/-- The beginning of the name of a staging file. -/
def nameStart : String := ".reportgen-"

/-- A number in six digits, or more if it needs them. -/
def sixDigits (n : Nat) : String :=
  let digits := toString n
  String.ofList (List.replicate (6 - digits.length) '0') ++ digits

/-- The end of the name of a staging file: the extension of the output, because the engine may
choose a format by it. -/
def nameEnd (output : Path) : String :=
  match output.extension? with
  | some ext => "." ++ Utf8.decodeLossy ext
  | none => ""

/-- The name of the `n`-th staging file. -/
def nameOf (output : Path) (n : Nat) : Bytes :=
  Utf8.encode (nameStart ++ sixDigits n ++ nameEnd output)

/-- The directory of an output. -/
def directoryOf (output : Path) : Path :=
  match output.parent? with
  | some p => if p.isEmpty then ⟨[Path.dot]⟩ else p
  | none => ⟨[Path.dot]⟩

/-- A name for a staging file in a directory, that nothing there has. One of as many names as there
are entries and one more is free. -/
def freshName? (tree : FileTree) (directory : Location) (output : Path) : Option Bytes :=
  (((List.range (tree.entries.length + 1)).map (nameOf output)).find? fun name =>
    (tree.get? (name :: directory)).isNone)

/-- The path of a location. -/
def pathOf (l : Location) : Path := ⟨l.reverse.flatMap (Path.slash :: ·)⟩

/-- The error of a staging file that cannot be made. -/
def failure (cause : SystemError) (l : Location) : SystemError :=
  .other (cause.message ++ " at path \"" ++ (pathOf l).display ++ "\"")

/-- Make an empty staging file for an output, in a directory that exists. -/
def make (w : World) (output : Path) : Except SystemError (Location × World) := do
  let (directory, entry) ← w.lookup (directoryOf output)
  if !entry.isDirectory then throw .notADirectory
  match freshName? w.tree directory output with
  | none => throw .alreadyExists
  | some name =>
    let l := name :: directory
    if World.longestName < name.length ∨ World.longestPath < (pathOf l).bytes.length then
      throw (failure .nameTooLong l)
    return (l, { w with tree := w.tree.insert l (.file []) })

/-- Something was left in a staging file. -/
def isFilled (w : World) (l : Location) : Bool :=
  match w.tree.get? l with
  | some (.file content) => !content.isEmpty
  | some .directory => true
  | _ => false

/-- Remove a staging file. -/
def remove (w : World) (l : Location) : World :=
  match w.tree.get? l with
  | some .directory => w
  | _ => { w with tree := w.tree.erase l }

end Staging

end GoldenCheck
