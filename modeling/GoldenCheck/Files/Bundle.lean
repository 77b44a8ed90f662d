import GoldenCheck.Files.World
import GoldenCheck.Toml.Document

/-!
# Bundles of files

A bundle is a document that holds the files of a directory. Every key is the path of a file, and
its value the content:

    "cases.toml" = "[engine]\nprogram = \"sh\""
    "src/a.sol" = "contract A {}"

Directories on the way to a file are made; a path whose value is an empty table is a directory of
its own. `Bundle.unpack` puts a bundle into a world.
-/

namespace GoldenCheck

/-- What a bundle holds at a path. -/
inductive BundleItem where
  /-- A file. -/
  | file (content : Bytes)
  /-- A directory. -/
  | directory
  deriving DecidableEq, Repr

/-- Files and directories, in the order in which they are put in place. -/
abbrev Bundle := List (Path × BundleItem)

/-- Why a bundle cannot be put in place. -/
inductive BundleError where
  /-- The text is no document. -/
  | malformed
  /-- The value of a key is no content of a file. -/
  | noContent (key : String)
  /-- Something cannot be written. -/
  | unplaced (path : Path) (cause : SystemError)

/-- What is said to a bundle that cannot be put in place. -/
def BundleError.message : BundleError → String
  | .malformed => "error: the bundle of files is malformed"
  | .noContent key => "error: there is no content for '" ++ key ++ "'"
  | .unplaced path cause =>
    "error: cannot place '" ++ path.display ++ "': " ++ cause.message

/-- What a value in a bundle stands for. -/
def BundleItem.ofValue? : Toml → Option BundleItem
  | .text content => some (.file (Utf8.encode content))
  | .table [] => some .directory
  | _ => none

namespace Bundle

/-- Read a bundle. -/
def ofText (text : String) : Except BundleError Bundle := do
  let some members := Toml.parse? text | throw .malformed
  members.mapM fun (key, value) =>
    match BundleItem.ofValue? value with
    | some item => .ok (.ofText key, item)
    | none => .error (.noContent key)

/-- Put one item in place, with the directories on the way to it. -/
def place (w : World) : Path × BundleItem → Except BundleError World
  | (path, .directory) => .ok (w.makeAllDirectories path).2
  | (path, .file content) =>
    let w := (w.makeAllDirectories (path.parent?.getD ⟨[]⟩)).2
    (w.write path content).mapError (.unplaced path)

/-- Put a bundle in place. -/
def unpack (b : Bundle) (w : World) : Except BundleError World := b.foldlM place w

end Bundle

namespace World

/-- Where the current directory of an empty world lies. -/
def home : Location := ["scratch", "tmp"].map Utf8.encode

/-- The directories that there are before any is made, each by its path from the root. -/
def standing : List (List String) :=
  [["tmp"], ["tmp", "scratch"], ["dev"], ["bin"], ["usr"], ["usr", "bin"], ["etc"], ["home"],
    ["root"], ["var"], ["proc"]]

/-- The directories in which programs are installed. -/
def programDirectories : List (List String) := [["bin"], ["usr", "bin"]]

/-- The programs that are installed. -/
def programs : List String :=
  ["sh", "dash", "true", "false", "sleep", "cat", "rm", "touch", "cmp", "diff"]

/-- What time it is when a world begins: the first of January 2026, in nanoseconds since 1970. -/
def present : Int := 1767225600 * 1000000000

/-- A world with nothing in its current directory. -/
def blank : World :=
  let place (names : List String) : Location := (names.map Utf8.encode).reverse
  let installed := programDirectories.flatMap fun directory => programs.map fun name =>
    (place (directory ++ [name]), Entry.program name)
  let devices := [("null", Device.null), ("full", .full), ("tty", .terminal)].map fun (name, d) =>
    (place ["dev", name], Entry.device d)
  let directories := standing.map fun names => (place names, Entry.directory)
  ⟨{ entries := devices ++ installed ++ directories, now := present }, home⟩

end World

end GoldenCheck
