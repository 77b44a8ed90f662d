import GoldenCheck.Shell.Session

/-!
# What commands stand for

A command is a function, a command of the shell itself, or a program in one of the directories that
the shell looks in (`search`). The shell remembers the places of programs that were run.

A directory can be marked (`PlaceMark`): where files define functions, or where the commands of the
shell are to be looked for, which then may stand behind programs.
-/

namespace GoldenCheck

namespace Shell

/-- A command of the shell itself. -/
structure OwnCommand where
  /-- Its name. -/
  name : String
  /-- An error in it ends the shell, and its assignments stay. -/
  isSpecial : Bool := false
  /-- Its arguments can be assignments. -/
  assigns : Bool := false
  deriving DecidableEq, Repr

namespace OwnCommand

/-- The commands of the shell. -/
def table : List OwnCommand :=
  let special := [".", ":", "break", "continue", "eval", "exec", "exit", "return", "set", "shift",
    "times", "trap", "unset"].map fun name => { name, isSpecial := true : OwnCommand }
  let assigning := ["export", "local", "readonly"].map fun name =>
    { name, isSpecial := true, assigns := true : OwnCommand }
  let plain := ["[", "bg", "cd", "chdir", "command", "echo", "false", "fg", "getopts", "hash",
    "jobs", "kill", "printf", "pwd", "read", "test", "true", "type", "ulimit", "umask", "unalias",
    "wait"].map fun name => { name : OwnCommand }
  { name := "alias", assigns := true } :: special ++ assigning ++ plain

/-- The command of a name. -/
def find? (name : Chars) : Option OwnCommand :=
  let name := String.ofList name
  table.find? (·.name = name)

end OwnCommand

/-- What a name stands for. -/
inductive Meaning where
  /-- A function, with the line where it begins. -/
  | function (line : Nat) (body : Node)
  /-- A command of the shell. -/
  | own (c : OwnCommand)
  /-- A program, if there is one. -/
  | program

/-- What a name stands for. Functions may be left out. -/
def Session.meaning (s : Session) (skipsFunctions : Bool) (name : Chars) : Meaning :=
  match if skipsFunctions then none else s.functions.lookup name with
  | some (line, body) => .function line body
  | none =>
    match if name.contains '/' then none else OwnCommand.find? name with
    | some c => .own c
    | none => .program

/-! ### Where to look -/

/-- What an element in the list of directories can be marked for. -/
inductive PlaceMark where
  /-- The commands of the shell itself are looked for. -/
  | own
  /-- The files in it define functions. -/
  | functions
  deriving DecidableEq, Repr

/-- The words that mark elements. -/
def PlaceMark.table : List (Chars × PlaceMark) :=
  [(ofText "builtin", .own), (ofText "func", .functions)]

/-- The mark at the beginning of a text, and what follows it. -/
def PlaceMark.read? (text : Chars) : Option (PlaceMark × Chars) :=
  table.findSome? fun (word, mark) =>
    if word.isPrefixOf text then
      let rest := text.drop word.length
      some (mark, if rest.head? = some '%' then rest.drop 1 else rest)
    else none

/-- Where a name can be found. -/
structure SearchPlace where
  /-- Its path. -/
  path : Chars
  /-- What the directory is marked for. -/
  mark : Option PlaceMark
  deriving DecidableEq, Repr

/-- The directory of an element, and its mark, before or after the directory. -/
def readElement (element : Chars) : Chars × Option PlaceMark :=
  let (directory, rest) := element.span (· ≠ '%')
  match directory, rest with
  | [], '%' :: text =>
    match PlaceMark.read? text with
    | some (mark, directory) => (directory, some mark)
    | none => (element, none)
  | _, '%' :: text =>
    match PlaceMark.read? text with
    | some (mark, _) => (directory, some mark)
    | none => (element, none)
  | _, _ => (element, none)

/-- The places for a name in the directories of a list. An empty element of the list is the current
directory. -/
def placesFor (directories : Option Chars) (name : Chars) : List SearchPlace :=
  ((directories.map (·.splitOn ':')).getD []).map fun element =>
    let (directory, mark) := readElement element
    ⟨if directory.isEmpty then name else directory ++ '/' :: name, mark⟩

/-- Some commands of the shell are looked for in the directories of a list: one of them after the
first begins with the mark for that, and the first does not. -/
def looksForOwn (directories : Option Chars) : Bool :=
  let elements := (directories.map (·.splitOn ':')).getD []
  let isMarked (element : Chars) : Bool := (ofText "%builtin").isPrefixOf element
  !(elements.take 1).any isMarked && (elements.drop 1).any isMarked

/-- The command is one of those that are looked for where directories are marked. -/
def OwnCommand.isLookedFor (c : OwnCommand) : Bool :=
  ["[", "echo", "hash", "printf", "pwd", "test", "type", "ulimit"].contains c.name

/-- What is looked for. -/
structure Search where
  /-- The name. -/
  name : Chars
  /-- The directories to look in, if they are not the usual ones. -/
  directories : Option Chars := none
  /-- Functions are left out. -/
  skipsFunctions : Bool := false
  /-- The name is one of a command of the shell. -/
  isOwn : Bool := false

/-- What was found. -/
inductive Located where
  /-- A program. -/
  | program (path : Chars)
  /-- A file that defines a function. -/
  | functions (path : Chars)
  /-- A command of the shell. -/
  | own
  deriving DecidableEq, Repr

/-- Look for a name in places. -/
def search (w : World) (q : Search) (places : List SearchPlace) : Except SystemError Located :=
  go .notFound places
where
  /-- Go on when nothing was found yet, for some reason. -/
  go (reason : SystemError) : List SearchPlace → Except SystemError Located
    | [] => .error reason
    | ⟨path, mark⟩ :: rest =>
      if mark = some .own then if q.isOwn then .ok .own else go reason rest
      else if mark = some .functions ∧ q.skipsFunctions then go reason rest
      else match w.lookup ⟨toBytes path⟩, mark with
        | .ok (_, .program _), none => .ok (.program path)
        | .ok (_, .program _), _ | .ok (_, .file _), some _ => .ok (.functions path)
        | .ok _, _ => go .permissionDenied rest
        | .error .notFound, _ | .error .notADirectory, _ => go reason rest
        | .error e, _ => go e rest

/-- The words for a program that cannot be run. -/
def missingWords (e : SystemError) : String :=
  if e = .notFound ∨ e = .notADirectory then "not found" else e.words

/-- Remember where a program is. -/
def Session.remember (s : Session) (name path : Chars) : Session :=
  if (s.places.lookup name).isSome then
    { s with places := s.places.map fun p => if p.1 = name then (name, path, true) else p }
  else { s with places := s.places ++ [(name, path, true)] }

/-- Forget where a program is. -/
def Session.forgetPlace (s : Session) (name : Chars) : Session :=
  { s with places := s.places.filter (·.1 ≠ name) }

/-- Find what a name stands for, and remember its place unless other directories than the usual ones
were looked in or a function was left out. How a file that defines functions is run is given. -/
def locate (load : Chars → ShellM Unit) (q : Search) : ShellM (Except SystemError Located) := do
  if q.name.contains '/' then return .ok (.program q.name)
  let s ← get
  let directories := q.directories <|> s.value? (ofText "PATH")
  let found := search (← call (Task.look (·.places))) q (placesFor directories q.name)
  let remembers := q.directories.isNone && (s.functions.lookup q.name).isNone
  match found with
  | .ok (.program path) => if remembers then set (s.remember q.name path)
  | .ok (.functions path) =>
    load path
    if ((← get).functions.lookup q.name).isNone then
      fail (q.name ++ ofText " not defined in " ++ path)
  | _ => if remembers then set (s.forgetPlace q.name)
  return found

/-- The list of things by their names, in the order in which a table of some size holds them. -/
def inBuckets (size : Nat) (entries : List (Chars × α)) : List (Chars × α) :=
  (List.range size).flatMap fun bucket => entries.filter fun (name, _) =>
    let first := (name.head?.map Char.toNat).getD 0
    (name.foldl (fun n c => n + c.toNat) (16 * first)) % size = bucket

end Shell

end GoldenCheck
