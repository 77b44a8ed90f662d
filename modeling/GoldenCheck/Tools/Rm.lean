import GoldenCheck.Tools.Basic

/-!
# `rm`

`rm` removes files, and directories if it is told to. It may ask before it does so (`Rm.Mood`). What
it cannot remove it complains about and goes on; a directory in which something was left on purpose
or by failure stays as well.
-/

namespace GoldenCheck

namespace Tools

namespace Rm

/-- When to ask. -/
inductive Mood where
  /-- Never. -/
  | never
  /-- Once, before much is removed. -/
  | once
  /-- Each time. -/
  | always
  deriving DecidableEq, Repr

/-- How files are removed. -/
structure Style where
  /-- When to ask; usually only about what the terminal would ask for. -/
  mood : Option Mood := none
  /-- It is no failure that something is missing. -/
  ignoresMissing : Bool := false
  /-- Directories are removed with all that is inside. -/
  isDeep : Bool := false
  /-- Empty directories are removed. -/
  takesEmpty : Bool := false
  /-- What is removed is told. -/
  tells : Bool := false
  /-- The top of all files is not removed. -/
  keepsTop : Bool := true
  deriving DecidableEq, Repr

/-- What became of an entry. -/
structure Fate where
  /-- The status. -/
  status : Nat := 0
  /-- The directories around it have to stay. -/
  holds : Bool := false

/-- Complain about an entry. -/
def refuse (name : Bytes) (e : SystemError) : ToolM Fate := do
  complain (bytes "cannot remove " ++ alwaysQuoted name ++ bytes (": " ++ e.words))
  return { status := 1, holds := true }

/-- Read a line; its first byte. -/
def answer (first : Option UInt8) : Nat → ToolM (Option UInt8)
  | 0 => return first
  | fuel + 1 => do
    match ← call (Task.read 0 1) with
    | .ok [b] => if b = 0x0A then return first else answer (first <|> some b) fuel
    | _ => return first

/-- Ask; whether the answer is yes. -/
def ask (question : Bytes) : ToolM Bool := do
  warnAhead ((← read).name ++ bytes ": " ++ question ++ bytes "? ")
  let b ← answer none Task.patience
  return b = some 0x79 || b = some 0x59

/-- What an entry is called. -/
def kindOf : Entry → String
  | .directory => "directory"
  | .file [] => "regular empty file"
  | .file _ | .program _ => "regular file"
  | .device _ => "character special file"

/-- Ask whether to remove an entry. -/
def agrees (s : Style) (name : Bytes) (e : Entry) : ToolM Bool :=
  if s.mood = some .always then ask (bytes ("remove " ++ kindOf e ++ " ") ++ alwaysQuoted name)
  else return true

/-- Take the entry of a path away. -/
def erase (p : Path) (w : World) : Except SystemError World := do
  match ← w.lookup p with
  | (l, .directory) =>
    if l = [] then throw .busy
    else if w.tree.hasEntries l then throw .directoryNotEmpty
    else return { w with tree := w.tree.erase l }
  | _ => w.remove p

/-- Take an entry away, and tell it. -/
def take (s : Style) (name : Bytes) (isDirectory : Bool) : ToolM Fate := do
  match ← tryChange (erase ⟨name⟩) with
  | .ok () =>
    if s.tells then
      put (bytes (if isDirectory then "removed directory " else "removed ")
        ++ alwaysQuoted name ++ [0x0A])
    return {}
  | .error e =>
    if s.ignoresMissing ∧ (e = .notFound ∨ e = .notADirectory ∨ e = .invalidArgument) then return {}
    else refuse name e

/-- A name with another after it. -/
def within (directory name : Bytes) : Bytes :=
  if directory.getLast? = some Path.slash then directory ++ name
  else directory ++ Path.slash :: name

/-- Remove an entry. -/
def remove (s : Style) (isTop : Bool) (name : Bytes) : Nat → ToolM Fate
  | 0 => return { status := 1 }
  | fuel + 1 => do
    let w ← call (Task.look (·.world))
    match w.lookup ⟨name⟩ with
    | .error _ => take s name false
    | .ok (l, .directory) =>
      let isEmpty := !w.tree.hasEntries l
      let last := (Path.segments ⟨name⟩).reverse.dropWhile (· = []) |>.head?
      if !s.isDeep ∧ !(s.takesEmpty ∧ isEmpty) then
        refuse name (if s.takesEmpty then .directoryNotEmpty else .isADirectory)
      else if isTop ∧ (last = some [Path.dot] ∨ last = some [Path.dot, Path.dot]) then do
        complain (bytes "refusing to remove '.' or '..' directory: skipping " ++ alwaysQuoted name)
        return { status := 1, holds := true }
      else if isTop ∧ s.isDeep ∧ s.keepsTop ∧ l = [] then do
        let shown := if name = [Path.slash] then bytes "'/'"
          else alwaysQuoted name ++ bytes " (same as '/')"
        complain (bytes "it is dangerous to operate recursively on " ++ shown)
        complain (bytes "use --no-preserve-root to override this failsafe")
        return { status := 1, holds := true }
      else if s.mood = some .always ∧ isEmpty then
        if ← agrees s name .directory then take s name true else return { holds := true }
      else do
        let goesOn ← if s.mood = some .always then
            ask (bytes "descend into directory " ++ alwaysQuoted name)
          else pure true
        if !goesOn then return { holds := true }
        let inside ← (w.tree.children l).foldlM (fun fate n => do
          let next ← remove s false (within name n) fuel
          return { status := max fate.status next.status, holds := fate.holds || next.holds })
          ({} : Fate)
        if inside.holds then return inside
        else if ← agrees s name .directory then
          let fate ← take s name true
          return { fate with status := max inside.status fate.status }
        else return inside
    | .ok (_, e) =>
      if ← agrees s name e then take s name false else return {}

/-- A path without slashes at its end but for one. -/
def trim (name : Bytes) : Bytes :=
  let body := name.reverse.dropWhile (· = Path.slash) |>.reverse
  if name.length ≤ 2 ∨ body.length + 1 ≥ name.length then name
  else body ++ [Path.slash]

/-- The options. -/
def options : OptionTable where
  letters := "dfirvIR".toList.map (·, .nothing)
  names := [("force", .nothing, "f"), ("interactive", .perhaps, "interactive"),
    ("one-file-system", .nothing, "one-file-system"),
    ("no-preserve-root", .nothing, "no-preserve-root"),
    ("preserve-root", .perhaps, "preserve-root"),
    ("-presume-input-tty", .nothing, "-presume-input-tty"), ("recursive", .nothing, "r"),
    ("dir", .nothing, "d"), ("verbose", .nothing, "v"), ("help", .nothing, "help"),
    ("version", .nothing, "version")]

/-- Ask in some way from now on. -/
def Style.asking (s : Style) : Mood → Style
  | .never => { s with mood := some .never }
  | mood => { s with mood := some mood, ignoresMissing := false }

/-- The words for the ways to ask. -/
def moods : List (String × Mood) :=
  [("never", .never), ("no", .never), ("none", .never), ("once", .once), ("always", .always),
   ("yes", .always)]

/-- One more option. -/
def Style.option (s : Style) (key : String) (argument : Bytes) : ToolM Style :=
  match key with
  | "d" => return { s with takesEmpty := true }
  | "f" => return { s with mood := some .never, ignoresMissing := true }
  | "i" => return s.asking .always
  | "I" => return s.asking .once
  | "r" | "R" => return { s with isDeep := true }
  | "v" => return { s with tells := true }
  | "interactive" => do
    if argument.isEmpty then return s.asking .always
    return s.asking (← choose "--interactive" moods argument)
  | "no-preserve-root" => do
    if !(← read).words.contains (bytes "--no-preserve-root") then
      stop (bytes "you may not abbreviate the --no-preserve-root option")
    return { s with keepsTop := false }
  | "preserve-root" => do
    if !argument.isEmpty ∧ argument ≠ bytes "all" then
      stop (bytes "unrecognized --preserve-root argument: " ++ alwaysQuoted argument)
    return { s with keepsTop := true }
  | _ => return s

/-- More operands than this are not removed without a question when it is asked once. -/
def many : Nat := 3

/-- Ask before much is removed. -/
def agreesToAll (s : Style) (count : Nat) : ToolM Bool :=
  if s.mood = some .once ∧ (s.isDeep ∨ many < count) then
    ask (bytes ("remove " ++ toString count ++ (if count = 1 then " argument" else " arguments")
      ++ (if s.isDeep then " recursively" else "")))
  else return true

/-- Say how to remove the first file whose name looks like an option. -/
def advise : ToolM Unit := do
  let c ← read
  let w ← call (Task.look (·.world))
  let isThere (arg : Bytes) := arg.head? = some dash ∧ arg.length ≠ 1 ∧ (w.lookup ⟨arg⟩).isOk
  match c.args.find? isThere with
  | none => return
  | some arg =>
    warn (bytes "Try '" ++ c.name ++ bytes " ./" ++ shellQuoted arg
      ++ bytes "' to remove the file " ++ alwaysQuoted arg ++ bytes ".\n")

end Rm

/-- The tool that removes files. -/
def rm : Tool Rm.Style where
  options := Rm.options
  advice := Rm.advise
  initial := {}
  option s key argument := s.option key (argument.getD [])
  work s operands := do
    if operands.isEmpty then
      if s.ignoresMissing then return 0 else misused (bytes "missing operand")
    if !(← Rm.agreesToAll s operands.length) then return 0
    forEach operands fun name => do
      return (← Rm.remove s true (Rm.trim name) Task.patience).status

end Tools

end GoldenCheck
