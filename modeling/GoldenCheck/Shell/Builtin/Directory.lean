import GoldenCheck.Shell.Builtin.Options
import GoldenCheck.Shell.Lookup

/-!
# The current directory

`cd` changes the current directory and `pwd` tells its path. The shell keeps the path as it was
written, so `..` takes the last name away wherever it leads. `umask` says what new files do not
allow.
-/

namespace GoldenCheck

namespace Shell

/-- The path of a location. -/
def locationText (l : Location) : Chars :=
  if l.isEmpty then ['/'] else ofBytes (l.reverse.flatMap (Path.slash :: ·))

/-- The current directory. -/
def currentDirectory : ShellM Chars := do
  match (← get).directory with
  | some path => return path
  | none => return locationText (← call (Task.look (·.self.cwd)))

/-- The path that a path leads to from a directory, without names that are taken back. -/
def joinPath (directory path : Chars) : Chars :=
  let isAbsolute := path.head? = some '/'
  let base := if isAbsolute then [] else directory
  let doubled (cs : Chars) : Bool := match cs with
    | '/' :: '/' :: c :: _ => c ≠ '/'
    | ['/', '/'] => true
    | _ => false
  let start := if doubled (if isAbsolute then path else directory) then ['/', '/'] else ['/']
  let names (cs : Chars) : List Chars := (cs.splitOn '/').filter (· ≠ [])
  let step (before : List Chars) (name : Chars) : List Chars :=
    if name = ['.'] then before
    else if name = ['.', '.'] then before.drop 1
    else name :: before
  let joined := (names path).foldl step (names base).reverse
  start ++ List.intercalate ['/'] joined.reverse

/-- Enter a directory; whether that is possible. -/
def enter (path : Chars) (isPhysical : Bool) : ShellM Bool := do
  let old ← currentDirectory
  let goal := if isPhysical then path else joinPath old path
  let entered ← call (Task.attempt fun m => do
    let w ← m.places.enter ⟨toBytes goal⟩
    return ((), m.updateSelf fun p => { p with cwd := w.cwd }))
  match entered with
  | .error _ => return false
  | .ok () =>
    modify fun s => { s with
      directory := if isPhysical then none else some goal
      places := s.places.map fun (name, path, _) => (name, path, false) }
    let new ← currentDirectory
    modify fun s => { s with directory := some new }
    assign (ofText "OLDPWD") old true
    assign (ofText "PWD") new true
    return true

/-- A path that is looked for only in the current directory. -/
def isExplicit (path : Chars) : Bool :=
  match path with
  | '/' :: _ => true
  | ['.'] | '.' :: '/' :: _ | ['.', '.'] | '.' :: '.' :: '/' :: _ => true
  | _ => false

/-- The directory that a path leads to from one of the directories to look in, and whether it is
told. -/
def lookedFor (w : World) (directories path : Chars) : Option (Chars × Bool) :=
  (directories.splitOn ':').findSome? fun directory =>
    let full := if directory.isEmpty then path else directory ++ '/' :: path
    if w.isDirectory ⟨toBytes full⟩ then some (full, !directory.isEmpty) else none

/-- `cd`. -/
def changeDirectory : Builtin := fun args => do
  let p ← OptionLetters.read { plain := ['L', 'P'] } args
  let isPhysical := (p.options.getLast?.map (·.1)) = some 'P'
  let s ← get
  let (goal, isTold) := match p.rest with
    | [] => (s.value? (ofText "HOME"), false)
    | ['-'] :: _ => (s.value? (ofText "OLDPWD"), true)
    | path :: _ => (some path, false)
  let goal := goal.getD []
  let world ← call (Task.look (·.places))
  let relative := if goal.isEmpty then ['.'] else goal
  let found : Option (Chars × Bool) := do
    let directories ← s.value? (ofText "CDPATH")
    if isExplicit goal then none else lookedFor world directories relative
  let (path, isFoundElsewhere) := found.getD (if isExplicit goal then goal else relative, false)
  if !(← enter path isPhysical) then fail (ofText "can't cd to " ++ goal)
  if isTold || isFoundElsewhere then sayLine (← currentDirectory)
  return 0

/-- `pwd`. -/
def tellDirectory : Builtin := fun args => do
  let p ← OptionLetters.read { plain := ['L', 'P'] } args
  if (p.options.getLast?.map (·.1)) = some 'P' then
    sayLine (locationText (← call (Task.look (·.self.cwd))))
  else sayLine (← currentDirectory)
  return 0

/-! ### `umask` -/

/-- All bits of a mask. -/
def allModes : Nat := 511

/-- The bits that letters stand for. -/
def letterBits (table : List (Char × Nat)) (letters : List Char) : Nat :=
  letters.foldl (fun n c => n ||| (table.lookup c).getD 0) 0

/-- Change what is allowed, clause by clause. A clause names users, and after an operator what they
may do; there can be more operators. What users could do before is `old`. -/
def changeModes (old : Nat) : Nat → Nat → Nat → Chars → Option Nat
  | 0, _, _, _ => none
  | fuel + 1, users, modes, text =>
    let (who, rest) := text.span ['a', 'u', 'g', 'o'].contains
    let users := users ||| letterBits [('a', 73), ('u', 64), ('g', 8), ('o', 1)] who
    let users := if users = 0 then 73 else users
    match rest with
    | [] => some modes
    | operator :: rest =>
      let permissions := [('r', 4), ('w', 2), ('x', 1), ('u', old / 64), ('g', old / 8), ('o', old),
        ('X', if old &&& 73 = 0 then 0 else 1), ('s', 0)]
      let (letters, rest) := rest.span fun c => permissions.any (·.1 = c)
      let chosen := letterBits permissions letters % 8 * users
      let changed? : Option Nat := match operator with
        | '+' => some (modes ||| chosen)
        | '-' => some (modes &&& (allModes - chosen))
        | '=' => some (modes &&& (allModes - 7 * users) ||| chosen)
        | _ => none
      match changed?, rest with
      | none, _ => none
      | some modes, ',' :: rest => changeModes old fuel 0 modes rest
      | some modes, rest =>
        if rest.head?.all ['+', '-', '='].contains then changeModes old fuel users modes rest
        else none

/-- What is allowed, in words. -/
def modeWords (mask : Nat) : Chars :=
  let letters (n : Nat) : Chars :=
    let allowed := (allModes - mask) / n
    (if allowed / 4 % 2 = 1 then ['r'] else []) ++ (if allowed / 2 % 2 = 1 then ['w'] else [])
      ++ (if allowed % 2 = 1 then ['x'] else [])
  ofText "u=" ++ letters 64 ++ ofText ",g=" ++ letters 8 ++ ofText ",o=" ++ letters 1

/-- `umask`. -/
def umask : Builtin := fun args => do
  let p ← OptionLetters.read { plain := ['S'] } args
  let s ← get
  match p.rest with
  | [] =>
    if p.has 'S' then sayLine (modeWords s.mask)
    else
      let ds := Nat.toDigits 8 s.mask
      sayLine (List.replicate (4 - ds.length) '0' ++ ds)
  | arg :: _ =>
    if arg.head?.any Char.isDigit then
      if arg.any fun c => c < '0' ∨ '7' < c then failNumber arg
      set { s with mask := arg.foldl (fun n c => 8 * n + digit c) 0 % 512 }
    else
      let modes := allModes - s.mask
      match changeModes modes (arg.length + 1) 0 modes arg with
      | some modes => set { s with mask := allModes - modes }
      | none => fail (ofText "Illegal mode: " ++ arg)
  return 0

end Shell

end GoldenCheck
