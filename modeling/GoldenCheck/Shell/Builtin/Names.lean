import GoldenCheck.Shell.Builtin.Options
import GoldenCheck.Shell.Lookup

/-!
# What names stand for

`type` and `command -v` tell what a name stands for, `hash` where programs are, and `alias` gives a
name a text that is read in its place.
-/

namespace GoldenCheck

namespace Shell

/-- How an alias is shown. -/
def aliasLine (name text : Chars) : Chars := name ++ '=' :: singleQuoted text

/-- How a file that defines functions is run. -/
abbrev Loader := Chars → ShellM Unit

/-- Tell what a name stands for, in words or in brief; its status. Programs may be looked for in
other directories than the usual ones. -/
def describe (load : Loader) (inWords : Bool) (directories : Option Chars) (name : Chars) :
    ShellM Nat := do
  let s ← get
  let tell (words : Chars) (brief : Chars) : ShellM Nat := do
    sayLine (if inWords then words else brief)
    return 0
  let missing : ShellM Nat := do
    if inWords then sayLine (ofText ": not found")
    return 127
  if inWords then say name
  if (Keyword.find? name).isSome then return ← tell (ofText " is a shell keyword") name
  if let some text := s.aliases.lookup name then
    return ← tell (ofText " is an alias for " ++ text) (ofText "alias " ++ aliasLine name text)
  let asFunction : ShellM Nat := tell (ofText " is a shell function") name
  let asOwn (c : OwnCommand) : ShellM Nat :=
    tell (ofText (if c.isSpecial then " is a special shell builtin" else " is a shell builtin"))
      name
  let asProgram (own : Option OwnCommand) : ShellM Nat := do
    match if directories.isNone then s.places.lookup name else none with
    | some (path, _) => tell (ofText " is a tracked alias for " ++ path) path
    | none =>
      match ← locate load { name, directories, isOwn := own.isSome }, own with
      | .ok (.program path), _ => tell (ofText " is " ++ path) path
      | .ok (.functions _), _ => asFunction
      | .ok .own, some c => asOwn c
      | _, _ => missing
  match s.meaning false name with
  | .function .. => asFunction
  | .own c =>
    let isSearched := c.isLookedFor && directories.isNone
      && looksForOwn (s.value? (ofText "PATH"))
    if isSearched then asProgram (some c) else asOwn c
  | .program =>
    if name.contains '/' then
      if (← call (Task.look fun m => (m.places.lookup ⟨toBytes name⟩).isOk)) then
        tell (ofText " is " ++ name) name
      else missing
    else asProgram none

/-- `type`. -/
def typeNames (load : Loader) : Builtin := fun args =>
  args.foldlM (fun status name => do return status ||| (← describe load true none name)) 0

/-- `command` when it does not run anything. -/
def commandNames (load : Loader) : Builtin := fun args => do
  let p ← OptionLetters.read { plain := ['p', 'v', 'V'] } args
  match p.rest with
  | name :: _ =>
    if p.has 'v' || p.has 'V' then
      describe load (p.has 'V') (if p.has 'p' then some defaultPath else none) name
    else return 0
  | [] => return 0

/-- How many buckets hold the places of programs. -/
def placeBuckets : Nat := 31

/-- `hash`. -/
def hash (load : Loader) : Builtin := fun args => do
  let p ← OptionLetters.read { plain := ['r'] } args
  if p.has 'r' then
    modify fun s => { s with places := [] }
    return 0
  if p.rest.isEmpty then
    for (_, path, isRecent) in inBuckets placeBuckets (← get).places do
      sayLine (path ++ if isRecent then [] else ['*'])
    return 0
  p.rest.foldlM (fun status name => do
    let s := (← get).forgetPlace name
    set s
    let isSearched : Bool := match s.meaning false name with
      | .function .. => false
      | .own c => c.isLookedFor && looksForOwn (s.value? (ofText "PATH"))
      | .program => true
    if !isSearched then return status
    match ← locate load { name, isOwn := (OwnCommand.find? name).isSome } with
    | .ok _ => return status
    | .error e =>
      warn (name ++ ofText (": " ++ missingWords e))
      return 1) 0

/-- How many buckets hold the aliases. -/
def aliasBuckets : Nat := 39

/-- Complain about a name that is no alias. -/
def refuseAlias (command : String) (name : Chars) : ShellM Unit := do
  let _ ← emit 2 (ofText (command ++ ": ") ++ name ++ ofText " not found\n")

/-- `alias`. -/
def setAliases : Builtin := fun args => do
  if args.isEmpty then
    for (name, text) in inBuckets aliasBuckets (← get).aliases do sayLine (aliasLine name text)
    return 0
  args.foldlM (fun status arg => do
    let (name, rest) := match arg with
      | [] => ([], [])
      | c :: cs =>
        let (more, rest) := cs.span (· ≠ '=')
        (c :: more, rest)
    match rest with
    | _ :: text =>
      modify fun s =>
        let replaced := s.aliases.map fun a => if a.1 = name then (name, text) else a
        let isKnown := (s.aliases.lookup name).isSome
        { s with aliases := if isKnown then replaced else s.aliases ++ [(name, text)] }
      return status
    | [] =>
      match (← get).aliases.lookup name with
      | some text =>
        sayLine (aliasLine name text)
        return status
      | none =>
        refuseAlias "alias" name
        return 1) 0

/-- `unalias`. -/
def dropAliases : Builtin := fun args => do
  let p ← OptionLetters.read { plain := ['a'] } args
  if p.has 'a' then
    modify fun s => { s with aliases := [] }
    return 0
  p.rest.foldlM (fun status name => do
    let s ← get
    if (s.aliases.lookup name).isSome then
      set { s with aliases := s.aliases.filter (·.1 ≠ name) }
      return status
    else
      refuseAlias "unalias" name
      return 1) 0

end Shell

end GoldenCheck
