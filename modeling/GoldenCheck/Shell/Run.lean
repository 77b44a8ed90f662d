import GoldenCheck.Shell.Builtin.Condition
import GoldenCheck.Shell.Builtin.Control
import GoldenCheck.Shell.Builtin.Directory
import GoldenCheck.Shell.Builtin.Names
import GoldenCheck.Shell.Builtin.Output
import GoldenCheck.Shell.Builtin.Processes
import GoldenCheck.Shell.Builtin.Variables
import GoldenCheck.Shell.Grammar
import GoldenCheck.Shell.Redirection

/-!
# Running commands

`evaluate` runs one command, which is made of others. How those are run it is told by a `Context`;
`Context.ofDepth` is the context in which commands can be inside commands down to some depth.

A shell that is to end after a command does not start a process for it, unless there is something
left to do at the end (`Flags.exits`). Where the status of a command is looked at, its failure does
not end a shell that ends on failures (`Flags.tested`).
-/

namespace GoldenCheck

namespace Shell

/-- How a command is run. -/
structure Flags where
  /-- The shell ends after it. -/
  exits : Bool := false
  /-- Its status is looked at. -/
  tested : Bool := false
  deriving DecidableEq, Repr

/-- What the run of a command is given. -/
structure Context where
  /-- The programs that are installed. -/
  programs : Programs
  /-- How a command inside it is run; its status. -/
  run : Flags → Node → ShellM Nat

/-- Set the status of the last command. -/
def setStatus (status : Nat) : ShellM Unit := modify fun s => { s with status }

/-- Set the line of the command that runs. -/
def setLine (line : Nat) : ShellM Unit := modify fun s => { s with line }

/-! ### Texts -/

/-- Read the next command of a text; nothing at its end. -/
def nextCommand (r : Reader) : ShellM (Option (Option Node) × Reader) := do
  let s ← get
  let r := { r with aliases := s.aliases, documents := [], nextDocument := s.nextDocument }
  match readCommand r with
  | .error e =>
    setLine e.line
    fail (ofText ("Syntax error: " ++ e.text))
  | .ok (n, r) =>
    set { s with
      documents := r.documents ++ s.documents
      nextDocument := r.nextDocument
      readLine := r.line }
    return (n, r)

/-- The text has no more commands. -/
def Reader.isAtEnd (r : Reader) : Bool := r.isHeld && r.last == .theEnd

/-- Read a text inside the script of the shell. -/
def inside (reading : ShellM Nat) : ShellM Nat := do
  let s ← get
  set { s with scriptLine := some (s.scriptLine.getD s.readLine) }
  let status ← reading
  modify fun after => { after with readLine := s.readLine, scriptLine := s.scriptLine }
  return status

/-- Run the commands of a text; the status of the last one. -/
def runText (c : Context) (flags : Flags) (text : Chars) : ShellM Nat :=
  inside (go { input := text } 0 longest)
where
  /-- Go on after a command with a status. -/
  go (r : Reader) (status : Nat) : Nat → ShellM Nat
    | 0 => return status
    | fuel + 1 => do
      match ← nextCommand r with
      | (none, _) => return status
      | (some none, r) => go r status fuel
      | (some (some n), r) =>
        let status ← c.run { flags with exits := flags.exits && r.isAtEnd } n
        if (← get).skip.isSome then return status
        go r status fuel

/-- Run the commands of a file; the status of the last one. The text may be shown as it is read. -/
def runFile (c : Context) (text : Chars) : ShellM Nat :=
  go { input := text } 0 longest
where
  /-- Go on after a command with a status. -/
  go (r : Reader) (status : Nat) : Nat → ShellM Nat
    | 0 => return status
    | fuel + 1 => do
      let (n, after) ← nextCommand r
      if (← get).has 'v' then
        let _ ← emit 2 (r.input.take (r.input.length - after.input.length))
      match n with
      | none => return status
      | some none => go after status fuel
      | some (some n) =>
        let status ← c.run {} n
        match (← get).skip with
        | some .return | some .leave =>
          modify fun s => { s with skip := none }
          return status
        | some _ => return status
        | none => go after status fuel

/-! ### Signals -/

/-- Do what is to be done when signals come. Nothing is done while something is left out. -/
def runTraps (c : Context) : ShellM Unit := do
  let noted ← call Task.takeSignals
  let s ← get
  if noted.isEmpty ∧ s.pending.isEmpty then return
  let status := s.savedStatus.getD s.status
  set { s with savedStatus := some status, pending := s.pending ++ noted }
  go status Signal.limit
  modify fun s' => { s' with savedStatus := s.savedStatus }
where
  /-- Go on with the least of the signals. -/
  go (status : Nat) : Nat → ShellM Unit
    | 0 => return
    | fuel + 1 => do
      let s ← get
      match s.pending.min? with
      | none => return
      | some signal =>
        if s.skip.isSome then return
        set { s with pending := s.pending.filter (· ≠ signal) }
        if let some action := s.traps.lookup signal then
          let _ ← runText c {} action
          if (← get).skip ≠ some .return then setStatus status
        go status fuel

/-! ### The end -/

/-- Bring the shell into order after it was broken off. A status that was kept for the end may be
taken up. -/
def settle (takesSaved : Bool) : ShellM Unit := do
  modify fun s =>
    let status := if takesSaved then s.savedStatus.getD s.status else s.status
    { s with status, savedStatus := none, skip := none, loops := 0, isTracing := false }
  Redirection.takeAllBack

/-- Do what is to be done at the end of the shell. -/
def runFarewell (c : Context) : ShellM Unit := do
  let s ← get
  let others := s.traps.filter (·.1 ≠ 0)
  set { s with savedStatus := some s.status, traps := others, skip := none }
  let takesSaved ← match s.traps.lookup 0 with
    | none => pure true
    | some action => tryCatch (do let _ ← runText c {} action; return true) fun stop =>
      return stop = .exit
  settle takesSaved
  let _ ← flush

/-- Run something as all that a shell does; how its process ends then. -/
def runWhole (c : Context) (body : ShellM Unit) (s : Session) : Task ProcessEnd := do
  let whole : ShellM Unit := do
    tryCatch body fun stop => settle (stop = .exit)
    runFarewell c
  let (_, s) ← whole.run.run s
  return .exited (s.status % 256)

/-- Run a command as all that a child does. -/
def runChild (c : Context) (flags : Flags) (n : Node) (s : Session) : Task ProcessEnd :=
  runWhole c (do let _ ← c.run { flags with exits := true } n) s

/-! ### Words -/

/-- Let the output of a command stand for it. -/
def substitute (c : Context) : Substitution := fun n => do
  let (reading, writing) ← openPipe
  let job ← addJob
  startChild job false fun s => do
    Task.change fun m =>
      let m := m.close reading
      match m.duplicate writing 1 with
      | .ok m => m.close writing
      | .error _ => m
    runChild c {} n s
  closeDescriptor writing
  let content ← call (Task.readAll reading)
  closeDescriptor reading
  let status ← waitForJob job
  modify fun s => { s with wordStatus := status }
  let bytes := match content with
    | .ok bytes => bytes
    | .error _ => []
  return ofBytes (bytes.filter (· ≠ 0))

/-! ### Programs -/

/-- Something in the shell is left to be done at a signal or at the end. -/
def Session.hasTraps (s : Session) : Bool := s.traps.any (!·.2.isEmpty)

/-- Become a program that one of some paths leads to. -/
def becomeProgram (c : Context) (paths : List Chars) (args : List Chars) : ShellM α := do
  let environment := (← get).environment
  let cause ← go environment .notFound paths
  let isMissing := [.notFound, .notADirectory, .nameTooLong].contains cause
  failEnding (if isMissing then 127 else 126)
    (args.headD [] ++ ofText (": " ++ missingWords cause))
where
  /-- Go on when there was some reason why no path was right. -/
  go (environment : List (Bytes × Bytes)) (cause : SystemError) :
      List Chars → ShellM SystemError
    | [] => return cause
    | path :: rest => do
      let e ← call (c.programs.become ⟨toBytes path⟩ (args.map toBytes) environment)
      go environment (if e = .notFound ∨ e = .notADirectory then cause else e) rest
  /-- Complain, and end the shell with a status. -/
  failEnding (status : Nat) (words : Chars) : ShellM α := do
    setStatus status
    warn words
    let _ ← flush
    throw .finished

/-- Run a program in a process of its own; its status. -/
def runProgram (c : Context) (path : Chars) (args : List Chars) : ShellM Nat := do
  let job ← addJob
  startChild job false fun s => do
    let (_, s) ← ((becomeProgram c [path] args : ShellM Unit).run.run s)
    return .exited s.status
  waitForJob job

/-! ### The shell's own commands -/

/-- `eval`. -/
def evaluateText (c : Context) (flags : Flags) : Builtin := fun args => do
  if args.isEmpty then return 0
  runText c { tested := flags.tested } (List.intercalate [' '] args)

/-- The file that `.` runs: one in the directories of programs, unless it is given by a path. -/
def findScript (name : Chars) : ShellM Chars := do
  if name.contains '/' then return name
  let w ← call (Task.look (·.places))
  let places := (placesFor ((← get).value? (ofText "PATH")) name).filter (·.mark ≠ some .own)
  match places.find? fun place => (w.look ⟨toBytes place.path⟩).isFile with
  | some place => return place.path
  | none => fail (name ++ ofText ": not found")

/-- The text of a script. -/
def readScript (path : Chars) : ShellM Chars := do
  let n ← Redirection.openToRead path
  let content ← call do
    let descriptor ← Task.act fun m =>
      let descriptor := m.freeDescriptor hiddenDescriptor
      (descriptor, m.install descriptor n)
    let content ← Task.readAll descriptor
    Task.change (·.close descriptor)
    return content
  match content with
  | .ok bytes => return ofBytes (bytes.filter (· ≠ 0))
  | .error _ => return []

/-- `.`. -/
def runScript (c : Context) : Builtin := fun args => do
  match ← withoutOptions args with
  | [] => return 0
  | name :: _ =>
    let path ← findScript name
    let text ← readScript path
    modify fun s => { s with command := some path }
    inside (runFile c text)

/-- `exec`. -/
def become (c : Context) : Builtin := fun args => do
  match args with
  | [] => return 0
  | name :: _ =>
    let places := placesFor ((← get).value? (ofText "PATH")) name
    let paths := (places.filter (·.mark.isNone)).map (·.path)
    becomeProgram c (if name.contains '/' then [name] else paths) args

/-- Run a file that defines functions. -/
def loadFunctions (c : Context) (path : Chars) : ShellM Unit := do
  let text ← readScript path
  let _ ← inside (runFile c text)

/-- What a command of the shell does. -/
def builtin (c : Context) (flags : Flags) (name : String) : Builtin :=
  match name with
  | "." => runScript c
  | "[" => bracket
  | "alias" => setAliases
  | "bg" | "fg" => moveJob
  | "break" => leaveLoops .break
  | "cd" | "chdir" => changeDirectory
  | "command" => commandNames (loadFunctions c)
  | "continue" => leaveLoops .continue
  | "echo" => echo
  | "eval" => evaluateText c flags
  | "exec" => become c
  | "exit" => exit
  | "export" => mark true
  | "false" => fun _ => return 1
  | "getopts" => getopts
  | "hash" => hash (loadFunctions c)
  | "jobs" => showJobs
  | "kill" => kill
  | "local" => keepLocal
  | "printf" => printf
  | "pwd" => tellDirectory
  | "read" => readLine
  | "readonly" => mark false
  | "return" => giveBack
  | "set" => setOptions
  | "shift" => shift
  | "test" => test
  | "times" => times
  | "trap" => trap
  | "type" => typeNames (loadFunctions c)
  | "ulimit" => ulimit
  | "umask" => umask
  | "unalias" => dropAliases
  | "unset" => forgetNames
  | "wait" => wait
  | _ => fun _ => return 0

/-- Run a command of the shell. What is wrong with it does not end the shell, unless the command is
a special one. -/
def runOwn (command : Option Chars) (isSpecial : Bool) (body : ShellM Nat) : ShellM Unit := do
  let old := (← get).command
  modify fun s => { s with command }
  let whole : ShellM Unit := do
    let status ← body
    if ← flush then setStatus status
    else
      warn ((command.map (· ++ ofText ": ")).getD [] ++ ofText "I/O error")
      setStatus (status ||| 1)
  let restore : ShellM Unit := modify fun s => { s with command := old, said := [] }
  tryCatch whole fun stop => do
    restore
    if stop ≠ .error || isSpecial then throw stop
  restore

/-- How many functions can run, each called by the one before. -/
def functionLimit : Nat := 1000

/-- Run a function. -/
def runFunction (c : Context) (flags : Flags) (body : Node) (args : List Chars) :
    ShellM Unit := do
  let s ← get
  if functionLimit ≤ s.depth then
    fail (ofText ("Maximum function recursion depth (" ++ toString functionLimit ++ ") reached"))
  set { s with
    args := args.drop 1, depth := s.depth + 1, loops := 0, optionIndex := 1, optionOffset := none }
  let restore : ShellM Unit := modify fun s' => { s' with
    args := s.args, depth := s.depth, loops := s.loops
    optionIndex := s.optionIndex, optionOffset := s.optionOffset
    skip := if s'.skip = some .return ∨ s'.skip = some .leave then none else s'.skip }
  tryCatch (do let _ ← c.run { tested := flags.tested } body) fun stop => do
    restore
    throw stop
  restore

/-! ### Simple commands -/

/-- A simple command whose first words were expanded. -/
structure Prepared where
  /-- The arguments so far, with the name of the command. -/
  args : List Chars := []
  /-- All texts so far, as they are shown. -/
  shown : List Chars := []
  /-- The words that are left. -/
  rest : List (Word Node)
  /-- What the name stands for. -/
  meaning : Option Meaning := none
  /-- It is a special command of the shell, if it is any. -/
  isSpecial : Option Bool := none
  /-- Its assignments last only as long as it runs. -/
  keepsOld : Bool := false
  /-- The directories to look for it in, if they are given. -/
  directories : Option Chars := none
  /-- Functions are left out. -/
  skipsFunctions : Bool := false

namespace Prepared

/-- Expand words until there is one more argument, if there are any. -/
def fill (c : Context) (p : Prepared) : List (Word Node) → ShellM Prepared
  | [] => return { p with rest := [] }
  | w :: rest => do
    let args ← arguments (substitute c) [w]
    let p := { p with args := p.args ++ args, shown := p.shown ++ args, rest }
    if args.isEmpty then p.fill c rest else return p

/-- There is an argument at a place, or one can be had by expanding words. -/
def upTo (c : Context) (p : Prepared) (k : Nat) : ShellM Prepared :=
  if p.args.length ≤ k then p.fill c p.rest else return p

/-- The command after `command` and its options, if it is to be run. -/
def unwrap (c : Context) (p : Prepared) (k : Nat) : Nat → ShellM (Prepared × Option Nat)
  | 0 => return (p, none)
  | fuel + 1 => do
    let p ← p.upTo c k
    match p.args[k]? with
    | none => return (p, none)
    | some ['-', '-'] =>
      let p ← p.upTo c (k + 1)
      return (p, if k + 1 < p.args.length then some (k + 1) else none)
    | some ('-' :: letters) =>
      if letters.isEmpty then return (p, some k)
      else if letters.all (· = 'p') then
        unwrap c { p with directories := some defaultPath } (k + 1) fuel
      else
        let directories :=
          if letters.head? = some 'p' then some defaultPath else p.directories
        return ({ p with directories }, none)
    | some _ => return (p, some k)

/-- Find out what the command is. Functions may be left out. -/
def identify (c : Context) (skipsFunctions : Bool) (p : Prepared) : Nat → ShellM Prepared
  | 0 => return p
  | fuel + 1 => do
    let name := p.args.headD []
    let meaning := (← get).meaning skipsFunctions name
    let p := { p with meaning := some meaning, skipsFunctions }
    match meaning with
    | .own o =>
      let p := match p.isSpecial with
        | some _ => { p with keepsOld := true }
        | none => { p with isSpecial := some o.isSpecial, keepsOld := !o.isSpecial }
      if o.name ≠ "command" then return p
      match ← p.unwrap c 1 longest with
      | (p, some k) => identify c true { p with args := p.args.drop k } fuel
      | (p, none) => return p
    | _ => return { p with keepsOld := true }

/-- Expand the words that are left. -/
def expandRest (c : Context) (p : Prepared) : ShellM Prepared := do
  let assigns := match p.meaning with
    | some (.own o) => o.assigns
    | _ => false
  let more ← p.rest.mapM fun w =>
    if assigns && isAssignment w then do
      return [← singleText (substitute c) .assignment w]
    else arguments (substitute c) [w]
  let more := more.flatten
  return { p with args := p.args ++ more, shown := p.shown ++ more, rest := [] }

/-- Expand the words of a command, and find out what it is. -/
def ofWords (c : Context) (words : List (Word Node)) : ShellM Prepared := do
  let p ← ({ rest := words } : Prepared).fill c words
  if p.args.isEmpty then return p
  let p ← p.identify c false longest
  p.expandRest c

/-- The command is `exec`. -/
def isExec (p : Prepared) : Bool :=
  match p.meaning with
  | some (.own o) => o.name == "exec"
  | _ => false

end Prepared

/-- Show a command before it is run. -/
def trace (c : Context) (texts : List Chars) : ShellM Unit := do
  let s ← get
  if !s.has 'x' || s.isTracing then return
  set { s with isTracing := true }
  let mark := (s.value? (ofText "PS4")).getD []
  let start ← match readText { input := mark } with
    | .ok w => singleText (substitute c) .document w
    | .error _ => pure mark
  modify fun s => { s with isTracing := false }
  let _ ← emit (← get).traceDescriptor (start ++ List.intercalate [' '] texts ++ ['\n'])

/-- Set the variables of a command; the assignments as they are shown. -/
def assignAll (c : Context) (keepsOld exports : Bool) (assignments : List (Word Node)) :
    ShellM (List Chars) :=
  assignments.mapM fun w => do
    let text ← singleText (substitute c) .assignment w
    if keepsOld then makeLocal text true
    else
      let (name, value) := splitAssignment text
      assign name (value.getD []) exports
    return text

/-- Bring back what the innermost command has kept. -/
def bringBack : ShellM Unit := do
  let s ← get
  set { s with locals := s.locals.drop 1 }
  for k in s.locals.head?.getD [] do restore k

/-- Where commands are shown while a command runs whose descriptor for errors may lead elsewhere. -/
def Session.traceTarget (s : Session) : Nat :=
  ((s.changed.head?.bind fun kept => kept.lookup 2).bind id).getD 2

/-- Run what is found for the name of a command; its status, and whether it was found. -/
def runFound (c : Context) (flags : Flags) (p : Prepared) (runsOwn : ShellM Unit) :
    ShellM (Nat × Bool) := do
  let name := p.args.headD []
  let isOwn : Bool := match p.meaning with
    | some (.own _) => true
    | _ => false
  let search := { name, isOwn, directories := p.directories, skipsFunctions := p.skipsFunctions }
  match ← locate (loadFunctions c) search with
  | .error e =>
    warn (name ++ ofText (": " ++ missingWords e))
    return (127, false)
  | .ok .own =>
    runsOwn
    return ((← get).status, true)
  | .ok (.functions _) =>
    if let some (_, body) := (← get).functions.lookup name then runFunction c flags body p.args
    return ((← get).status, true)
  | .ok (.program path) =>
    if flags.exits && !(← get).hasTraps then becomeProgram c [path] p.args
    else return (← runProgram c path p.args, true)

/-- Run a simple command when its variables are set; its status, and whether it was found. -/
def runPrepared (c : Context) (flags : Flags) (p : Prepared) : ShellM (Nat × Bool) := do
  match p.meaning with
  | none =>
    let status := (← get).wordStatus
    runOwn none false (return status)
    return ((← get).status, true)
  | some (.own o) =>
    let isSpecial := p.isSpecial.getD false
    let runsOwn := runOwn p.args.head? isSpecial (builtin c flags o.name (p.args.drop 1))
    if o.isLookedFor && p.directories.isNone && looksForOwn ((← get).value? (ofText "PATH")) then
      runFound c flags p runsOwn
    else
      runsOwn
      return ((← get).status, true)
  | some (.function _ body) =>
    runFunction c flags body p.args
    return ((← get).status, true)
  | some .program => runFound c flags p (pure ())

/-- Run a simple command. -/
def runSimple (c : Context) (flags : Flags) (line : Nat) (assignments words : List (Word Node))
    (redirects : List (Redirect Node)) : ShellM Nat := do
  setLine line
  modify fun s => { s with wordStatus := 0 }
  let p ← Prepared.ofWords c words
  let exports := p.isExec && 1 < p.args.length
  if p.keepsOld then modify fun s => { s with locals := [] :: s.locals }
  let oldTarget := (← get).traceDescriptor
  let redirections ← redirects.mapM (Redirection.ready (substitute c))
  let isChanged ← Redirection.change (substitute c) redirections
  let failWhenSpecial (status : Nat) : ShellM Unit := do
    setStatus status
    if p.isSpecial = some true then throw .error
  let status ← if !isChanged then do
      failWhenSpecial 2
      pure 2
    else do
      modify fun s => { s with traceDescriptor := s.traceTarget }
      let assigned ← assignAll c p.keepsOld exports assignments
      trace c (assigned ++ p.shown)
      let (status, isFound) ← runPrepared c flags p
      if !isFound then failWhenSpecial status
      pure status
  modify fun s => { s with traceDescriptor := oldTarget }
  if p.isExec then Redirection.leaveChanged else Redirection.takeBack
  if p.keepsOld then bringBack
  return status

/-! ### Other commands -/

/-- What a loop does about something that is left out: it ends, or goes on with its next round. -/
def leaveRound : ShellM (Option Skip) := do
  let s ← get
  match s.skip with
  | some .break | some .continue =>
    let count := s.skipCount - 1
    if count = 0 then
      set { s with skip := none, skipCount := 0 }
      return s.skip
    else
      set { s with skipCount := count }
      return some .break
  | skip => return skip

/-- A loop ends. -/
def endsLoop (skip : Option Skip) : Bool := skip.isSome && skip ≠ some .continue

/-- Run something with one more loop around it. -/
def inLoop (body : ShellM Nat) : ShellM Nat := do
  modify fun s => { s with loops := s.loops + 1 }
  let status ← body
  modify fun s => { s with loops := s.loops - 1 }
  return status

/-- Run `while` or `until`. -/
def runLoop (c : Context) (flags : Flags) (untilTrue : Bool) (test body : Node) : ShellM Nat :=
  inLoop (go 0 longest)
where
  /-- Go on after a round with a status. -/
  go (status : Nat) : Nat → ShellM Nat
    | 0 => return status
    | fuel + 1 => do
      let tested ← c.run { tested := true } test
      let skip ← leaveRound
      let status := if skip = some .return then tested else status
      if endsLoop skip then return status
      if skip.isSome then go status fuel
      else if (tested = 0) = untilTrue then return status
      else
        let status ← c.run { tested := flags.tested } body
        if endsLoop (← leaveRound) then return status
        go status fuel

/-- Run `for`. -/
def runFor (c : Context) (flags : Flags) (name : Chars) (body : Node) (items : List Chars) :
    ShellM Nat :=
  inLoop (go 0 items)
where
  /-- Go on after a round with a status. -/
  go (status : Nat) : List Chars → ShellM Nat
    | [] => return status
    | item :: rest => do
      if !isName name then fail (name ++ ofText ": bad variable name")
      assign name item false
      let status ← c.run { tested := flags.tested } body
      if endsLoop (← leaveRound) then return status
      go status rest

/-- A text fits one of some patterns. -/
def fitsAny (c : Context) (text : Chars) : List (Word Node) → ShellM Bool
  | [] => return false
  | w :: rest => do
    if Pattern.fits (← pattern (substitute c) w) text then return true
    fitsAny c text rest

/-- Run `case`. -/
def runArms (c : Context) (flags : Flags) (text : Chars) :
    List (List (Word Node) × Option Node) → ShellM Nat
  | [] => return 0
  | (patterns, body) :: rest => do
    if ← fitsAny c text patterns then
      match body with
      | some n => c.run flags n
      | none => return 0
    else runArms c flags text rest

/-- Run a command in a process of its own. -/
def runApart (c : Context) (flags : Flags) (line : Nat) (inBackground : Bool) (n : Node)
    (redirects : List (Redirect Node)) : ShellM Nat := do
  setLine line
  let redirections ← redirects.mapM (Redirection.ready (substitute c))
  let body (flags : Flags) : ShellM Unit := do
    Redirection.makeAll (substitute c) false redirections
    let _ ← c.run { flags with exits := true } n
  if !inBackground && flags.exits && !(← get).hasTraps then
    modify (·.outside)
    body flags
    return (← get).status
  let job ← addJob
  startChild job inBackground
    (runWhole c (body { flags with tested := flags.tested && !inBackground }))
  if inBackground then return 0 else waitForJob job

/-- Find the program of a simple command before a process is started for it, so that the shell itself
remembers its place. -/
def findAhead (c : Context) : Node → ShellM Unit
  | .simple _ _ (word :: _) _ => do
    let s ← get
    match Word.text? word with
    | none => return
    | some name =>
      let isSought : Bool := isName name && match s.meaning false name with
        | .function .. => false
        | .own o => o.isLookedFor && looksForOwn (s.value? (ofText "PATH"))
        | .program => true
      if isSought then
        let _ ← locate (loadFunctions c) { name, isOwn := (OwnCommand.find? name).isSome }
  | _ => return

/-- Start the stages of a pipeline, each with a descriptor to read from, if it is not the first. -/
def startStages (c : Context) (flags : Flags) (job : Nat) (inBackground : Bool)
    (source : Option Nat) : List Node → ShellM Unit
  | [] => return
  | n :: rest => do
    findAhead c n
    let next ← if rest.isEmpty then pure none else some <$> openPipe
    startChild job inBackground fun s => do
      Task.change fun m =>
        let m := (next.map fun (reading, _) => m.close reading).getD m
        let move (m : Machine) (a b : Nat) : Machine := match m.duplicate a b with
          | .ok m => m.close a
          | .error _ => m
        let m := (source.map (move m · 0)).getD m
        (next.map fun (_, writing) => move m writing 1).getD m
      runChild c flags n s
    if let some reading := source then closeDescriptor reading
    if let some (_, writing) := next then closeDescriptor writing
    startStages c flags job inBackground (next.map (·.1)) rest

/-- Run a pipeline. -/
def runPipe (c : Context) (flags : Flags) (inBackground : Bool) (stages : List Node) :
    ShellM Nat := do
  let job ← addJob
  startStages c flags job inBackground none stages
  if inBackground then return 0 else waitForJob job

/-- Run a command whose redirections are taken back at its end. -/
def runRedirected (c : Context) (flags : Flags) (line : Nat) (n : Node)
    (redirects : List (Redirect Node)) : ShellM Nat := do
  setLine line
  let redirections ← redirects.mapM (Redirection.ready (substitute c))
  let isChanged ← Redirection.change (substitute c) redirections
  let status ← if isChanged then c.run { tested := flags.tested } n else pure 2
  Redirection.takeBack
  return status

/-- A failure of the command ends a shell that ends on failures. -/
def Node.endsShell : Node → Bool
  | .simple .. | .subshell .. | .background .. | .pipe .. => true
  | _ => false

/-- Run a command without what is done before and after all commands; its status, if it has one of
its own. -/
def perform (c : Context) (flags : Flags) : Node → ShellM (Option Nat)
  | .simple line assignments words redirects =>
    some <$> runSimple c flags line assignments words redirects
  | .pipe inBackground stages => some <$> runPipe c flags inBackground stages
  | .negate n => do
    let status ← c.run { tested := true } n
    return some (if status = 0 then 1 else 0)
  | .both a b => do
    let status ← c.run { tested := true } a
    if status ≠ 0 || (← get).skip.isSome then return none
    some <$> c.run flags b
  | .either a b => do
    let status ← c.run { tested := true } a
    if status = 0 || (← get).skip.isSome then return none
    some <$> c.run flags b
  | .sequence a b => do
    let _ ← c.run { tested := flags.tested } a
    if (← get).skip.isSome then return none
    some <$> c.run flags b
  | .background line n redirects => some <$> runApart c flags line true n redirects
  | .subshell line n redirects => some <$> runApart c flags line false n redirects
  | .redirected line n redirects => some <$> runRedirected c flags line n redirects
  | .choice test yes no => do
    let status ← c.run { tested := true } test
    if (← get).skip.isSome then return none
    if status = 0 then some <$> c.run flags yes
    else match no with
      | some n => some <$> c.run flags n
      | none => return some 0
  | .forEach line name words body => do
    setLine line
    let items ← arguments (substitute c) words
    some <$> runFor c flags name body items
  | .loop untilTrue test body => some <$> runLoop c flags untilTrue test body
  | .select line w arms => do
    setLine line
    let text ← singleText (substitute c) .single w
    some <$> runArms c flags text arms
  | .define line name body => do
    modify fun s => { s.forgetPlace name with
      functions := (name, line, body) :: s.functions.filter (·.1 ≠ name) }
    return some 0

/-- Run a command. -/
def evaluate (c : Context) (flags : Flags) (n : Node) : ShellM Nat := do
  let finish (status : Option Nat) (endsShell : Bool) : ShellM Nat := do
    runTraps c
    if endsShell && status.getD 0 ≠ 0 then throw .finished
    if flags.exits then throw .finished
    return (← get).status
  if (← get).has 'n' then finish none false
  else
    runTraps c
    let endsShell := (← get).has 'e' && !flags.tested && n.endsShell
    let status ← perform c flags n
    if let some status := status then setStatus status
    finish status endsShell

/-- The process has used more memory than it has. -/
def exhaust : ShellM α := do
  call (Task.change fun m => m.deliver m.current Signal.badMemory)
  throw .finished

/-- The context in which commands can be inside commands so deep. -/
def Context.ofDepth (programs : Programs) : Nat → Context
  | 0 => ⟨programs, fun _ _ => exhaust⟩
  | depth + 1 => ⟨programs, evaluate (ofDepth programs depth)⟩

/-- How deep commands can be inside commands. -/
def depthLimit : Nat := 18000

/-- The context of a shell. -/
def Context.full (programs : Programs) : Context := ofDepth programs depthLimit

end Shell

end GoldenCheck
