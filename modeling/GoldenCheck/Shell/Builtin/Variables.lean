import GoldenCheck.Shell.Builtin.Options
import GoldenCheck.Shell.Fields

/-!
# Variables and options

`export`, `readonly`, `local` and `unset` change what variables are, `set` the options and the
arguments of the shell, and `read` gives variables the fields of a line.
-/

namespace GoldenCheck

namespace Shell

/-- Variables in the order of their names. -/
def Session.sorted (s : Session) : List (Chars × Variable) :=
  s.bindings.mergeSort fun a b => compare (toBytes a.1) (toBytes b.1) != .gt

/-- A line that sets a variable again. -/
def variableLine (start name : Chars) (value : Option Chars) : Chars :=
  let value := match value with
    | some value => '=' :: singleQuoted value
    | none => []
  start ++ name ++ value

/-- `export` and `readonly`. -/
def mark (isExport : Bool) : Builtin := fun args => do
  let p ← OptionLetters.read { plain := ['p'] } args
  if p.has 'p' || p.rest.isEmpty then
    for (name, v) in (← get).sorted do
      if if isExport then v.isExported else v.isReadOnly then
        sayLine (variableLine (ofText (if isExport then "export " else "readonly ")) name v.value)
  else
    for arg in p.rest do
      let (name, value) := splitAssignment arg
      let old := (← get).bindings.lookup name
      if old.isNone ∨ value.isSome then
        if !isName name then fail (name ++ ofText ": bad variable name")
      if let some value := value then assign name value false
      let v := ((← get).bindings.lookup name).getD {}
      let v := if isExport then { v with isExported := true } else { v with isReadOnly := true }
      modify fun s => s.setVariable name v
  return 0

/-- `local`. -/
def keepLocal : Builtin := fun args => do
  if (← get).locals.isEmpty then fail (ofText "not in a function")
  for arg in args do makeLocal arg false
  return 0

/-- `unset`. -/
def forgetNames : Builtin := fun args => do
  let p ← OptionLetters.read { plain := ['v', 'f'] } args
  let isFunction := (p.options.getLast?.map (·.1)) = some 'f'
  for arg in p.rest do
    if isFunction then
      modify fun s => { s with functions := s.functions.filter (·.1 ≠ arg) }
    else
      let (name, _) := splitAssignment arg
      if !isName name then fail (name ++ ofText ": bad variable name")
      unset name
  return 0

/-! ### `set` -/

/-- Put an option on or off by its letter. -/
def setLetter (letter : Char) (isOn : Bool) : ShellM Unit := do
  if !(optionTable.any fun o => o.2 = letter ∧ ' ' < letter) then
    fail (ofText "Illegal option -" ++ [letter])
  modify fun s =>
    let s := s.setOption letter isOn
    if isOn ∧ letter = 'V' then s.setOption 'E' false
    else if isOn ∧ letter = 'E' then s.setOption 'V' false else s

/-- The options, as they are shown. -/
def tellOptions (isTable : Bool) : ShellM Unit := do
  let s ← get
  if isTable then sayLine (ofText "Current option settings")
  for (name, letter) in optionTable do
    let isOn := s.has letter
    if isTable then
      let gap := List.replicate (16 - name.length) ' '
      sayLine (ofText name ++ gap ++ ofText (if isOn then "on" else "off"))
    else sayLine (ofText ((if isOn then "set -o " else "set +o ") ++ name))

/-- Put an option on or off by its name, or show all. -/
def setNamed (name : Option Chars) (isOn : Bool) : ShellM Unit := do
  match name with
  | none => tellOptions isOn
  | some name =>
    match optionTable.lookup (String.ofList name) with
    | some letter => modify fun s => s.setOption letter isOn
    | none => fail (ofText "Illegal option -o " ++ name)

/-- Arguments that hold options of the shell, and what is left of them. -/
structure Settings where
  /-- The arguments after the options. -/
  rest : List Chars
  /-- The shell is to run a text. -/
  runsText : Bool := false
  /-- The options ended with two dashes. -/
  isClosed : Bool := false

/-- The options of one argument. -/
def setLetters (isStart isOn : Bool) (st : Settings) : Chars → ShellM Settings
  | [] => return st
  | c :: cs => do
    if c = 'c' ∧ isStart then setLetters isStart isOn { st with runsText := true } cs
    else if c = 'l' ∧ isStart then setLetters isStart isOn st cs
    else if c = 'o' then
      setNamed st.rest.head? isOn
      setLetters isStart isOn { st with rest := st.rest.tail } cs
    else
      setLetter c isOn
      setLetters isStart isOn st cs

/-- Take the options of the shell away from arguments. -/
def readSettings (isStart : Bool) (args : List Chars) : ShellM Settings :=
  go ⟨args, false, false⟩ args.length
where
  /-- Go on. -/
  go (st : Settings) : Nat → ShellM Settings
    | 0 => return st
    | fuel + 1 => do
      match st.rest with
      | ['-'] :: rest =>
        if !isStart then modify fun s => (s.setOption 'x' false).setOption 'v' false
        return { st with rest }
      | ['-', '-'] :: rest => return { st with rest, isClosed := true }
      | ('-' :: letters) :: rest => go (← setLetters isStart true { st with rest } letters) fuel
      | ('+' :: letters) :: rest => go (← setLetters isStart false { st with rest } letters) fuel
      | _ => return st

/-- There is no terminal, so no job can be controlled. -/
def refuseMonitor : ShellM Unit := do
  if (← get).has 'm' then
    warn (ofText "can't access tty; job control turned off")
    modify fun s => s.setOption 'm' false

/-- `set`. -/
def setOptions : Builtin := fun args => do
  if args.isEmpty then
    for (name, v) in (← get).sorted do
      if let some value := v.value then sayLine (variableLine [] name (some value))
    return 0
  let st ← readSettings false args
  refuseMonitor
  if st.isClosed || !st.rest.isEmpty then
    modify fun s => { s with args := st.rest, optionIndex := 1, optionOffset := none }
  return 0

/-! ### `read` -/

/-- Take characters of a line as cells, up to its end. A backslash takes the meaning of the character
after it, unless it is to be kept. The cells before come last one first, with whether a character
is without meaning now; the answer also tells whether the line was ended. -/
def takeCells (isRaw : Bool) : List Cell → Bool → Bytes → List Cell × Bool × Bool
  | before, isEscaped, [] => (before, isEscaped, false)
  | before, isEscaped, b :: rest =>
    if b = 0 then takeCells isRaw before isEscaped rest
    else if b = 0x0A then
      if isEscaped then takeCells isRaw before false rest else (before, false, true)
    else
      let c := Char.ofNat b.toNat
      if isEscaped then takeCells isRaw (.char c true :: before) false rest
      else if c = '\\' ∧ !isRaw then takeCells isRaw before true rest
      else takeCells isRaw (.char c false :: before) false rest

/-- Read a line, and one more where its end has no meaning; whether the line was ended. -/
def readCells (isRaw : Bool) : ShellM (List Cell × Bool) := go [] false longest
where
  /-- Go on after some cells, the last one first. -/
  go (before : List Cell) (isEscaped : Bool) : Nat → ShellM (List Cell × Bool)
    | 0 => return (before.reverse, false)
    | fuel + 1 => do
      match ← call (Task.readThrough 0 0x0A) with
      | .ok (b :: bs) =>
        let (before, isEscaped, isEnded) := takeCells isRaw before isEscaped (b :: bs)
        if isEnded then return (before.reverse, true) else go before isEscaped fuel
      | _ => return (before.reverse, false)

/-- `read`. -/
def readLine : Builtin := fun args => do
  let p ← OptionLetters.read { plain := ['r'], withArgument := ['p'] } args
  if p.rest.isEmpty then fail (ofText "arg count")
  let (cells, isEnded) ← readCells (p.has 'r')
  let fields := fieldsFor (← get).separators p.rest.length cells
  for (word, k) in p.rest.zipIdx do
    let (name, _) := splitAssignment word
    if !isName name then fail (name ++ ofText ": bad variable name")
    assign name ((fields[k]?).getD []) false
  return if isEnded then 0 else 1

end Shell

end GoldenCheck
