import GoldenCheck.Shell.Builtin.Options

/-!
# The course of a script

`break`, `continue`, `return` and `exit` leave something out, `shift` takes arguments away, and
`getopts` goes through them.
-/

namespace GoldenCheck

namespace Shell

/-- `break` and `continue`. -/
def leaveLoops (skip : Skip) : Builtin := fun args => do
  let count ← match args with
    | [] => pure 1
    | arg :: _ => do
      let n ← number arg
      if n = 0 then failNumber arg
      pure n
  let s ← get
  let count := min count s.loops
  if 0 < count then set { s with skip := some skip, skipCount := count }
  return 0

/-- `return`. -/
def giveBack : Builtin := fun args => do
  match args with
  | [] =>
    modify fun s => { s with skip := some .leave }
    return (← get).status
  | arg :: _ =>
    modify fun s => { s with skip := some .return }
    number arg

/-- `exit`. -/
def exit : Builtin := fun args => do
  if let arg :: _ := args then
    let status ← number arg
    modify fun s => { s with savedStatus := some status }
  throw .exit

/-- `shift`. -/
def shift : Builtin := fun args => do
  let count ← match args with
    | [] => pure 1
    | arg :: _ => number arg
  let s ← get
  if s.args.length < count then fail (ofText "can't shift that many")
  set { s with args := s.args.drop count, optionIndex := 1, optionOffset := none }
  return 0

/-! ### `getopts` -/

/-- What `getopts` finds. -/
structure Found where
  /-- The letter. -/
  letter : Char
  /-- The argument of the option, if it has one or could have one. -/
  argument : Option Chars
  /-- A complaint. -/
  complaint : Option String := none
  /-- The option is the last. -/
  isEnd : Bool := false
  /-- The next argument to look at. -/
  index : Nat
  /-- The next letter in the argument before it. -/
  offset : Option Nat := none

/-- A letter is among those of options: whether it takes an argument. -/
def takesArgument? (letters : Chars) (c : Char) : Option Bool :=
  match letters with
  | [] => none
  | d :: ':' :: rest => if d = c then some true else takesArgument? rest c
  | d :: rest => if d = c then some false else takesArgument? rest c

/-- Find the next option of arguments. -/
def nextOption (letters : Chars) (args : List Chars) (index : Nat) (offset : Option Nat) : Found :=
  let isQuiet := letters.head? = some ':'
  let letters := if isQuiet then letters.tail else letters
  let current : Option Chars := do
    let k ← offset
    let arg ← if index ≤ 1 then none else args[index - 2]?
    if arg.length ≤ k then none else some (arg.drop k)
  let start : Option (Chars × Nat) := match current with
    | some cs => some (cs, index)
    | none => match args[index - 1]? with
      | some ('-' :: c :: cs) => some (c :: cs, index + 1)
      | _ => none
  match start with
  | none => ⟨'?', none, none, true, index, none⟩
  | some ([], index) => ⟨'?', none, none, true, index, none⟩
  | some (c :: cs, index) =>
    if current.isNone ∧ c :: cs = ['-'] then ⟨'?', none, none, true, index, none⟩
    else
      let length := ((args[index - 2]?).getD []).length
      let offset := if cs.isEmpty then none else some (length - cs.length)
      match takesArgument? letters c with
      | none =>
        if isQuiet then ⟨'?', some [c], none, false, index, offset⟩
        else
          ⟨'?', none, some ("Illegal option -" ++ String.ofList [c]), false, index, offset⟩
      | some false => ⟨c, some [], none, false, index, offset⟩
      | some true =>
        if !cs.isEmpty then ⟨c, some cs, none, false, index, none⟩
        else match args[index - 1]? with
          | some arg => ⟨c, some arg, none, false, index + 1, none⟩
          | none =>
            if isQuiet then ⟨':', some [c], none, false, index, none⟩
            else
              ⟨'?', none, some ("No arg for -" ++ String.ofList [c] ++ " option"), false, index,
                none⟩

/-- `getopts`. -/
def getopts : Builtin := fun args => do
  match args with
  | letters :: name :: given =>
    let s ← get
    let args := if given.isEmpty then s.args else given
    let isPast := args.length + 1 < s.optionIndex
    let (index, offset) := if isPast then (1, none) else (s.optionIndex, s.optionOffset)
    let found := nextOption letters args index offset
    if let some words := found.complaint then
      let _ ← emit 2 (ofText (words ++ "\n"))
    match found.argument with
    | some argument => assign (ofText "OPTARG") argument false
    | none => if !found.isEnd then unset (ofText "OPTARG")
    assign (ofText "OPTIND") (numeral found.index) false
    let (name, _) := splitAssignment name
    if !isName name then fail (name ++ ofText ": bad variable name")
    assign name [found.letter] false
    modify fun s => { s with optionIndex := found.index, optionOffset := found.offset }
    return if found.isEnd then 1 else 0
  | _ => fail (ofText "Usage: getopts optstring var [arg...]")

end Shell

end GoldenCheck
