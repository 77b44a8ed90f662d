import GoldenCheck.Shell.Session

/-!
# Options of the shell's own commands
-/

namespace GoldenCheck

namespace Shell

/-- A command of the shell at work: its arguments, and its status. -/
abbrev Builtin := List Chars → ShellM Nat

/-- The letters of options; those of the second list take an argument. -/
structure OptionLetters where
  /-- Letters that stand alone. -/
  plain : List Char := []
  /-- Letters with an argument. -/
  withArgument : List Char := []

/-- Options, with their arguments, and the arguments after them. -/
structure Parsed where
  /-- The options in order. -/
  options : List (Char × Chars) := []
  /-- The other arguments. -/
  rest : List Chars := []

namespace Parsed

/-- An option is given. -/
def has (p : Parsed) (letter : Char) : Bool := (p.options.lookup letter).isSome

end Parsed

namespace OptionLetters

/-- The options of one argument, without its dash, and the arguments that are left then. -/
def readOne (known : OptionLetters) (rest : List Chars) :
    Chars → ShellM (List (Char × Chars) × List Chars)
  | [] => return ([], rest)
  | c :: cs => do
    if known.withArgument.contains c then
      match cs, rest with
      | [], [] => fail (ofText "No arg for -" ++ c :: ofText " option")
      | [], argument :: rest => return ([(c, argument)], rest)
      | argument, rest => return ([(c, argument)], rest)
    else if known.plain.contains c then
      let (options, rest) ← known.readOne rest cs
      return ((c, []) :: options, rest)
    else fail (ofText "Illegal option -" ++ [c])

/-- Take the options away from arguments. -/
def read (known : OptionLetters) (args : List Chars) : ShellM Parsed := go {} args args.length
where
  /-- Go on after some options. -/
  go (before : Parsed) (args : List Chars) : Nat → ShellM Parsed
    | 0 => return { before with rest := args }
    | fuel + 1 => do
      match args with
      | ['-', '-'] :: rest => return { before with rest }
      | ('-' :: c :: cs) :: rest =>
        let (options, rest) ← known.readOne rest (c :: cs)
        go { before with options := before.options ++ options } rest fuel
      | args => return { before with rest := args }

end OptionLetters

/-- The arguments of a command without options. -/
def withoutOptions (args : List Chars) : ShellM (List Chars) := do
  return (← OptionLetters.read {} args).rest

end Shell

end GoldenCheck
