import GoldenCheck.Decimal.Magnitude
import GoldenCheck.Shell.Builtin.Options

/-!
# `echo` and `printf`

`echo` writes its arguments. `printf` writes a format, in which directives stand for arguments; it is
written again while arguments are left.
-/

namespace GoldenCheck

namespace Shell

/-! ### Escapes -/

/-- At most so many octal digits as a character, and the rest of the text. -/
def octal (count : Nat) (cs : Chars) : Char × Chars :=
  let digits := (cs.take count).takeWhile fun c => '0' ≤ c ∧ c ≤ '7'
  let value := digits.foldl (fun n c => 8 * n + digit c) 0
  (Char.ofNat (value % 256), cs.drop digits.length)

/-- What a backslash and the text after it stand for. -/
def escaped (cs : Chars) : Chars × Chars :=
  match cs with
  | '\\' :: rest => (['\\'], rest)
  | 'a' :: rest => ([Char.ofNat 7], rest)
  | 'b' :: rest => ([Char.ofNat 8], rest)
  | 'e' :: rest => ([Char.ofNat 27], rest)
  | 'f' :: rest => ([Char.ofNat 12], rest)
  | 'n' :: rest => (['\n'], rest)
  | 'r' :: rest => (['\r'], rest)
  | 't' :: rest => (['\t'], rest)
  | 'v' :: rest => ([Char.ofNat 11], rest)
  | c :: rest =>
    if '0' ≤ c ∧ c ≤ '7' then
      let (d, rest) := octal 3 (c :: rest)
      ([d], rest)
    else (['\\'], c :: rest)
  | [] => (['\\'], [])

/-- A text with its escapes replaced, and whether `\c` cut it off. -/
def unescape (cs : Chars) : Chars × Bool := go (cs.length + 1) cs
where
  /-- Go on. -/
  go : Nat → Chars → Chars × Bool
    | 0, _ => ([], false)
    | _, [] => ([], false)
    | _, '\\' :: 'c' :: _ => ([], true)
    | fuel + 1, '\\' :: '0' :: rest =>
      let (c, rest) := octal 3 rest
      let (cs, isCut) := go fuel rest
      (c :: cs, isCut)
    | fuel + 1, '\\' :: rest =>
      let (head, rest) := escaped rest
      let (cs, isCut) := go fuel rest
      (head ++ cs, isCut)
    | fuel + 1, c :: rest =>
      let (cs, isCut) := go fuel rest
      (c :: cs, isCut)

/-! ### `echo` -/

/-- `echo`. -/
def echo : Builtin := fun args => do
  let (endsLine, args) := match args with
    | ['-', 'n'] :: rest => (false, rest)
    | args => (true, args)
  let (text, isCut) := unescape (List.intercalate [' '] args)
  say text
  if endsLine && !isCut then say ['\n']
  return 0

/-! ### `printf` -/

/-- The state of `printf` at work. -/
structure PrintState where
  /-- The arguments that are left. -/
  args : List Chars
  /-- Something was wrong with an argument. -/
  isFaulty : Bool := false
  /-- An argument was asked for. -/
  asked : Bool := false

/-- A part of `printf`. -/
abbrev PrintM := StateT PrintState ShellM

namespace PrintM

/-- The next argument, if there is one. -/
def next? : PrintM (Option Chars) := modifyGet fun s =>
  (s.args.head?, { s with args := s.args.tail, asked := s.asked || !s.args.isEmpty })

/-- Complain about an argument. -/
def complain (arg : Chars) (words : String) : PrintM Unit := do
  warn (arg ++ ofText (": " ++ words))
  modify fun s => { s with isFaulty := true }

/-- Complain about an argument of which only a part is a number, or none. -/
def checkRest (arg rest : Chars) (isTooLarge : Bool) : PrintM Unit := do
  if !rest.isEmpty then
    complain arg (if rest.length = arg.length then "expected numeric value"
      else "not completely converted")
  else if isTooLarge then complain arg "Numerical result out of range"

/-- The next argument as a whole number. A quote makes it the number of the character after it. -/
def integer (isSigned : Bool) : PrintM Int := do
  match ← next? with
  | none => return 0
  | some ('\'' :: cs) | some ('"' :: cs) => return ((cs.head?.map Char.toNat).getD 0 : Nat)
  | some arg =>
    let n := Numeral.read none arg
    if isSigned then
      checkRest arg n.rest !(isWordSized n.number)
      return saturate n.number
    else
      let isTooLarge := 18446744073709551616 ≤ n.size
      checkRest arg n.rest isTooLarge
      return if isTooLarge then 18446744073709551615 else wrap n.number

/-- The next argument as a number with a fraction. -/
def fractional : PrintM Magnitude := do
  match ← next? with
  | none => return .ofNat 0
  | some ('\'' :: cs) | some ('"' :: cs) => return .ofNat ((cs.head?.map Char.toNat).getD 0)
  | some arg =>
    let (n, rest, isBeyond) := Magnitude.read arg
    checkRest arg rest isBeyond
    return n

end PrintM

/-- A directive of `printf` without its last letter. -/
structure Directive where
  /-- The flags. -/
  flags : List Char
  /-- The least width. -/
  width : Nat
  /-- The precision. -/
  precision : Option Nat
  deriving DecidableEq, Repr

namespace Directive

/-- A text in a field. -/
def pad (d : Directive) (cs : Chars) : Chars :=
  let gap := List.replicate (d.width - cs.length) ' '
  if d.flags.contains '-' then cs ++ gap else gap ++ cs

/-- A number in a field: what stands before its digits, and its digits. -/
def padNumber (d : Directive) (usesZeros : Bool) (sign digits : Chars) : Chars :=
  if d.flags.contains '0' ∧ !d.flags.contains '-' ∧ usesZeros then
    sign ++ List.replicate (d.width - sign.length - digits.length) '0' ++ digits
  else d.pad (sign ++ digits)

/-- The sign of a number. -/
def sign (d : Directive) (isNegative : Bool) : Chars :=
  if isNegative then ['-']
  else if d.flags.contains '+' then ['+']
  else if d.flags.contains ' ' then [' '] else []

/-- The digits of a whole number. -/
def digits (d : Directive) (base n : Nat) : Chars :=
  let ds := if n = 0 ∧ d.precision = some 0 then [] else Nat.toDigits base n
  List.replicate (d.precision.getD 0 - ds.length) '0' ++ ds

/-- A whole number in a field. -/
def integer (d : Directive) (letter : Char) (n : Int) : Chars :=
  let word := (n % 18446744073709551616).toNat
  let isAlternate := d.flags.contains '#'
  let (before, ds) : Chars × Chars := match letter with
    | 'd' | 'i' => (d.sign (n < 0), d.digits 10 n.natAbs)
    | 'o' =>
      let ds := d.digits 8 word
      ([], if isAlternate ∧ ds.head? ≠ some '0' then '0' :: ds else ds)
    | 'x' => (if isAlternate ∧ word ≠ 0 then ['0', 'x'] else [], d.digits 16 word)
    | 'X' =>
      (if isAlternate ∧ word ≠ 0 then ['0', 'X'] else [], (d.digits 16 word).map Char.toUpper)
    | _ => ([], d.digits 10 word)
  d.padNumber d.precision.isNone before ds

end Directive

/-- A size that an argument gives has so many values, half of them negative. -/
def sizes : Nat := 4294967296

/-- The width or precision that a format gives, or takes from an argument. -/
def readSize (format : Chars) : PrintM (Option Int × Chars) := do
  match format with
  | '*' :: rest => return (some ((← PrintM.integer true).bmod sizes), rest)
  | format =>
    let (ds, rest) := format.span Char.isDigit
    return (if ds.isEmpty then none else some (ds.foldl (fun n c => 10 * n + digit c) 0 : Nat), rest)

/-- Read a directive after its sign; what follows it. -/
def readDirective (format : Chars) : PrintM (Directive × Chars) := do
  let (flags, rest) := format.span ['-', '+', ' ', '0', '#'].contains
  let (width, rest) ← readSize rest
  let flags := if width.any (· < 0) then '-' :: flags else flags
  let (precision, rest) ← match rest with
    | '.' :: rest => do
      let (precision, rest) ← readSize rest
      pure (some (precision.getD 0), rest)
    | rest => pure (none, rest)
  let precision := precision.bind fun n => if n < 0 then none else some n.toNat
  return (⟨flags, (width.getD 0).natAbs, precision⟩, rest)

/-- The greatest size that a field can have. -/
def sizeLimit : Nat := 2147483647

/-- Write a field, unless it is too large. -/
def sayField (d : Directive) (field : Unit → Chars) : PrintM Unit :=
  if sizeLimit < d.width ∨ d.precision.any (sizeLimit < ·) then fail (ofText "xvsnprintf failed")
  else say (field ())

/-- Write what a directive stands for; whether the output ends there. -/
def printOne (d : Directive) (letter : Char) (shown : Chars) : PrintM Bool := do
  let cut (cs : Chars) : Chars := (d.precision.map cs.take).getD cs
  match letter with
  | 's' =>
    let arg := (← PrintM.next?).getD []
    sayField d fun _ => d.pad (cut arg)
    return false
  | 'b' =>
    let (cs, isCut) := unescape ((← PrintM.next?).getD [])
    sayField d fun _ => d.pad (cut cs)
    return isCut
  | 'c' =>
    let c := ((← PrintM.next?).getD []).headD (Char.ofNat 0)
    sayField d fun _ => d.pad [c]
    return false
  | letter =>
    if ['d', 'i'].contains letter then
      let n ← PrintM.integer true
      sayField d fun _ => d.integer letter n
      return false
    else if ['o', 'u', 'x', 'X'].contains letter then
      let n ← PrintM.integer false
      sayField d fun _ => d.integer letter n
      return false
    else if ['e', 'E', 'f', 'F', 'g', 'G'].contains letter then
      let n ← PrintM.fractional
      sayField d fun _ =>
        let ds := n.text (d.flags.contains '#') letter d.precision
        d.padNumber n.isFinite (d.sign n.isNegative) ds
      return false
    else fail (ofText "%" ++ shown ++ ofText ": invalid directive")

/-- Write the format once; whether the output ends there. -/
def printRound : Nat → Chars → PrintM Bool
  | 0, _ => return false
  | _, [] => return false
  | fuel + 1, '\\' :: rest => do
    let (cs, rest) := escaped rest
    say cs
    printRound fuel rest
  | fuel + 1, '%' :: '%' :: rest => do
    say ['%']
    printRound fuel rest
  | fuel + 1, '%' :: format => do
    let (d, rest) ← readDirective format
    match rest with
    | [] => fail (ofText "missing format character")
    | letter :: rest =>
      if ← printOne d letter (format.take (format.length - rest.length)) then return true
      printRound fuel rest
  | fuel + 1, c :: rest => do
    say [c]
    printRound fuel rest

/-- Write the format while arguments are left. -/
def printRounds (format : Chars) : Nat → PrintM Unit
  | 0 => return
  | fuel + 1 => do
    modify fun s => { s with asked := false }
    if ← printRound (format.length + 1) format then return
    let s ← get
    if s.asked && !s.args.isEmpty then printRounds format fuel

/-- `printf`. -/
def printf : Builtin := fun args => do
  match ← withoutOptions args with
  | [] => fail (ofText "usage: printf format [arg ...]")
  | format :: args =>
    let ((), s) ← (printRounds format (args.length + 1)).run { args }
    return if s.isFaulty then 1 else 0

end Shell

end GoldenCheck
