import GoldenCheck.Shell.Number

/-!
# Arithmetic of the shell

What stands in `$((…))`: numbers in words of 64 bits, variables, the operators of C and assignments.
A text is evaluated as it is read, from left to right, so that the first fault counts. An operand
whose value is not asked for is read and not evaluated.

`Arithmetic.evaluate` sees the variables through a function. Besides the value it answers the
assignments that were made, in order.
-/

namespace GoldenCheck

namespace Shell

namespace Arithmetic

/-- A piece of a calculation. -/
inductive Lexeme where
  /-- A number. -/
  | number (n : Int)
  /-- A variable. -/
  | variable (name : Chars)
  /-- A sign. -/
  | sign (text : String)
  /-- Something that has no meaning. -/
  | bad
  /-- The end. -/
  | theEnd
  deriving DecidableEq, Repr

/-- Why a calculation has no value. -/
inductive Fault where
  /-- The calculation is not well formed. -/
  | misformed (what : String)
  /-- The value of a variable is no number. -/
  | noNumber (value : Chars)
  /-- A variable that cannot be changed is set. -/
  | readOnly (name : Chars)
  /-- A quotient does not fit into a word, which ends the process. -/
  | overflow
  deriving DecidableEq, Repr

/-- A calculation at work. -/
structure State where
  /-- What is left of the text. -/
  rest : Chars
  /-- The lexeme that was read last. -/
  last : Lexeme := .theEnd
  /-- Variables that were set, the last one first. -/
  assigned : List (Chars × Int) := []

/-- The variables that a calculation sees. -/
structure Variables where
  /-- The value of a variable. -/
  value? : Chars → Option Chars
  /-- The variable cannot be changed. -/
  isReadOnly : Chars → Bool

/-- A part of a calculation. -/
abbrev ArithmeticM := ReaderT Variables (ExceptT Fault (StateM State))

/-- The signs, those that begin with others first. -/
def signs : List String :=
  ["<<=", ">>=", "<<", ">>", "<=", ">=", "==", "!=", "&&", "||", "+=", "-=", "*=", "/=", "%=",
   "&=", "|=", "^=", "<", ">", "=", "!", "&", "|", "^", "~", "+", "-", "*", "/", "%", "(", ")",
   "?", ":"]

/-- Read the next lexeme. -/
def next : ArithmeticM Lexeme := do
  let s ← get
  let cs := s.rest.dropWhile fun c => c = ' ' || c = '\t' || c = '\n'
  let read (l : Lexeme) (rest : Chars) : ArithmeticM Lexeme := do
    set { s with rest }
    return l
  match cs with
  | [] => read .theEnd []
  | c :: _ =>
    if c.isDigit then
      let n := Numeral.read none cs
      read (.number (saturate n.number)) n.rest
    else if isNameStart c then
      let (name, rest) := cs.span isNameChar
      read (.variable name) rest
    else match signs.find? fun text => text.toList.isPrefixOf cs with
      | some text => read (.sign text) (cs.drop text.length)
      | none => read .bad cs

/-- Remember the lexeme that comes next. -/
def keep (l : Lexeme) : ArithmeticM Unit := modify fun s => { s with last := l }

/-- The calculation is not well formed. -/
def misformed (what : String) : ArithmeticM α := throw (.misformed what)

/-- The value of a variable. One that is not set counts as zero. -/
def valueOf (name : Chars) : ArithmeticM Int := do
  let s ← get
  match s.assigned.lookup name with
  | some n => return n
  | none =>
    let text := ((← read).value? name).getD []
    match wholeNumber? none text with
    | some n => return n
    | none => throw (.noNumber text)

/-- Set a variable. -/
def assign (name : Chars) (n : Int) : ArithmeticM Int := do
  if (← read).isReadOnly name then throw (.readOnly name)
  modify fun s => { s with assigned := (name, n) :: s.assigned }
  return n

/-- The ranks of the operators between two operands; a lower one binds more tightly. -/
def rank? : Lexeme → Option Nat
  | .sign text => ranks.lookup text
  | _ => none
where
  /-- The operators with their ranks. -/
  ranks : List (String × Nat) :=
    [("*", 0), ("/", 0), ("%", 0), ("+", 1), ("-", 1), ("<<", 2), (">>", 2), ("<", 3), ("<=", 3),
     (">", 3), (">=", 3), ("==", 4), ("!=", 4), ("&", 5), ("^", 6), ("|", 7)]

/-- One for something that holds, and zero for something that does not. -/
def truth (b : Bool) : Int := if b then 1 else 0

/-- The word of a number, without its sign. -/
def bits (n : Int) : Nat := (n % 18446744073709551616).toNat

/-- Combine two operands. -/
def combine (op : String) (a b : Int) : ArithmeticM Int :=
  let amount := bits b % 64
  match op with
  | "*" => return wrap (a * b)
  | "/" =>
    if b = 0 then misformed "division by zero"
    else if a = least ∧ b = -1 then throw .overflow
    else return a.tdiv b
  | "%" =>
    if b = 0 then misformed "division by zero"
    else if a = least ∧ b = -1 then throw .overflow
    else return a.tmod b
  | "+" => return wrap (a + b)
  | "-" => return wrap (a - b)
  | "<<" => return wrap (a * (Nat.pow 2 amount : Nat))
  | ">>" => return a.fdiv (Nat.pow 2 amount : Nat)
  | "<" => return truth (a < b)
  | "<=" => return truth (a ≤ b)
  | ">" => return truth (b < a)
  | ">=" => return truth (b ≤ a)
  | "==" => return truth (a = b)
  | "!=" => return truth (a ≠ b)
  | "&" => return wrap (bits a &&& bits b : Nat)
  | "^" => return wrap (bits a ^^^ bits b : Nat)
  | _ => return wrap (bits a ||| bits b : Nat)

/-- The operator of an assignment, if it has one, without the sign `=` at its end. -/
def assignment? : Lexeme → Option String
  | .sign "=" => some ""
  | .sign text =>
    if ["<<=", ">>=", "+=", "-=", "*=", "/=", "%=", "&=", "|=", "^="].contains text then
      some (String.ofList text.toList.dropLast)
    else none
  | _ => none

/-! In each of the following functions, `first` and `op` are two lexemes that were already read, and
`skips` says that no value is asked for. -/

/-- An operand: a number, a variable, something in parentheses, or an operand after a sign. -/
def operand (inner : Lexeme → Bool → ArithmeticM Int) :
    Nat → Lexeme → Lexeme → Bool → ArithmeticM Int
  | 0, _, _, _ => misformed "expecting primary"
  | fuel + 1, first, op, skips => do
    match first with
    | .sign "(" =>
      let n ← inner op skips
      if (← get).last ≠ .sign ")" then misformed "expecting ')'"
      keep (← next)
      return n
    | .number n =>
      keep op
      return n
    | .variable name =>
      keep op
      if skips then return 0 else valueOf name
    | .sign "+" => operand inner fuel op (← next) skips
    | .sign "-" => return wrap (-(← operand inner fuel op (← next) skips))
    | .sign "!" => return truth ((← operand inner fuel op (← next) skips) = 0)
    | .sign "~" => return wrap (-(← operand inner fuel op (← next) skips) - 1)
    | _ => misformed "expecting primary"

/-- Operands that are joined to `a` by operators of a rank below `bound`, the first of which was
read. -/
def joined (one : Lexeme → Lexeme → Bool → ArithmeticM Int) (skips : Bool) :
    Nat → Int → Lexeme → Nat → ArithmeticM Int
  | 0, _, _, _ => misformed "expecting primary"
  | fuel + 1, a, op, bound => do
    let first ← next
    let b ← one first (← next) skips
    let after := (← get).last
    let rank := (rank? op).getD 0
    let b ← match rank? after with
      | some r => if r < rank then joined one skips fuel b after rank else pure b
      | none => pure b
    let after := (← get).last
    let sign := match op with
      | .sign text => text
      | _ => ""
    let a ← if skips then pure b else combine sign a b
    match rank? after with
    | some r => if bound ≤ r then return a else joined one skips fuel a after bound
    | none => return a

/-- A rank above all others. -/
def highestRank : Nat := 8

/-- Operands that are joined by operators with ranks. -/
def ranked (one : Lexeme → Lexeme → Bool → ArithmeticM Int) (fuel : Nat) (first op : Lexeme)
    (skips : Bool) : ArithmeticM Int := do
  let a ← one first op skips
  let after := (← get).last
  if (rank? after).isSome then joined one skips fuel a after highestRank else return a

/-- Operands that are joined by `&&`. -/
def conjunction (one : Lexeme → Lexeme → Bool → ArithmeticM Int) :
    Nat → Lexeme → Lexeme → Bool → ArithmeticM Int
  | 0, _, _, _ => misformed "expecting primary"
  | fuel + 1, first, op, skips => do
    let a ← one first op skips
    if (← get).last ≠ .sign "&&" then return a
    let first ← next
    let b ← conjunction one fuel first (← next) (skips || a = 0)
    return truth (a ≠ 0 && b ≠ 0)

/-- Operands that are joined by `||`. -/
def disjunction (one : Lexeme → Lexeme → Bool → ArithmeticM Int) :
    Nat → Lexeme → Lexeme → Bool → ArithmeticM Int
  | 0, _, _, _ => misformed "expecting primary"
  | fuel + 1, first, op, skips => do
    let a ← one first op skips
    if (← get).last ≠ .sign "||" then return a
    let first ← next
    let b ← disjunction one fuel first (← next) (skips || a ≠ 0)
    return truth (a ≠ 0 || b ≠ 0)

/-- A choice by `?` and `:`, or what binds more tightly. -/
def choice (inner : Lexeme → Bool → ArithmeticM Int)
    (one : Lexeme → Lexeme → Bool → ArithmeticM Int) :
    Nat → Lexeme → Lexeme → Bool → ArithmeticM Int
  | 0, _, _, _ => misformed "expecting primary"
  | fuel + 1, first, op, skips => do
    let a ← one first op skips
    if (← get).last ≠ .sign "?" then return a
    let b ← inner (← next) (skips || a = 0)
    if (← get).last ≠ .sign ":" then misformed "expecting ':'"
    let first ← next
    let c ← choice inner one fuel first (← next) (skips || a ≠ 0)
    return if a ≠ 0 then b else c

/-- An assignment, or what binds more tightly. -/
def whole : Nat → Lexeme → Bool → ArithmeticM Int
  | 0, _, _ => misformed "expecting primary"
  | fuel + 1, first, skips => do
    let inner := whole fuel
    let one := operand inner fuel
    let op ← next
    let rest := choice inner (disjunction (conjunction (ranked one fuel) fuel) fuel) fuel
    match first, assignment? op with
    | .variable name, some sign =>
      let n ← inner (← next) skips
      if skips then return n
      if sign = "" then assign name n
      else assign name (← combine sign (← valueOf name) n)
    | _, _ => rest first op skips

/-- A whole calculation. -/
def calculation (fuel : Nat) : ArithmeticM Int := do
  let n ← whole fuel (← next) false
  if (← get).last ≠ .theEnd then misformed "expecting EOF"
  return n

/-- The value of a calculation, and the variables that it sets, in order. -/
def evaluate (seen : Variables) (text : Chars) : Except Fault Int × List (Chars × Int) :=
  let (r, s) := (((calculation (text.length + 2)).run seen).run).run { rest := text }
  (r, s.assigned.reverse)

end Arithmetic

end Shell

end GoldenCheck
