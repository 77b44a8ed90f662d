import GoldenCheck.Shell.Builtin.Options

/-!
# `test`

`test` and `[` say whether a condition holds. Conditions are about texts, whole numbers and files;
they are joined by `-a` and `-o`, turned round by `!` and put in parentheses. What an argument is, an
operator or an operand, depends on the arguments around it (`Condition.read`).
-/

namespace GoldenCheck

namespace Shell

/-- The kinds of operators. -/
inductive OperatorKind where
  /-- It stands before one operand. -/
  | unary
  /-- It stands between two operands. -/
  | binary
  /-- It stands between two conditions. -/
  | joining
  /-- `!`. -/
  | negation
  /-- A parenthesis. -/
  | parenthesis
  deriving DecidableEq, Repr

namespace Condition

/-- The operators. -/
def operators : List (String × OperatorKind) :=
  let unary := ["-r", "-w", "-x", "-e", "-f", "-d", "-c", "-b", "-p", "-u", "-g", "-k", "-s", "-t",
    "-z", "-n", "-h", "-O", "-G", "-L", "-S"].map (·, OperatorKind.unary)
  let binary := ["=", "!=", "<", ">", "-eq", "-ne", "-ge", "-gt", "-le", "-lt", "-nt", "-ot",
    "-ef"].map (·, OperatorKind.binary)
  unary ++ binary ++ [("!", .negation), ("-a", .joining), ("-o", .joining), ("(", .parenthesis),
    (")", .parenthesis)]

/-- The kind of an operator. -/
def kind? (cs : Chars) : Option OperatorKind := operators.lookup (String.ofList cs)

/-- A unary operator at the beginning of arguments is an operand. -/
def isOperand : List Chars → Bool
  | _ :: next :: _ :: _ => kind? next = some .binary
  | [_, _] => false
  | _ => true

/-- The operator that arguments begin with. -/
def operator? (args : List Chars) : Option (String × OperatorKind) := do
  let first ← args.head?
  let kind ← kind? first
  if kind = .unary ∧ isOperand args then none
  else if first = ['('] ∧ args.length = 1 then none
  else some (String.ofList first, kind)

/-- A test at work. -/
abbrev ConditionM := StateT (List Chars) ShellM

/-- Complain about an operator, or about the end of the arguments. -/
def refuse (operator : Chars) (words : String) : ConditionM α :=
  if operator.isEmpty then fail (ofText words)
  else fail (operator ++ ofText (": " ++ words))

/-- The whole number of an operand. -/
def integer (cs : Chars) : ConditionM Int :=
  match wholeNumber? (some 10) cs with
  | some n => return n
  | none => failNumber cs

/-- Let a machine answer about the file of a path. -/
def ask (cs : Chars) (answer : Machine → Location × Entry → Bool) : ConditionM Bool :=
  call (Task.look fun m =>
    match m.places.lookup ⟨toBytes cs⟩ with
    | .ok found => answer m found
    | .error _ => false)

/-- A unary condition. -/
def unary (operator : String) (operand : Chars) : ConditionM Bool :=
  match operator with
  | "-z" => return operand.isEmpty
  | "-n" => return !operand.isEmpty
  | "-t" => do
    let _ ← integer operand
    return false
  | "-e" | "-r" | "-w" | "-O" | "-G" => ask operand fun _ _ => true
  | "-x" => ask operand fun _ (_, e) => match e with
    | .directory | .program _ => true
    | _ => false
  | "-f" => ask operand fun _ (_, e) => match e with
    | .file _ | .program _ => true
    | _ => false
  | "-d" => ask operand fun _ (_, e) => e.isDirectory
  | "-c" => ask operand fun _ (_, e) => match e with
    | .device _ => true
    | _ => false
  | "-s" => ask operand fun m (l, e) => match e with
    | .file _ => m.sizeOf (.file l) ≠ 0
    | .device _ => false
    | _ => true
  | _ => return false

/-- Two paths lead to files with some relation. -/
def related (a b : Chars) (holds : Machine → Location → Location → Bool) : ConditionM Bool :=
  ask a fun m (l, _) =>
    match m.places.lookup ⟨toBytes b⟩ with
    | .ok (k, _) => holds m l k
    | .error _ => false

/-- A binary condition. -/
def binary (operator : String) (a b : Chars) : ConditionM Bool :=
  let numbers (holds : Int → Int → Bool) : ConditionM Bool := do
    let m ← integer a
    return holds m (← integer b)
  let order := compare (toBytes a) (toBytes b)
  match operator with
  | "=" => return a = b
  | "!=" => return a ≠ b
  | "<" => return order == .lt
  | ">" => return order == .gt
  | "-eq" => numbers fun m n => m = n
  | "-ne" => numbers fun m n => m ≠ n
  | "-ge" => numbers fun m n => n ≤ m
  | "-gt" => numbers fun m n => n < m
  | "-le" => numbers fun m n => m ≤ n
  | "-lt" => numbers fun m n => m < n
  | "-nt" => related a b fun m l k => m.timeOf k < m.timeOf l
  | "-ot" => related a b fun m l k => m.timeOf l < m.timeOf k
  | _ => related a b fun _ l k => l = k

/-- The first of the arguments, which are never taken away all. -/
def first : ConditionM Chars := return (← get).headD []

/-- Take an argument away. -/
def advance : ConditionM Unit := modify List.tail

/-- What the arguments begin with. -/
def look : ConditionM (Option (String × OperatorKind)) := return operator? (← get)

/-- What comes after the first argument. -/
def lookAfter : ConditionM (Option (String × OperatorKind)) := return operator? (← get).tail

/-- A single condition, which begins with an operator or with an operand. The last argument of it is
left. -/
def single (inner : Option (String × OperatorKind) → ConditionM Bool)
    (op : Option (String × OperatorKind)) : ConditionM Bool := do
  if (← get).isEmpty then return false
  match op with
  | some ("(", _) =>
    advance
    match ← look with
    | some (")", _) => return false
    | op =>
      let r ← inner op
      advance
      match ← look with
      | some (")", _) => return r
      | _ => refuse [] "closing paren expected"
  | some (text, .unary) =>
    advance
    if (← get).isEmpty then refuse text.toList "argument expected"
    unary text (← first)
  | _ =>
    match ← lookAfter with
    | some (text, .binary) =>
      let a ← first
      advance
      advance
      if (← get).isEmpty then refuse text.toList "argument expected"
      binary text a (← first)
    | _ => return !(← first).isEmpty

/-- A condition that may be turned round. -/
def turned (inner : Option (String × OperatorKind) → ConditionM Bool) :
    Nat → Option (String × OperatorKind) → ConditionM Bool
  | 0, _ => return false
  | fuel + 1, op => do
    match op with
    | some (_, .negation) =>
      let next ← lookAfter
      if 1 < (← get).length then advance
      else return true
      return !(← turned inner fuel next)
    | op => single inner op

/-- Conditions that are joined by an operator; each is looked at. -/
def joined (operator : String) (one : Option (String × OperatorKind) → ConditionM Bool)
    (combine : Bool → Bool → Bool) : Nat → Option (String × OperatorKind) → ConditionM Bool
  | 0, _ => return false
  | fuel + 1, op => do
    let a ← one op
    match ← lookAfter with
    | some (text, .joining) =>
      if text ≠ operator then return a
      advance
      advance
      let b ← joined operator one combine fuel (← look)
      return combine a b
    | _ => return a

/-- Conditions that are joined by `-o`, of which each is some joined by `-a`. -/
def read : Nat → Option (String × OperatorKind) → ConditionM Bool
  | 0, _ => return false
  | fuel + 1, op =>
    let one := turned (read fuel) fuel
    joined "-o" (joined "-a" one (· && ·) fuel) (· || ·) fuel op

/-- Few arguments are read by their number. -/
structure Reading where
  /-- What is left to read. -/
  args : List Chars
  /-- The condition is turned round. -/
  isTurned : Bool
  /-- The first argument is an operand, whatever it looks like. -/
  beginsWithOperand : Bool

/-- Read few arguments: a binary condition is one in any case, parentheses around a condition are
taken away, and a `!` before a condition turns it round, however many of them there are. -/
def readFew (isTurned : Bool) (args : List Chars) : Reading :=
  let isBinary : Bool := match args with
    | [_, op, _] => kind? op == some .binary
    | _ => false
  let plain : Reading := ⟨args, isTurned, isBinary⟩
  if isBinary || (args.length ≠ 3 && args.length ≠ 4) then plain
  else match args with
    | ['('] :: rest => if args.getLast? = some [')'] then ⟨rest.dropLast, isTurned, false⟩ else plain
    | ['!'] :: rest => readFew true rest
    | _ => plain

/-- Whether a condition holds. -/
def holds (args : List Chars) : ShellM Bool := do
  let few := readFew false args
  let op := if few.beginsWithOperand then none else operator? few.args
  let (r, left) ← (read (args.length + 2) op).run few.args
  match left with
  | op :: _ :: _ => (refuse op "unexpected operator").run' left
  | _ => return r != few.isTurned

end Condition

/-- The status that stands for a truth. -/
def statusOfTruth (b : Bool) : Nat := if b then 0 else 1

/-- `test`. -/
def test : Builtin := fun args => do
  if args.isEmpty then return 1
  return statusOfTruth (← Condition.holds args)

/-- `[`. -/
def bracket : Builtin := fun args => do
  if args.getLast? ≠ some [']'] then fail (ofText "missing ]")
  test args.dropLast

end Shell

end GoldenCheck
