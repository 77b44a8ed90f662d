import GoldenCheck.Decimal.Digit
import GoldenCheck.Tools.Regex

/-!
# Reading regular expressions

In the text of a regular expression most symbols stand for themselves. `.` stands for any character,
brackets for one of a set, `*` for the expression before it any number of times, `^` and `$` for the
beginning and the end. After a backslash some more symbols have a meaning: parentheses make groups,
digits name them, braces hold how many times, `+` and `?` are like `*`, and a bar stands between two
expressions, as does a line feed. Where an operator has nothing to work on it stands for itself.
-/

namespace GoldenCheck

namespace Tools

namespace RegexReader

/-- A part of the text of a regular expression. -/
inductive Token where
  /-- The text is over. -/
  | over
  /-- A backslash at the end. -/
  | lone
  /-- It stands between two expressions. -/
  | bar
  /-- A group begins. -/
  | opening
  /-- A group ends. -/
  | closing
  /-- How many times; the symbol that it would stand for. -/
  | repeated (least : Nat) (most : Option Nat) (symbol : Nat)
  /-- A count begins. -/
  | count
  /-- A set begins. -/
  | set
  /-- One symbol of some. -/
  | one (test : Nat → Bool)
  /-- A place. -/
  | at (place : Place)
  /-- A group again. -/
  | again (group : Nat)

/-- The symbol of an ASCII character. -/
abbrev symbol (c : Char) : Nat := c.toNat

/-- What a symbol after a backslash stands for. -/
def escaped (n : Nat) : Token :=
  match Char.ofNat n with
  | '|' => .bar
  | '(' => .opening
  | ')' => .closing
  | '{' => .count
  | '+' => .repeated 1 none n
  | '?' => .repeated 0 (some 1) n
  | '<' => .at .wordStart
  | '>' => .at .wordStop
  | 'b' => .at .wordEdge
  | 'B' => .at .noWordEdge
  | '\x60' => .at .start
  | '\'' => .at .stop
  | 'w' => .one isWordSymbol
  | 'W' => .one fun n => n < symbolLimit && !isWordSymbol n
  | 's' => .one isSpaceSymbol
  | 'S' => .one fun n => n < symbolLimit && !isSpaceSymbol n
  | c => if '1' ≤ c ∧ c ≤ '9' then .again (digit c) else .one (· = n)

/-- The first token of a text, and what follows it. An expression may begin here. -/
def token (begins : Bool) : List Nat → Token × List Nat
  | [] => (.over, [])
  | n :: rest =>
    let plain : Token × List Nat := (.one (· = n), rest)
    match Char.ofNat n with
    | '\\' =>
      match rest with
      | [] => (.lone, [])
      | m :: rest => (escaped m, rest)
    | '\n' => (.bar, rest)
    | '*' => (.repeated 0 none n, rest)
    | '[' => (.set, rest)
    | '.' => (.one (· < symbolLimit), rest)
    | '^' => if begins then (.at .start, rest) else plain
    | '$' =>
      let ends := match rest with
        | [] => true
        | a :: more => a = symbol '\n'
            || a = symbol '\\' && (more.head? = some (symbol '|') || more.head? = some (symbol ')'))
      if ends then (.at .stop, rest) else plain
    | _ => plain

/-- A text that is being read. -/
structure Reader where
  /-- The rest of the text. -/
  rest : List Nat
  /-- An expression begins here. -/
  begins : Bool := true
  /-- How many groups have begun. -/
  opened : Nat := 0
  /-- The groups that have ended. -/
  closed : List Nat := []

/-- Reading, which can go wrong. -/
abbrev ReadM := StateT Reader (Except String)

/-- The next token, and what follows it. -/
def peek : ReadM (Token × List Nat) := do
  let r ← get
  return token r.begins r.rest

/-- Go on after a token. An expression may begin there. -/
def goOn (rest : List Nat) (begins : Bool) : ReadM Unit :=
  modify fun r => { r with rest, begins }

/-! ### Sets -/

/-- The classes of characters. -/
def classes : List (String × (Nat → Bool)) :=
  let upper (n : Nat) : Bool := 65 ≤ n && n ≤ 90
  let lower (n : Nat) : Bool := 97 ≤ n && n ≤ 122
  let digit (n : Nat) : Bool := 48 ≤ n && n ≤ 57
  let shown (n : Nat) : Bool := (33 ≤ n && n ≤ 126) || (160 ≤ n && n < symbolLimit)
  let alnum (n : Nat) : Bool := isWordSymbol n && n ≠ 0x5F
  [("alnum", alnum), ("alpha", fun n => alnum n && !digit n), ("blank", fun n => n = 32 || n = 9),
   ("cntrl", fun n => n < 32 || (127 ≤ n && n < 160)), ("digit", digit), ("graph", shown),
   ("lower", lower), ("print", fun n => n = 32 || shown n),
   ("punct", fun n => shown n && !alnum n), ("space", isSpaceSymbol), ("upper", upper),
   ("xdigit", fun n => digit n || (65 ≤ n && n ≤ 70) || (97 ≤ n && n ≤ 102))]

/-- A member of a set. -/
inductive Member where
  /-- A symbol, with which a range can begin or end. -/
  | symbol (n : Nat)
  /-- A class. -/
  | class (test : Nat → Bool)

/-- A set is not closed. -/
def openSet : String := "Unmatched [, [^, [:, [., or [="

/-- What stands before a mark and a closing bracket, and what follows. -/
def upTo (mark : Nat) : List Nat → Option (List Nat × List Nat)
  | [] => none
  | n :: rest =>
    if n = mark ∧ rest.head? = some (symbol ']') then some ([], rest.drop 1)
    else (upTo mark rest).map fun (name, after) => (n :: name, after)

/-- Read one member of a set. -/
def member (mayBeHyphen : Bool) : List Nat → Except String (Member × List Nat)
  | [] => .error openSet
  | n :: rest =>
    let kind := (rest.head?.map Char.ofNat).getD ' '
    if n = symbol '[' ∧ (kind = ':' ∨ kind = '.' ∨ kind = '=') then
      match upTo kind.toNat (rest.drop 1) with
      | none => .error openSet
      | some (name, after) =>
        if kind = ':' then
          match classes.lookup (String.ofList (name.map Char.ofNat)) with
          | some test => .ok (.class test, after)
          | none => .error "Invalid character class name"
        else match name with
          | [m] => .ok (if kind = '=' then .class (· = m) else .symbol m, after)
          | _ => .error "Invalid collation character"
    else if n = symbol '-' ∧ !mayBeHyphen ∧ rest.head? ≠ some (symbol ']') then
      .error "Invalid range end"
    else .ok (.symbol n, rest)

/-- Read the members of a set: which symbols are in it, and what follows its closing bracket. -/
def members (found : Nat → Bool) (isFirst : Bool) :
    Nat → List Nat → Except String ((Nat → Bool) × List Nat)
  | 0, _ => .error openSet
  | fuel + 1, rest => do
    if rest.head? = some (symbol ']') ∧ !isFirst then return (found, rest.drop 1)
    let (first, rest) ← member isFirst rest
    match first with
    | .class test => members (fun n => found n || test n) false fuel rest
    | .symbol low =>
      let single := fun n => found n || n = low
      match rest with
      | [] => throw openSet
      | a :: after =>
        if a = symbol '-' ∧ after.head? ≠ some (symbol ']') then
          match ← member true after with
          | (.symbol high, rest) =>
            if high < low then throw "Invalid range end"
            members (fun n => found n || (low ≤ n && n ≤ high)) false fuel rest
          | (.class _, _) => throw "Invalid range end"
        else members single false fuel rest

/-- Read a set after its opening bracket. -/
def set (rest : List Nat) : Except String ((Nat → Bool) × List Nat) := do
  let (negated, body) := match rest with
    | n :: body => if n = symbol '^' then (true, body) else (false, rest)
    | [] => (false, [])
  if body.isEmpty then throw "Invalid regular expression"
  let (found, rest) ← members (fun _ => false) true (body.length + 1) body
  return (if negated then fun n => n < symbolLimit && !found n else found, rest)

/-! ### Counts -/

/-- More times than this are too many. -/
def mostTimes : Nat := 32767

/-- The content of a pair of braces is wrong. -/
def badCount : String := "Invalid content of \\\x7b\\\x7d"

/-- Read a number; what follows it. -/
def number (rest : List Nat) : Option Nat × List Nat :=
  let isDigit (n : Nat) : Bool := 48 ≤ n && n ≤ 57
  let (digits, after) := rest.span isDigit
  if digits.isEmpty then (none, after)
  else (some (digits.foldl (fun n d => 10 * n + (d - 48)) 0), after)

/-- Read a count after its opening brace: the least and the greatest number of times. -/
def count (rest : List Nat) : Except String ((Nat × Option Nat) × List Nat) := do
  let finish (least : Nat) (most : Option Nat) (rest : List Nat) :
      Except String ((Nat × Option Nat) × List Nat) :=
    match rest with
    | a :: b :: after =>
      if a = symbol '\\' ∧ b = symbol '}' then
        if most.any (· < least) then .error badCount
        else if mostTimes < most.getD least then .error "Regular expression too big"
        else .ok ((least, most), after)
      else .error (unclosed rest)
    | _ => .error (unclosed rest)
  let (least, after) := number rest
  match after with
  | n :: more =>
    if n = symbol ',' then
      let (most, after) := number more
      finish (least.getD 0) most after
    else match least with
      | some least => finish least (some least) after
      | none => throw (if closes after then badCount else unclosed after)
  | [] => throw (unclosed [])
where
  /-- A closing brace comes next. -/
  closes (rest : List Nat) : Bool := [symbol '\\', symbol '}'].isPrefixOf rest
  /-- What is wrong when the closing brace does not come next. -/
  unclosed (rest : List Nat) : String :=
    let toEnd (rest : List Nat) : Bool :=
      !(List.range rest.length).any fun k => closes (rest.drop k) || rest[k]? = some (symbol ',')
    if toEnd rest then "Unmatched \\\x7b" else badCount

/-! ### Expressions -/

/-- Read what can follow an expression and says how many times. -/
def repetitions (body : Regex) : Nat → ReadM Regex
  | 0 => return body
  | fuel + 1 => do
    match ← peek with
    | (.repeated least most _, rest) => do
      goOn rest false
      repetitions (.times least most body) fuel
    | (.count, rest) => do
      let ((least, most), rest) ← count rest
      goOn rest false
      repetitions (.times least most body) fuel
    | _ => return body

/-- Read one expression after the other, up to a bar or to the end. -/
def branch (expression : ReadM Regex) (isInside : Bool) (before : Regex) : Nat → ReadM Regex
  | 0 => return before
  | fuel + 1 => do
    match ← peek with
    | (.over, _) | (.bar, _) => return before
    | (.closing, _) =>
      if isInside then return before else throw "Unmatched ) or \\)"
    | _ => do
      let next ← expression
      branch expression isInside (.seq before next) fuel

/-- Read expressions with bars between them. -/
def choices (branch : ReadM Regex) (before : Option Regex) : Nat → ReadM Regex
  | 0 => return before.getD .empty
  | fuel + 1 => do
    let next ← branch
    let whole := match before with
      | some first => .either first next
      | none => next
    match ← peek with
    | (.bar, rest) => do
      goOn rest true
      choices branch (some whole) fuel
    | _ => return whole

/-- Read a whole regular expression, or what is inside a group. -/
def whole : Nat → Bool → ReadM Regex
  | 0, _ => return .empty
  | fuel + 1, isInside => do
    let size := (← get).rest.length + 1
    choices (branch (expression fuel size) isInside .empty size) none size
where
  /-- Read one expression. -/
  expression (fuel size : Nat) : ReadM Regex := do
    let literal (n : Nat) (rest : List Nat) : ReadM Regex := do
      goOn rest false
      repetitions (.one (· = n)) size
    match ← peek with
    | (.over, _) | (.bar, _) => return .empty
    | (.lone, _) => throw "Trailing backslash"
    | (.closing, _) => throw "Unmatched ) or \\)"
    | (.repeated _ _ n, rest) => literal n rest
    | (.count, rest) => literal (symbol '{') rest
    | (.at place, rest) => do
      goOn rest false
      return .at place
    | (.one test, rest) => do
      goOn rest false
      repetitions (.one test) size
    | (.set, rest) => do
      let (test, rest) ← set rest
      goOn rest false
      repetitions (.one test) size
    | (.again g, rest) => do
      if !(← get).closed.contains g then throw "Invalid back reference"
      goOn rest false
      repetitions (.again g) size
    | (.opening, rest) => do
      goOn rest true
      let g := (← get).opened + 1
      modify fun r => { r with opened := g }
      let body ← whole fuel true
      match ← peek with
      | (.closing, rest) => do
        modify fun r => { r with closed := g :: r.closed }
        goOn rest false
        repetitions (.group g body) size
      | _ => throw "Unmatched ( or \\("

end RegexReader

/-- Read a regular expression, or what is wrong with it. -/
def Regex.read (text : Bytes) : Except String Regex :=
  let rest := symbols text
  (RegexReader.whole (rest.length + 1) false { rest }).map (·.1)

end Tools

end GoldenCheck
