import GoldenCheck.Shell.WordReader

/-!
# The grammar of the shell

Commands are read from tokens, one complete command at a time, so that what stands on one line can
run before the next line is read. `readCommand` reads a complete command.

Each function for a part of the grammar takes the readers for the commands inside it. They are the
same functions with less room for commands inside commands.
-/

namespace GoldenCheck

namespace Shell

/-- A part of the grammar. -/
abbrev ParseM := StateT Reader (Except SyntaxError)

/-- How far a list of commands goes. -/
inductive Extent where
  /-- To the end of the line. -/
  | line
  /-- To a token that cannot go on; there is at least one command. -/
  | block
  /-- To a token that cannot go on; there may be none. -/
  | any
  /-- A single command. -/
  | one
  deriving DecidableEq, Repr

/-- How the commands inside a command are read. -/
abbrev Inner := Extent → ParseM (Option Node)

namespace ParseM

/-- The script has no meaning. -/
def fail (text : String) : ParseM α := fun r => r.fail text

/-- The longest complaint about a token. -/
def complaintLimit : Nat := 63

/-- The last token is not what has to come. -/
def unexpected (expected : Option Token) : ParseM α := fun r =>
  let words := r.last.name ++ " unexpected" ++ match expected with
    | some t => " (expecting " ++ t.name ++ ")"
    | none => ""
  r.fail (String.ofList (words.toList.take complaintLimit))

/-- Let the last token come once more. -/
def hold : ParseM Unit := modify fun r => { r with isHeld := true }

/-- Say what is to be done with the next token. -/
def check (checks : Checks) : ParseM Unit := modify fun r => { r with checks }

/-- Line ends, keywords and aliases are looked for. -/
def checkAll : ParseM Unit := check { newlines := true, keywords := true, aliases := true }

/-- Keywords and aliases are looked for. -/
def checkWords : ParseM Unit := check { keywords := true, aliases := true }

/-- The last token. -/
def found (t : Token) : ParseM Token := modifyGet fun r => (t, { r with last := t })

end ParseM

open ParseM

/-- Read the documents that come after a line. -/
def readDocuments (commands : CommandReader) : ParseM Unit := do
  let r ← get
  set { r with awaited := [] }
  for d in r.awaited do
    let r ← get
    let quotes : Quotes := if d.expands then .double else .single
    let s ← WordState.read commands (.document d) quotes r
    set { s.reader with documents := (d.number, s.parts.reverse) :: s.reader.documents }

/-- Read what follows `<` or `>` up to the operand. -/
def readRedirect (descriptor : Option Nat) : ParseM Unit := do
  let r ← get
  let c := r.cursor
  let d := c.next
  let isOutput := c.char? = some '>'
  let (kind, strips, rest) : RedirectKind × Bool × Reader :=
    if isOutput then
      match d.char? with
      | some '>' => (.append, false, d.after)
      | some '|' => (.clobber, false, d.after)
      | some '&' => (.duplicate true, false, d.after)
      | _ => (.write, false, d.before)
    else match d.char? with
      | some '<' =>
        let e := d.next
        if e.char? = some '-' then (.document r.nextDocument false, true, e.after)
        else (.document r.nextDocument false, false, e.before)
      | some '&' => (.duplicate false, false, d.after)
      | some '>' => (.readWrite, false, d.after)
      | _ => (.read, false, d.before)
  let descriptor := descriptor.getD (if isOutput then 1 else 0)
  set { rest with redirect := ⟨descriptor, kind, []⟩, stripsTabs := strips }

/-- The text of the innermost alias that is being read ends in a blank. -/
def Reader.aliasEndsBlank (r : Reader) : Bool :=
  match r.busy.head?.bind fun name => List.lookup name r.aliases with
  | some text => text.getLast? = some ' ' ∨ text.getLast? = some '\t'
  | none => false

/-- The reader at the next token, after blanks and a comment. -/
def Reader.skipBlanks : Nat → Reader → Reader
  | 0, r => r
  | fuel + 1, r =>
    let r := r.joined
    match r.input with
    | c :: rest =>
      let after := { r with input := rest }
      if c = ' ' ∨ c = '\t' then skipBlanks fuel after
      else if c = aliasEnd then
        let checks := if r.aliasEndsBlank then { r.checks with aliases := true } else r.checks
        skipBlanks fuel { after.leaveAlias with checks }
      else if c = '#' then skipBlanks fuel { r with input := rest.dropWhile (· ≠ '\n') }
      else r
    | [] => r

/-- Read an operator of one character or of the same character twice. -/
def readOperator (c : Cursor) (single double : Token) : ParseM Token := do
  let d := c.next
  if d.char? = c.char? then
    set d.after
    found double
  else
    set d.before
    found single

/-- Read the next token, without looking for keywords and aliases. -/
def readRawToken (commands : CommandReader) : ParseM Token := do
  let r ← get
  if r.isHeld then
    set { r with isHeld := false }
    return r.last
  let r := r.skipBlanks (r.input.length + 1)
  let c := r.cursor
  let single (t : Token) : ParseM Token := do
    set c.after
    found t
  match c.char? with
  | none => do
    set c.before
    found .theEnd
  | some '\n' => do
    set { c.after with line := c.after.line + 1 }
    found .newline
  | some '&' => readOperator c .ampersand .andThen
  | some '|' => readOperator c .bar .orElse
  | some ';' => readOperator c .semicolon .armEnd
  | some '(' => single .open
  | some ')' => single .close
  | some _ => do
    let s ← WordState.read commands .word .none c.before
    set s.reader
    let next := s.reader.input.head?
    let digit? : Option (Option Nat) := match s.parts with
      | [] => some none
      | [.plain d] => if d.isDigit then some (some (d.toNat - 48)) else none
      | _ => none
    match digit? with
    | some descriptor =>
      if (next = some '<' ∨ next = some '>') ∧ !s.hasQuotes then
        readRedirect descriptor
        return ← found .redirection
    | none => pure ()
    modify fun r => { r with word := s.parts.reverse, isQuoted := s.hasQuotes }
    found .word

/-- Read the next token. -/
def readToken (commands : CommandReader) : ParseM Token := do
  go (← get).checks WordState.limit
where
  /-- Skip line ends. -/
  skipLines : Nat → Token → ParseM Token
    | 0, t => return t
    | fuel + 1, t =>
      if t ≠ .newline then return t
      else do
        readDocuments commands
        check {}
        skipLines fuel (← readRawToken commands)
  /-- Go on when an alias was replaced. -/
  go (checks : Checks) : Nat → ParseM Token
    | 0 => fail ""
    | fuel + 1 => do
      let t ← readRawToken commands
      let t ← if checks.newlines then skipLines WordState.limit t else pure t
      let r ← get
      let checks := { checks with aliases := checks.aliases || r.checks.aliases }
      check {}
      if t ≠ .word || r.isQuoted then return t
      match Word.text? r.word with
      | none => return t
      | some text =>
        match if checks.keywords then Keyword.find? text else none with
        | some k => found (.keyword k)
        | none =>
          if !checks.aliases || r.busy.contains text then return t
          match r.aliases.lookup text with
          | none => return t
          | some value =>
            modify fun r => { r with
              input := value ++ aliasEnd :: r.input, busy := text :: r.busy }
            go checks fuel

/-- Read a token that has to be a certain one. -/
def expect (commands : CommandReader) (t : Token) : ParseM Unit := do
  if (← readToken commands) ≠ t then unexpected (some t)

/-- Read the operand of the last redirection. -/
def readOperand (commands : CommandReader) : ParseM (Redirect Node) := do
  let redirect := (← get).redirect
  let strips := (← get).stripsTabs
  match redirect.kind with
  | .document number _ =>
    check { delimiter := true }
    if (← readToken commands) ≠ .word then unexpected none
    let r ← get
    let delimiter := r.word.filterMap fun
      | .plain c => some c
      | .quoted c => some c
      | _ => none
    let expands := !r.isQuoted
    let d : Document := ⟨number, delimiter, strips, expands⟩
    set { r with awaited := r.awaited ++ [d], nextDocument := number + 1 }
    return { redirect with kind := .document number expands }
  | _ =>
    if (← readToken commands) ≠ .word then unexpected none
    return { redirect with operand := (← get).word }

/-- The functions that a special command has to be one of; no function can have such a name. -/
def specialNames : List String :=
  [".", ":", "break", "continue", "eval", "exec", "exit", "export", "local", "readonly", "return",
    "set", "shift", "times", "trap", "unset"]

/-- The parts of a simple command, each list with the last one first. -/
structure SimpleParts where
  /-- Words that set variables. -/
  assignments : List (Word Node) := []
  /-- The other words. -/
  words : List (Word Node) := []
  /-- Redirections. -/
  redirects : List (Redirect Node) := []

/-- Read the rest of the definition of a function. -/
def readFunction (commands : CommandReader) (inner : Inner) (name : Word Node) :
    ParseM (Option Node) := do
  expect commands .close
  match Word.text? name with
  | some text =>
    if !isName text ∨ specialNames.contains (String.ofList text) then fail "Bad function name"
    checkAll
    let line := (← get).line
    let body ← inner .one
    return body.map fun body => .define line text body
  | none => fail "Bad function name"

/-- Read a simple command. -/
def readSimple (commands : CommandReader) (inner : Inner) : ParseM (Option Node) := do
  go (← get).line {} WordState.limit
where
  /-- Go on when some parts were read. -/
  go (line : Nat) (s : SimpleParts) : Nat → ParseM (Option Node)
    | 0 => fail ""
    | fuel + 1 => do
      check { aliases := s.words.isEmpty }
      match ← readToken commands with
      | .word =>
        let w := (← get).word
        if s.words.isEmpty && isAssignment w then
          go line { s with assignments := w :: s.assignments } fuel
        else go line { s with words := w :: s.words } fuel
      | .redirection =>
        let redirect ← readOperand commands
        go line { s with redirects := redirect :: s.redirects } fuel
      | t =>
        match t, s with
        | .open, ⟨[], [name], []⟩ => readFunction commands inner name
        | _, _ =>
          hold
          return some (.simple line s.assignments.reverse s.words.reverse s.redirects.reverse)

/-- Read redirections after a command. -/
def readRedirects (commands : CommandReader) : ParseM (List (Redirect Node)) := do
  checkWords
  go [] WordState.limit
where
  /-- Go on when some were read, the last one first. -/
  go (redirects : List (Redirect Node)) : Nat → ParseM (List (Redirect Node))
    | 0 => fail ""
    | fuel + 1 => do
      if (← readToken commands) = .redirection then
        go ((← readOperand commands) :: redirects) fuel
      else
        hold
        return redirects.reverse

/-- A command that cannot be missing where it was read. -/
def present : Option Node → ParseM Node
  | some n => return n
  | none => unexpected none

/-- Read what follows `if` or `elif`, up to `fi`. -/
def readChoice (commands : CommandReader) (inner : Inner) : Nat → ParseM Node
  | 0 => fail ""
  | fuel + 1 => do
    let test ← inner .block
    expect commands (.keyword .thenWord)
    let test ← present test
    let yes ← inner .block
    let t ← readToken commands
    match t with
    | .keyword .elifWord =>
      let yes ← present yes
      return .choice test yes (some (← readChoice commands inner fuel))
    | .keyword .elseWord =>
      let yes ← present yes
      let no ← inner .block
      expect commands (.keyword .fiWord)
      return .choice test yes no
    | .keyword .fiWord => return .choice test (← present yes) none
    | _ => unexpected (some (.keyword .fiWord))

/-- Read the words after `in`. -/
def readWords (commands : CommandReader) : ParseM (List (Word Node)) := go [] WordState.limit
where
  /-- Go on when some were read, the last one first. -/
  go (words : List (Word Node)) : Nat → ParseM (List (Word Node))
    | 0 => fail ""
    | fuel + 1 => do
      match ← readToken commands with
      | .word => go ((← get).word :: words) fuel
      | .newline | .semicolon => return words.reverse
      | _ => unexpected none

/-- Read what follows `for`. -/
def readFor (commands : CommandReader) (inner : Inner) (line : Nat) : ParseM Node := do
  let t ← readToken commands
  let r ← get
  let name := (Word.text? r.word).getD []
  if t ≠ .word || r.isQuoted || !isName name then fail "Bad for loop variable"
  checkAll
  let words ← match ← readToken commands with
    | .keyword .inWord => readWords commands
    | .semicolon => pure [allArguments]
    | _ =>
      hold
      pure [allArguments]
  checkAll
  expect commands (.keyword .doWord)
  let body ← inner .block
  expect commands (.keyword .doneWord)
  return .forEach line name words (← present body)

/-- Read the patterns of an arm of `case`, when the first token of it was read. -/
def readPatterns (commands : CommandReader) : ParseM (List (Word Node)) := do
  if (← get).last = .open then
    let _ ← readToken commands
  go [] WordState.limit
where
  /-- Go on when some were read, the last one first. -/
  go (patterns : List (Word Node)) : Nat → ParseM (List (Word Node))
    | 0 => fail ""
    | fuel + 1 => do
      let patterns := (← get).word :: patterns
      match ← readToken commands with
      | .bar =>
        let _ ← readToken commands
        go patterns fuel
      | .close => return patterns.reverse
      | _ => unexpected (some .close)

/-- Read the arms of `case`, up to `esac`. -/
def readArms (commands : CommandReader) (inner : Inner) :
    Nat → ParseM (List (List (Word Node) × Option Node))
  | 0 => fail ""
  | fuel + 1 => do
    check { newlines := true, keywords := true }
    if (← readToken commands) = .keyword .esacWord then return []
    let patterns ← readPatterns commands
    let body ← inner .any
    check { newlines := true, keywords := true }
    match ← readToken commands with
    | .keyword .esacWord => return [(patterns, body)]
    | .armEnd => return (patterns, body) :: (← readArms commands inner fuel)
    | _ => unexpected (some .armEnd)

/-- Read what follows `case`. -/
def readCase (commands : CommandReader) (inner : Inner) (line : Nat) : ParseM Node := do
  expect commands .word
  let word := (← get).word
  checkAll
  expect commands (.keyword .inWord)
  return .select line word (← readArms commands inner WordState.limit)

/-- Read a command. -/
def readOne (commands : CommandReader) (inner : Inner) : ParseM (Option Node) := do
  let line := (← get).line
  let closed (n : Option Node) (t : Token) : ParseM Node := do
    expect commands t
    present n
  let n : Node ← match ← readToken commands with
    | .keyword .ifWord => readChoice commands inner WordState.limit
    | .keyword .whileWord => readLoop false
    | .keyword .untilWord => readLoop true
    | .keyword .forWord => readFor commands inner line
    | .keyword .caseWord => readCase commands inner line
    | .open => pure (Node.subshell line (← closed (← inner .block) .close) [])
    | .keyword .leftBrace => closed (← inner .block) (.keyword .rightBrace)
    | .word | .redirection =>
      hold
      return ← readSimple commands inner
    | _ => unexpected none
  let redirects ← readRedirects commands
  if redirects.isEmpty then return some n
  else match n with
    | .subshell line n _ => return some (.subshell line n redirects)
    | n => return some (.redirected line n redirects)
where
  /-- Read what follows `while` or `until`. -/
  readLoop (untilTrue : Bool) : ParseM Node := do
    let test ← inner .block
    expect commands (.keyword .doWord)
    let test ← present test
    let body ← inner .block
    expect commands (.keyword .doneWord)
    return .loop untilTrue test (← present body)

/-- Read commands that are joined by `|`. -/
def readPipe (commands : CommandReader) (inner : Inner) : ParseM (Option Node) := do
  let negated ← match ← readToken commands with
    | .keyword .bang =>
      checkWords
      pure true
    | _ =>
      hold
      pure false
  let first ← present (← readOne commands inner)
  let n ← go [first] WordState.limit
  return some (if negated then .negate n else n)
where
  /-- Go on when some were read, the last one first. -/
  go (stages : List Node) : Nat → ParseM Node
    | 0 => fail ""
    | fuel + 1 => do
      if (← readToken commands) = .bar then
        checkAll
        go ((← present (← readOne commands inner)) :: stages) fuel
      else
        hold
        match stages with
        | [n] => return n
        | _ => return .pipe false stages.reverse

/-- Read commands that are joined by `&&` and `||`. -/
def readAndOr (commands : CommandReader) (inner : Inner) : ParseM Node := do
  go (← present (← readPipe commands inner)) WordState.limit
where
  /-- Go on with what comes after a command. -/
  go (n : Node) : Nat → ParseM Node
    | 0 => fail ""
    | fuel + 1 => do
      match ← readToken commands with
      | .andThen =>
        checkAll
        go (.both n (← present (← readPipe commands inner))) fuel
      | .orElse =>
        checkAll
        go (.either n (← present (← readPipe commands inner))) fuel
      | _ =>
        hold
        return n

/-- A command that the shell does not wait for. -/
def inBackground : Node → Node
  | .pipe _ stages => .pipe true stages
  | .redirected line n redirects => .background line n redirects
  | n => .background 0 n []

/-- Read a list of commands. -/
def readList (commands : CommandReader) (inner : Inner) (extent : Extent) :
    ParseM (Option Node) :=
  if extent = .one then readOne commands inner
  else go none (extent = .any) WordState.limit
where
  /-- Go on when some commands were read. -/
  go (n : Option Node) (canEnd : Bool) : Nat → ParseM (Option Node)
    | 0 => fail ""
    | fuel + 1 => do
      let isLine := extent = .line
      check { newlines := !isLine, keywords := true, aliases := true }
      let t ← readToken commands
      if t = .newline then
        readDocuments commands
        return n
      if t = .theEnd then
        readDocuments commands
        hold
        return n
      hold
      if canEnd && t.endsList && !isLine then return n
      let next ← readAndOr commands inner
      let t ← readToken commands
      let next := if t = .ampersand then inBackground next else next
      let n := match n with
        | none => next
        | some n => .sequence n next
      match t with
      | .theEnd =>
        readDocuments commands
        hold
        return some n
      | .newline =>
        hold
        go (some n) true fuel
      | .ampersand | .semicolon => go (some n) true fuel
      | _ =>
        if isLine then unexpected none
        hold
        return some n

/-- How commands inside words are read. A document that was asked for in the last line of them, and
so was not read, is empty. -/
def nested (inner : Inner) : CommandReader := fun closes r => do
  let (n, after) ← (inner .any).run { r with awaited := [], isHeld := false, checks := {} }
  if closes ∧ after.last ≠ .close then
    let _ ← (unexpected (some .close) : ParseM Unit).run after
  return (n, { after with awaited := r.awaited, isHeld := false, checks := r.checks })

/-- Read lists of commands with so many commands inside commands. -/
def readLists : Nat → Extent → ParseM (Option Node)
  | 0, _ => fail ""
  | depth + 1, extent =>
    let inner := readLists depth
    readList (nested inner) inner extent

/-- Read a complete command; nothing at the end of the script. -/
def readCommand (r : Reader) : Except SyntaxError (Option (Option Node) × Reader) := do
  let depth := r.input.length + 8
  let r := { r with isHeld := false, checks := {}, awaited := [] }
  let (n, r) ← (readLists depth .line).run r
  if n.isNone ∧ r.last = .theEnd then return (none, r) else return (some n, r)

/-- Read a text as in double quotes. -/
def readText (r : Reader) : Except SyntaxError (Word Node) := do
  let commands := nested (readLists (r.input.length + 8))
  let s ← WordState.read commands .text .double r
  return s.parts.reverse

end Shell

end GoldenCheck
