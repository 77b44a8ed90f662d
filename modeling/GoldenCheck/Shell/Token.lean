import GoldenCheck.Shell.Script

/-!
# Tokens of the shell

A script is read in tokens: operators, words, and words that are part of the language in some
places (`Keyword`). A `Reader` is what is left of a script, with what is known about what was read.
-/

namespace GoldenCheck

namespace Shell

/-- A word that is part of the language where a command can begin. -/
inductive Keyword where
  | bang | caseWord | doWord | doneWord | elifWord | elseWord | esacWord | fiWord | forWord
  | ifWord | inWord | thenWord | untilWord | whileWord | leftBrace | rightBrace
  deriving DecidableEq, Repr

namespace Keyword

/-- The keywords with their texts. -/
def table : List (String × Keyword) :=
  [("!", bang), ("case", caseWord), ("do", doWord), ("done", doneWord), ("elif", elifWord),
   ("else", elseWord), ("esac", esacWord), ("fi", fiWord), ("for", forWord), ("if", ifWord),
   ("in", inWord), ("then", thenWord), ("until", untilWord), ("while", whileWord),
   ("\x7b", leftBrace), ("\x7d", rightBrace)]

/-- The keyword of a text. -/
def find? (cs : Chars) : Option Keyword := table.lookup (String.ofList cs)

/-- The text of a keyword. -/
def text (k : Keyword) : String :=
  match table.find? (·.2 = k) with
  | some (text, _) => text
  | none => ""

end Keyword

/-- A token. -/
inductive Token where
  /-- The script ends. -/
  | theEnd
  /-- A line ends. -/
  | newline
  /-- `;`. -/
  | semicolon
  /-- `&`. -/
  | ampersand
  /-- `&&`. -/
  | andThen
  /-- `||`. -/
  | orElse
  /-- `|`. -/
  | bar
  /-- `(`. -/
  | open
  /-- `)`. -/
  | close
  /-- `;;`. -/
  | armEnd
  /-- A word. -/
  | word
  /-- A redirection. -/
  | redirection
  /-- A keyword. -/
  | keyword (k : Keyword)
  deriving DecidableEq, Repr

namespace Token

/-- The name of a token in complaints. -/
def name : Token → String
  | .theEnd => "end of file"
  | .newline => "newline"
  | .semicolon => "\";\""
  | .ampersand => "\"&\""
  | .andThen => "\"&&\""
  | .orElse => "\"||\""
  | .bar => "\"|\""
  | .open => "\"(\""
  | .close => "\")\""
  | .armEnd => "\";;\""
  | .word => "word"
  | .redirection => "redirection"
  | .keyword k => "\"" ++ k.text ++ "\""

/-- A list of commands can end before the token. -/
def endsList : Token → Bool
  | .theEnd | .close | .armEnd => true
  | .keyword k =>
    [.doWord, .doneWord, .elifWord, .elseWord, .esacWord, .fiWord, .thenWord,
      .rightBrace].contains k
  | _ => false

end Token

/-- A script that has no meaning: the line and what is wrong. -/
structure SyntaxError where
  /-- The line. -/
  line : Nat
  /-- What is wrong. -/
  text : String
  deriving DecidableEq, Repr

/-- A document that stands in the script, after the line that asks for it. -/
structure Document where
  /-- Its number. -/
  number : Nat
  /-- The line that ends it. -/
  delimiter : Chars
  /-- Tabs at the beginning of a line are left out. -/
  stripsTabs : Bool
  /-- Parameters and commands are expanded. -/
  expands : Bool
  deriving DecidableEq, Repr

/-- What is to be done with the next token. -/
structure Checks where
  /-- Line ends before it are skipped. -/
  newlines : Bool := false
  /-- It can be a keyword. -/
  keywords : Bool := false
  /-- It can be an alias. -/
  aliases : Bool := false
  /-- It is a delimiter, in which nothing is expanded. -/
  delimiter : Bool := false
  deriving DecidableEq, Repr

/-- What is left of a script, and what was read last. -/
structure Reader where
  /-- The text that is left. -/
  input : Chars
  /-- The line. -/
  line : Nat := 1
  /-- The last token. -/
  last : Token := .newline
  /-- The last token comes once more. -/
  isHeld : Bool := false
  /-- The parts of the last word. -/
  word : Word Node := []
  /-- Something in the last word was quoted. -/
  isQuoted : Bool := false
  /-- The last redirection, without its operand. -/
  redirect : Redirect Node := ⟨0, .read, []⟩
  /-- It strips tabs, if it asks for a document. -/
  stripsTabs : Bool := false
  /-- What is to be done with the next token. -/
  checks : Checks := {}
  /-- Documents that come after the line, in order. -/
  awaited : List Document := []
  /-- The number of the next document. -/
  nextDocument : Nat := 0
  /-- The documents by their numbers. -/
  documents : List (Nat × Word Node) := []
  /-- The aliases. -/
  aliases : List (Chars × Chars) := []
  /-- The aliases whose texts are being read, the innermost first. -/
  busy : List Chars := []

/-- The sign that stands where the text of an alias ends. No byte has it. -/
def aliasEnd : Char := Char.ofNat 0xE000

namespace Reader

/-- The reader after lines that are joined: a backslash at the end of a line joins the next to it. -/
def joined (r : Reader) : Reader :=
  let (input, line) := skip r.input r.line
  { r with input, line }
where
  /-- The text and the line number after backslashes at line ends. -/
  skip : Chars → Nat → Chars × Nat
    | '\\' :: '\n' :: rest, line => skip rest (line + 1)
    | cs, line => (cs, line)

/-- An error at the line that is being read. -/
def fail (r : Reader) (text : String) : Except SyntaxError α := .error ⟨r.line, text⟩

/-- The text of an alias has been read. -/
def leaveAlias (r : Reader) : Reader := { r with busy := r.busy.drop 1 }

end Reader

end Shell

end GoldenCheck
