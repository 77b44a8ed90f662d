import Mathlib.Data.List.Basic

/-!
# The grammar of JSON texts

What a JSON text stands for is a `JsonTree`. The grammar is a relation between what is read, the characters
before it is read and those that are left (`JsonText.Reads`): a value, a member of a record, or the items of
a list or the members of a record with the bracket after them. Strings have the escapes of JSON and no raw
control characters, and a character beyond the basic plane can be two code units (`JsonText.SpellsChar`).
A numeral is one that `JsonText.isNumeral` takes, and is kept as it is written. White space can stand around
every value, and nothing else can (`JsonText.IsDocument`).

Lists of items and lists of members follow one pattern (`JsonText.IsList`), so that what reads or writes
them is about the pattern.
-/

namespace GoldenCheck

/-- What a JSON text stands for. A number is kept as it is written. -/
inductive JsonTree where
  /-- `null`. -/
  | null
  /-- `true` or `false`. -/
  | bool (b : Bool)
  /-- A number. -/
  | number (numeral : List Char)
  /-- A text. -/
  | text (s : String)
  /-- A list. -/
  | array (items : List JsonTree)
  /-- A record, with its members in order. -/
  | object (members : List (String × JsonTree))
  deriving Repr

namespace JsonText

/-! ### White space -/

/-- A character of white space. -/
def isSpace (c : Char) : Bool := c == ' ' || c == '\t' || c == '\n' || c == '\r'

/-- White space, or nothing. -/
def Spaces (cs : List Char) : Prop := ∀ c ∈ cs, isSpace c = true

/-! ### Strings -/

/-- The value of a hexadecimal digit. -/
def hexValue? (c : Char) : Option Nat :=
  if '0' ≤ c ∧ c ≤ '9' then some (c.toNat - '0'.toNat)
  else if 'a' ≤ c ∧ c ≤ 'f' then some (c.toNat - 'a'.toNat + 10)
  else if 'A' ≤ c ∧ c ≤ 'F' then some (c.toNat - 'A'.toNat + 10)
  else none

/-- The code unit that four hexadecimal digits stand for. -/
def unit? (a b c d : Char) : Option Nat := do
  return (((← hexValue? a) * 16 + (← hexValue? b)) * 16 + (← hexValue? c)) * 16 + (← hexValue? d)

/-- What a letter after a backslash stands for. -/
def shortEscape? (e : Char) : Option Char :=
  if e = '"' then some '"'
  else if e = '\\' then some '\\'
  else if e = '/' then some '/'
  else if e = 'b' then some '\x08'
  else if e = 'f' then some '\x0c'
  else if e = 'n' then some '\n'
  else if e = 'r' then some '\r'
  else if e = 't' then some '\t'
  else none

/-- The character that two code units stand for, the first from the upper half of the surrogates and
the second from the lower. -/
def joined (high low : Nat) : Char := Char.ofNat (0x10000 + (high - 0xD800) * 0x400 + (low - 0xDC00))

/-- The two code units are an upper and a lower surrogate. -/
def IsPair (high low : Nat) : Prop := 0xD800 ≤ high ∧ high < 0xDC00 ∧ 0xDC00 ≤ low ∧ low < 0xE000

instance (high low : Nat) : Decidable (IsPair high low) := inferInstanceAs (Decidable (_ ∧ _))

/-- How one character of a string can be written. -/
inductive SpellsChar : Char → List Char → Prop where
  /-- As it is. -/
  | plain {c : Char} : c ≠ '"' → c ≠ '\\' → 0x20 ≤ c.toNat → SpellsChar c [c]
  /-- With a letter. -/
  | short {c e : Char} : shortEscape? e = some c → SpellsChar c ['\\', e]
  /-- With one code unit. -/
  | unit {a b c d : Char} {n : Nat} : unit? a b c d = some n → n.isValidChar →
      SpellsChar (Char.ofNat n) ['\\', 'u', a, b, c, d]
  /-- With two code units. -/
  | pair {a b c d a' b' c' d' : Char} {high low : Nat} : unit? a b c d = some high →
      unit? a' b' c' d' = some low → IsPair high low →
      SpellsChar (joined high low) ['\\', 'u', a, b, c, d, '\\', 'u', a', b', c', d']

/-- The characters of a string and the quote after them. -/
inductive ReadsChars : List Char → List Char → List Char → Prop where
  /-- The quote. -/
  | quote {rest : List Char} : ReadsChars [] ('"' :: rest) rest
  /-- A character, and what follows it. -/
  | char {c : Char} {s spelled cs rest : List Char} : SpellsChar c spelled → ReadsChars s cs rest →
      ReadsChars (c :: s) (spelled ++ cs) rest

/-! ### Numerals -/

/-- How far a numeral has been read. -/
inductive NumeralState where
  /-- Nothing has been read. -/
  | start
  /-- A minus. -/
  | minus
  /-- A zero: no digit can follow. -/
  | zero
  /-- A digit before the point. -/
  | whole
  /-- The point: a digit must follow. -/
  | point
  /-- A digit after the point. -/
  | fraction
  /-- The letter before an exponent. -/
  | letter
  /-- The sign of an exponent. -/
  | sign
  /-- A digit of an exponent. -/
  | exponent
  deriving DecidableEq, Repr

namespace NumeralState

/-- After the digits before the point, which end at this character. -/
def afterWhole (c : Char) : Option NumeralState :=
  if c = '.' then some point else if c = 'e' ∨ c = 'E' then some letter else none

/-- Read one more character. -/
def step (s : NumeralState) (c : Char) : Option NumeralState :=
  match s with
  | start =>
    if c = '-' then some minus else if c = '0' then some zero
    else if c.isDigit then some whole else none
  | minus => if c = '0' then some zero else if c.isDigit then some whole else none
  | zero => afterWhole c
  | whole => if c.isDigit then some whole else afterWhole c
  | point => if c.isDigit then some fraction else none
  | fraction => if c.isDigit then some fraction else if c = 'e' ∨ c = 'E' then some letter else none
  | letter => if c = '+' ∨ c = '-' then some sign else if c.isDigit then some exponent else none
  | sign | exponent => if c.isDigit then some exponent else none

/-- A numeral can end here. -/
def isFinal (s : NumeralState) : Bool :=
  match s with
  | zero | whole | fraction | exponent => true
  | start | minus | point | letter | sign => false

end NumeralState

/-- A numeral: a minus perhaps, digits that begin with no zero but a lone one, and perhaps a fraction
and an exponent. -/
def isNumeral (cs : List Char) : Bool := (cs.foldlM NumeralState.step .start).any NumeralState.isFinal

/-! ### Values -/

/-- What can be read: a value, a member of a record, or what follows the opening bracket of a list or
a record that is not empty. -/
inductive Phrase where
  /-- A value. -/
  | value (v : JsonTree)
  /-- A member. -/
  | member (m : String × JsonTree)
  /-- Items and the bracket after them. -/
  | items (xs : List JsonTree)
  /-- Members and the bracket after them. -/
  | members (ms : List (String × JsonTree))

/-- **The grammar**: what is read, the characters before, and those that are left. -/
inductive Reads : Phrase → List Char → List Char → Prop where
  /-- `null`. -/
  | nullWord {rest : List Char} : Reads (.value .null) ('n' :: 'u' :: 'l' :: 'l' :: rest) rest
  /-- `true`. -/
  | trueWord {rest : List Char} : Reads (.value (.bool true)) ('t' :: 'r' :: 'u' :: 'e' :: rest) rest
  /-- `false`. -/
  | falseWord {rest : List Char} :
      Reads (.value (.bool false)) ('f' :: 'a' :: 'l' :: 's' :: 'e' :: rest) rest
  /-- A numeral. -/
  | number {numeral rest : List Char} : isNumeral numeral = true →
      Reads (.value (.number numeral)) (numeral ++ rest) rest
  /-- A string. -/
  | text {s cs rest : List Char} : ReadsChars s cs rest →
      Reads (.value (.text (String.ofList s))) ('"' :: cs) rest
  /-- A list without items. -/
  | emptyArray {a rest : List Char} : Spaces a →
      Reads (.value (.array [])) ('[' :: (a ++ ']' :: rest)) rest
  /-- A list with items. -/
  | array {xs : List JsonTree} {cs rest : List Char} : Reads (.items xs) cs rest →
      Reads (.value (.array xs)) ('[' :: cs) rest
  /-- A record without members. -/
  | emptyObject {a rest : List Char} : Spaces a →
      Reads (.value (.object [])) ('\x7b' :: (a ++ '\x7d' :: rest)) rest
  /-- A record with members. -/
  | object {ms : List (String × JsonTree)} {cs rest : List Char} : Reads (.members ms) cs rest →
      Reads (.value (.object ms)) ('\x7b' :: cs) rest
  /-- A member: a string, a colon and a value. -/
  | member {k a b cs ds rest : List Char} {v : JsonTree} : ReadsChars k cs (a ++ ':' :: (b ++ ds)) →
      Spaces a → Spaces b → Reads (.value v) ds rest →
      Reads (.member (String.ofList k, v)) ('"' :: cs) rest
  /-- The last item. -/
  | lastItem {x : JsonTree} {a b cs rest : List Char} : Spaces a → Spaces b →
      Reads (.value x) cs (b ++ ']' :: rest) → Reads (.items [x]) (a ++ cs) rest
  /-- An item with more after it. -/
  | item {x : JsonTree} {xs : List JsonTree} {a b cs ds rest : List Char} : Spaces a → Spaces b →
      Reads (.value x) cs (b ++ ',' :: ds) → Reads (.items xs) ds rest →
      Reads (.items (x :: xs)) (a ++ cs) rest
  /-- The last member. -/
  | lastMember {m : String × JsonTree} {a b cs rest : List Char} : Spaces a → Spaces b →
      Reads (.member m) cs (b ++ '\x7d' :: rest) → Reads (.members [m]) (a ++ cs) rest
  /-- A member with more after it. -/
  | moreMembers {m : String × JsonTree} {ms : List (String × JsonTree)} {a b cs ds rest : List Char} :
      Spaces a → Spaces b → Reads (.member m) cs (b ++ ',' :: ds) → Reads (.members ms) ds rest →
      Reads (.members (m :: ms)) (a ++ cs) rest

/-- **A JSON text**: one value, with nothing but white space around it. -/
def IsDocument (v : JsonTree) (cs : List Char) : Prop :=
  ∃ a b text, Spaces a ∧ Spaces b ∧ cs = a ++ text ∧ Reads (.value v) text b

/-! ### Lists -/

/-- Phrases that are lists: elements with commas between them and a bracket after them. -/
structure IsList {α : Type} (element : α → Phrase) (phrase : List α → Phrase) (close : Char) :
    Prop where
  /-- The last element. -/
  last : ∀ {x a b cs rest}, Spaces a → Spaces b → Reads (element x) cs (b ++ close :: rest) →
    Reads (phrase [x]) (a ++ cs) rest
  /-- An element with more after it. -/
  more : ∀ {x xs a b cs ds rest}, Spaces a → Spaces b → Reads (element x) cs (b ++ ',' :: ds) →
    Reads (phrase xs) ds rest → Reads (phrase (x :: xs)) (a ++ cs) rest

theorem isList_items : IsList .value .items ']' := ⟨.lastItem, .item⟩

theorem isList_members : IsList .member .members '\x7d' := ⟨.lastMember, .moreMembers⟩

/-- Lists of what is mapped are lists. -/
theorem IsList.map {α β : Type} {element : α → Phrase} {phrase : List α → Phrase} {close : Char}
    (h : IsList element phrase close) (f : β → α) :
    IsList (fun x => element (f x)) (fun xs => phrase (xs.map f)) close :=
  ⟨h.last, h.more⟩

theorem spaces_nil : Spaces [] := fun _ h => absurd h List.not_mem_nil

end JsonText

end GoldenCheck
