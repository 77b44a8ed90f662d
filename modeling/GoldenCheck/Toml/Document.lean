import GoldenCheck.Toml.Lexeme

/-!
# Documents of TOML

A document is a list of statements: headers, headers of array items, and keys with values. This
module reads the statements (`statements?`) and puts them together as one table (`assemble?`).

Tables can be written in several ways, and which of them may be mixed is a rule of the format. So
while a document is put together each table remembers its `Origin`: a table with a header of its
own cannot be opened again, nor added to by dotted keys; a table that dotted keys made cannot get a
header. `Draft` is a value with that memory, and `Draft.value` forgets it.
-/

namespace GoldenCheck

namespace Toml

/-- How a table came to be. -/
inductive Origin where
  /-- By a header of its own. -/
  | header
  /-- By the header of a table inside it. -/
  | ancestor
  /-- By a dotted key. -/
  | dotted
  deriving DecidableEq, Repr

/-- A value of a document that is being put together. -/
inductive Draft where
  /-- A value that is complete. -/
  | done (v : Toml)
  /-- A table that may grow. -/
  | table (origin : Origin) (members : List (String × Draft))
  /-- Tables that are items of an array, the last one first. -/
  | tables (items : List (List (String × Draft)))

/-- The members of a table that is being put together. -/
abbrev Members := List (String × Draft)

mutual

/-- The value, without the memory of how it came to be. -/
def Draft.value : Draft → Toml
  | .done v => v
  | .table _ members => .table (Draft.membersValue members)
  | .tables items => .array (Draft.itemsValue items).reverse

/-- The values of members. -/
def Draft.membersValue : List (String × Draft) → List (String × Toml)
  | [] => []
  | (k, d) :: rest => (k, d.value) :: Draft.membersValue rest

/-- The values of the items of an array, in the order of the list. -/
def Draft.itemsValue : List (List (String × Draft)) → List Toml
  | [] => []
  | members :: rest => .table (Draft.membersValue members) :: Draft.itemsValue rest

end

/-! ### Putting statements together -/

/-- Replace the value of a key, or add it at the end. -/
def Members.put (key : String) (d : Draft) : Members → Members
  | [] => [(key, d)]
  | (k, old) :: rest => if k = key then (k, d) :: rest else (k, old) :: Members.put key d rest

/-- Change the members of the table that a path leads to. On the way a missing table is made,
with the origin `way`; an array of tables is entered at its last item; a value ends the way. Dotted
keys do not enter a table that has a header. `change` is told the origin of the table it changes. -/
def descend (way : Origin) (change : Origin → Members → Option Members) :
    List String → Origin → Members → Option Members
  | [], origin, members => change origin members
  | key :: path, _, members =>
    match members.lookup key with
    | none => do
      let inner ← descend way change path way []
      return members.put key (.table way inner)
    | some (.table origin inner) =>
      if way = .dotted ∧ origin = .header then none
      else do
        let inner ← descend way change path origin inner
        return members.put key (.table origin inner)
    | some (.tables (last :: before)) => do
      let last ← descend way change path .header last
      return members.put key (.tables (last :: before))
    | some _ => none

/-- Give a key a value. The table must have been made by dotted keys just when the key is
dotted, and must not have the key yet. -/
def putValue (path : List String) (key : String) (v : Toml) (members : Members) : Option Members :=
  descend .dotted (fun origin inner =>
    if (origin = .dotted) ↔ path = [] then none
    else if (inner.lookup key).isSome then none
    else some (inner.put key (.done v))) path .header members

/-- A key with its value. -/
structure Assignment where
  /-- The parts of the key before the last. -/
  path : List String
  /-- The last part. -/
  key : String
  /-- The value. -/
  value : Toml

/-- The table of a value in braces. -/
def inlineTable? (assignments : List Assignment) : Option Toml := do
  let members ← assignments.foldlM (fun ms (a : Assignment) => putValue a.path a.key a.value ms) []
  return .table (Draft.membersValue members)

/-- A statement of a document. -/
inductive Statement where
  /-- The header of a table. -/
  | header (path : List String) (key : String)
  /-- The header of an item of an array of tables. -/
  | item (path : List String) (key : String)
  /-- A key with a value. -/
  | assign (a : Assignment)

/-- The table that assignments go to. -/
structure Section where
  /-- Where it belongs; nothing for the document itself. -/
  place : Option (List String × String)
  /-- It is an item of an array. -/
  isItem : Bool
  /-- What it holds so far. -/
  members : Members

/-- The document so far, and the section that is being read. -/
structure Assembly where
  /-- The document without the section that is being read. -/
  root : Members
  /-- The section that is being read. -/
  current : Section

/-- Put the section that is being read into the document. -/
def Assembly.close? (a : Assembly) : Option Members :=
  match a.current.place with
  | none => some a.current.members
  | some (path, key) =>
    descend .ancestor (fun _ members =>
      if a.current.isItem then
        match members.lookup key with
        | none => some (members.put key (.tables [a.current.members]))
        | some (.tables items) => some (members.put key (.tables (a.current.members :: items)))
        | some _ => none
      else
        match members.lookup key with
        | none => some (members.put key (.table .header a.current.members))
        | some (.table .ancestor _) => some (members.put key (.table .header a.current.members))
        | some _ => none) path .header a.root

/-- The members of the table that a path leads to, as far as there is one. -/
def Members.inside? : List String → Members → Option Members
  | [], members => some members
  | key :: path, members =>
    match members.lookup key with
    | some (.table _ inner) => Members.inside? path inner
    | some (.tables (last :: _)) => Members.inside? path last
    | _ => none

/-- Begin the section of a header. A table that only the headers of tables inside it have made is
taken out of the document and goes on as the new section. -/
def openTable? (path : List String) (key : String) (root : Members) : Option Assembly :=
  let place := some (path, key)
  match (root.inside? path).bind (·.lookup key) with
  | some (.table .ancestor inner) => do
    let without (_ : Origin) (members : Members) : Option Members :=
      some (members.filter (·.1 ≠ key))
    let root ← descend .ancestor without path .header root
    return ⟨root, ⟨place, false, inner⟩⟩
  | some _ => none
  | none => do
    let root ← descend .ancestor (fun _ members => some members) path .header root
    return ⟨root, ⟨place, false, []⟩⟩

/-- Begin the section of an item of an array of tables. -/
def openItem? (path : List String) (key : String) (root : Members) : Option Assembly := do
  let root ← descend .ancestor (fun _ members =>
    match members.lookup key with
    | none => some (members.put key (.tables []))
    | some (.tables _) => some members
    | some _ => none) path .header root
  return ⟨root, ⟨some (path, key), true, []⟩⟩

/-- Take one more statement. -/
def Assembly.step (a : Assembly) : Statement → Option Assembly
  | .header path key => do openTable? path key (← a.close?)
  | .item path key => do openItem? path key (← a.close?)
  | .assign s => do
    let members ← putValue s.path s.key s.value a.current.members
    return { a with current := { a.current with members } }

/-- The table that a list of statements describes. -/
def assemble? (statements : List Statement) : Option Table := do
  let a ← statements.foldlM Assembly.step ⟨[], ⟨none, false, []⟩⟩
  return Draft.membersValue (← a.close?)

/-! ### Reading statements -/

/-- The parts of a key but the last, and the last. -/
def splitKey : List String → Option (List String × String)
  | [] => none
  | parts => parts.getLast?.map fun last => (parts.dropLast, last)

/-- Items of an array up to the closing bracket, with a comma between them and perhaps one after
the last. -/
def arrayItems (item : Reader Toml) : Nat → Reader (List Toml)
  | 0, _ => none
  | fuel + 1, cs =>
    match skipGap cs with
    | ']' :: rest => some ([], rest)
    | cs => do
      let (v, rest) ← item cs
      match skipGap rest with
      | ']' :: rest => some ([v], rest)
      | ',' :: rest => do
        let (vs, rest) ← arrayItems item fuel rest
        return (v :: vs, rest)
      | _ => none

/-- A key, an equals sign and a value, with the blanks around them. -/
def readAssignment (value : Reader Toml) : Reader Assignment := fun cs => do
  let (parts, rest) ← readKey cs
  let (path, last) ← splitKey parts
  let '=' :: rest := rest | none
  let (v, rest) ← value (skipSpaces rest)
  return (⟨path, last, v⟩, skipSpaces rest)

/-- The assignments of a table in braces, with a comma between them. -/
def inlineAssignments (value : Reader Toml) : Nat → Reader (List Assignment)
  | 0, _ => none
  | fuel + 1, cs => do
    let (a, rest) ← readAssignment value cs
    match rest with
    | '\x7d' :: rest => some ([a], rest)
    | ',' :: rest => do
      let (as, rest) ← inlineAssignments value fuel rest
      return (a :: as, rest)
    | _ => none

/-- A value in which arrays and tables are nested less deep than the given depth. -/
def readValue : Nat → Reader Toml
  | 0, _ => none
  | depth + 1, cs =>
    match cs with
    | '[' :: rest =>
      if depth = 0 then none
      else (arrayItems (readValue depth) (rest.length + 1) rest).map fun r => (.array r.1, r.2)
    | '\x7b' :: rest =>
      if depth = 0 then none
      else match skipSpaces rest with
        | '\x7d' :: rest => some (.table [], rest)
        | _ => do
          let (as, rest) ← inlineAssignments (readValue depth) (rest.length + 1) rest
          return (← inlineTable? as, rest)
    | 't' :: 'r' :: 'u' :: 'e' :: rest => some (.boolean true, rest)
    | 'f' :: 'a' :: 'l' :: 's' :: 'e' :: rest => some (.boolean false, rest)
    | 'i' :: 'n' :: 'f' :: rest => some (.floating (.infinite false), rest)
    | 'n' :: 'a' :: 'n' :: rest => some (.floating .notANumber, rest)
    | c :: _ =>
      if c = '"' ∨ c = '\'' then (readString cs).map fun r => (.text r.1, r.2)
      else if c.isDigit ∨ c = '+' ∨ c = '-' then readNumberOrMoment cs
      else none
    | [] => none

/-- The header of a table or of an item of an array, and the rest of its line. -/
def readHeader (cs : List Char) : Option (Statement × List Char) :=
  match cs with
  | '[' :: '[' :: rest => do
    let (parts, rest) ← readKey rest
    let (path, last) ← splitKey parts
    let ']' :: ']' :: rest := rest | none
    return (.item path last, ← endOfLine? rest)
  | '[' :: rest => do
    let (parts, rest) ← readKey rest
    let (path, last) ← splitKey parts
    let ']' :: rest := rest | none
    return (.header path last, ← endOfLine? rest)
  | _ => none

/-- The statements of a document, a line at a time, with fuel for the length of the input. -/
def statements? : Nat → List Char → Option (List Statement)
  | 0, _ => none
  | fuel + 1, cs =>
    match skipGap cs with
    | [] => some []
    | '[' :: rest => do
      let (s, rest) ← readHeader ('[' :: rest)
      return s :: (← statements? fuel rest)
    | cs => do
      let (a, rest) ← readAssignment (readValue depthLimit) cs
      return .assign a :: (← statements? fuel (← endOfLine? rest))

/-- A byte order mark at the front says nothing. -/
def dropMark : List Char → List Char
  | '\uFEFF' :: cs => cs
  | cs => cs

/-- The table that a document describes; nothing for a text that is no document. -/
def parse? (s : String) : Option Table := do
  let cs := dropMark s.toList
  assemble? (← statements? (cs.length + 1) cs)

end Toml

end GoldenCheck
