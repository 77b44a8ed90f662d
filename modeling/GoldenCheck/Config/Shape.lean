import GoldenCheck.Failure
import GoldenCheck.Text.Quoted
import GoldenCheck.Toml.Value

/-!
# The shape of a case table

A case table is a TOML document whose values must be of the right kinds and under known keys.
This module reads single values (`asText`, `asCount`, …) and whole records (`RecordShape`), and
says what is wrong with a value of another shape (`ShapeError`).

The keys of a record are looked at in the order of the document, and the first fault counts; keys
that are missing are noticed last, in the order in which the record declares them. A record may
also be written as an array: its items then stand for the first declared keys.
-/

namespace GoldenCheck

/-- What is wrong with the shape of a document. -/
inductive ShapeError where
  /-- A record lacks a key. -/
  | missingField (name : String)
  /-- A record has a key that it does not declare. -/
  | unknownField (name : String) (declared : List String)
  /-- A value is of the wrong kind. -/
  | invalidType (found : Toml) (expected : String)
  /-- An integer is out of range. -/
  | invalidValue (found : Int) (expected : String)
  /-- A record that is written as an array is too short for a key that must be there. -/
  | invalidLength (length : Nat) (expected : String)

namespace ShapeError

/-- A name between backquotes. -/
def ticked (name : String) : String := "\x60" ++ name ++ "\x60"

/-- How a value is named in a message. -/
def describe : Toml → String
  | .text s => "string " ++ quotedText s
  | .integer n => "integer " ++ ticked (toString n)
  | .floating x => "floating point " ++ ticked x.text
  | .boolean b => "boolean " ++ ticked (toString b)
  | .moment _ => "map"
  | .array _ => "sequence"
  | .table _ => "map"

/-- The sentence for an error. -/
def message : ShapeError → String
  | .missingField name => "missing field " ++ ticked name
  | .unknownField name declared =>
    "unknown field " ++ ticked name ++ ", expected one of "
      ++ String.intercalate ", " (declared.map ticked)
  | .invalidType found expected => "invalid type: " ++ describe found ++ ", expected " ++ expected
  | .invalidValue found expected =>
    "invalid value: integer " ++ ticked (toString found) ++ ", expected " ++ expected
  | .invalidLength length expected =>
    "invalid length " ++ toString length ++ ", expected " ++ expected

end ShapeError

/-- Reads an `α` from a value. -/
abbrev ValueReader (α : Type) := Toml → Except ShapeError α

/-- A text. -/
def asText : ValueReader String
  | .text s => .ok s
  | v => .error (.invalidType v "a string")

/-- A path, written as a text. -/
def asPath : ValueReader Path
  | .text s => .ok (.ofText s)
  | v => .error (.invalidType v "path string")

/-- A truth value. -/
def asFlag : ValueReader Bool
  | .boolean b => .ok b
  | v => .error (.invalidType v "a boolean")

/-- A natural number of the kind that `kind` names. -/
def asCount (kind : String) : ValueReader Nat
  | .integer n => if 0 ≤ n then .ok n.toNat else .error (.invalidValue n kind)
  | v => .error (.invalidType v kind)

/-- An array of items. -/
def asItems (item : ValueReader α) : ValueReader (List α)
  | .array items => items.mapM item
  | v => .error (.invalidType v "a sequence")

/-- The key under which a moment lies when a table is wanted. -/
def momentKey : String := "$__toml_private_datetime"

/-- A table of texts. -/
def asTexts : ValueReader (List (String × String))
  | .table members => members.mapM fun m => return (m.1, ← asText m.2)
  | .moment written => .ok [(momentKey, written)]
  | v => .error (.invalidType v "a map")

/-- The keys of a record in the order in which it declares them, each with a check of its value. -/
structure RecordShape where
  /-- The name of the record. -/
  title : String
  /-- The keys and their checks. -/
  fields : List (String × ValueReader Unit)

namespace RecordShape

/-- The keys that a record declares. -/
def names (shape : RecordShape) : List String := shape.fields.map (·.1)

/-- The members of a record that is written as a table, or as an array of its first values. -/
def members (shape : RecordShape) : ValueReader Toml.Table
  | .table members => .ok members
  | .array items => .ok (shape.names.zip items)
  | .moment written => .ok [(momentKey, .text written)]
  | v => .error (.invalidType v ("struct " ++ shape.title))

/-- Check one member. -/
def checkMember (shape : RecordShape) (m : String × Toml) : Except ShapeError Unit :=
  match shape.fields.lookup m.1 with
  | some check => check m.2
  | none => .error (.unknownField m.1 shape.names)

/-- Check all members, in their order. -/
def check (shape : RecordShape) (members : Toml.Table) : Except ShapeError Unit :=
  members.forM shape.checkMember

/-- The error for a key that is not there. -/
def absent (shape : RecordShape) (written : Toml) (name : String) : ShapeError :=
  match written with
  | .array _ =>
    .invalidLength ((shape.names.findIdx? (· = name)).getD 0)
      ("struct " ++ shape.title ++ " with " ++ toString shape.fields.length ++ " elements")
  | _ => .missingField name

end RecordShape

/-- Read the value of a key, if there is one. -/
def optionalField (members : Toml.Table) (name : String) (read : ValueReader α) :
    Except ShapeError (Option α) :=
  (members.get? name).mapM read

/-- Check a value by reading it. -/
def checked (read : ValueReader α) : ValueReader Unit := fun v => do discard (read v)

end GoldenCheck
