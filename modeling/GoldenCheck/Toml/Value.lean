import GoldenCheck.Decimal.Text

/-!
# Values of a TOML document

A document is a table: keys with their values in the order in which the document brings them
(`Toml.Table`). How a table was written, with a header, with dotted keys or in braces, is not
part of its value.
-/

namespace GoldenCheck

/-- A floating-point number. -/
inductive Floating where
  /-- A finite number. -/
  | finite (negative : Bool) (magnitude : Binary64)
  /-- An infinity. -/
  | infinite (negative : Bool)
  /-- Not a number. -/
  | notANumber
  deriving DecidableEq, Repr

/-- The text of a floating-point number: never with an exponent, always with a point. -/
def Floating.text : Floating → String
  | .finite negative x => (if negative then "-" else "") ++ x.shortest.pointedText
  | .infinite negative => if negative then "-inf" else "inf"
  | .notANumber => "NaN"

/-- A value of a document. -/
inductive Toml where
  /-- A string. -/
  | text (s : String)
  /-- An integer. -/
  | integer (n : Int)
  /-- A floating-point number. -/
  | floating (x : Floating)
  /-- A truth value. -/
  | boolean (b : Bool)
  /-- A date, a time, or both, as it is written in full. -/
  | moment (written : String)
  /-- An array. -/
  | array (items : List Toml)
  /-- A table. -/
  | table (members : List (String × Toml))
  deriving Repr

namespace Toml

/-- The keys of a table with their values, in order. -/
abbrev Table := List (String × Toml)

/-- The value of a key. -/
def Table.get? (t : Table) (key : String) : Option Toml := t.lookup key

end Toml

end GoldenCheck
