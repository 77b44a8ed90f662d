import GoldenCheck.Proofs.Toml.Building

/-!
# The integers of a document

Every integer in a document has 64 bits (`parse?_fits`): the reader of integers refuses all others, and what a
document is put together from holds no integer that was not read. `Fits` says it of a value, however deep the
integers lie in it.
-/

namespace GoldenCheck

namespace Toml

/-- Every integer in the value has 64 bits. -/
inductive Fits : Toml → Prop where
  | text (s : String) : Fits (.text s)
  | integer {n : Int} (h : isInt64 n = true) : Fits (.integer n)
  | floating (x : Floating) : Fits (.floating x)
  | boolean (b : Bool) : Fits (.boolean b)
  | moment (written : String) : Fits (.moment written)
  | array {items : List Toml} (h : ∀ v ∈ items, Fits v) : Fits (.array items)
  | table {members : Table} (h : ∀ m ∈ members, Fits m.2) : Fits (.table members)

theorem isBuilt_fits : IsBuilt Fits where
  text := .text
  integer := .integer
  floating := .floating
  boolean := .boolean
  moment := .moment
  array := .array
  table _ := .table

/-- **Every integer in a document has 64 bits.** -/
theorem parse?_fits {text : String} {table : Table} (h : parse? text = some table) :
    ∀ m ∈ table, m.2.Fits := by
  cases parse?_of_isBuilt isBuilt_fits h with
  | table hmembers => exact hmembers

end Toml

end GoldenCheck
