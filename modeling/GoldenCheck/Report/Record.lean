import GoldenCheck.Json.Basic
import GoldenCheck.Outcome

/-!
# The record of a run

A finished run as one JSON document, for programs. `CaseRecord` and `SummaryRecord` say what is
in it; paths and errors are there as the texts that people see.
-/

namespace GoldenCheck

/-- The version that a record names. -/
def recordVersion : String := "0.1.0"

/-- What the record of a run says of one case. -/
structure CaseRecord where
  /-- The name of the case. -/
  name : String
  /-- Its root. -/
  root : String
  /-- Its reference. -/
  reference : String
  /-- Where its report goes. -/
  output : String
  /-- What it expected. -/
  expect : String
  /-- How it was judged. -/
  verdict : String
  /-- What the comparison found. -/
  observed : Option String
  /-- The short name of its failure. -/
  errorKind : Option String
  /-- The sentence for its failure. -/
  error : Option String
  /-- How many milliseconds it took. -/
  durationMs : Nat
  deriving DecidableEq, Repr

/-- What the record of a run says. -/
structure SummaryRecord where
  /-- The version of the record. -/
  version : String
  /-- How many cases passed. -/
  passed : Nat
  /-- How many did not. -/
  failed : Nat
  /-- How many milliseconds the run took. -/
  durationMs : Nat
  /-- The cases, in the order of the table. -/
  cases : List CaseRecord
  deriving DecidableEq, Repr

/-- The record of an outcome. -/
def CaseRecord.ofOutcome (o : CaseOutcome) : CaseRecord where
  name := o.name
  root := o.root.display
  reference := o.reference.display
  output := o.output.display
  expect := o.expect.word
  verdict := o.verdict.word
  observed := o.observed.map ContentMatch.word
  errorKind := o.error.map fun e => e.failure.kind
  error := o.error.map CaseError.message
  durationMs := o.duration.millis

/-- The record of a summary. -/
def SummaryRecord.ofSummary (s : RunSummary) : SummaryRecord where
  version := recordVersion
  passed := s.passed
  failed := s.failed
  durationMs := s.duration.millis
  cases := s.outcomes.map CaseRecord.ofOutcome

/-- The record of a case as a value. -/
def CaseRecord.toJson (r : CaseRecord) : Json :=
  .object [("name", .text r.name), ("root", .text r.root), ("reference", .text r.reference),
    ("output", .text r.output), ("expect", .text r.expect), ("verdict", .text r.verdict),
    ("observed", .ofText? r.observed), ("error_kind", .ofText? r.errorKind),
    ("error", .ofText? r.error), ("duration_ms", .number r.durationMs)]

/-- The record of a run as a value. -/
def SummaryRecord.toJson (r : SummaryRecord) : Json :=
  .object [("version", .text r.version), ("passed", .number r.passed),
    ("failed", .number r.failed), ("duration_ms", .number r.durationMs),
    ("cases", .array (r.cases.map CaseRecord.toJson))]

/-- The record of a run as a text: one document and a line feed. -/
def RunSummary.recordText (s : RunSummary) : String :=
  (SummaryRecord.ofSummary s).toJson.pretty ++ "\n"

/-- The text that the events of a run add to its record: the whole record comes at the end. -/
def recordOf (events : List RunEvent) : String :=
  String.join (events.map fun
    | .completed summary => summary.recordText
    | _ => "")

end GoldenCheck
