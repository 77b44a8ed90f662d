import GoldenCheck.Text.Utf8

/-!
# What a comparison found

A report and its reference are `identical` or `different` (`ContentMatch`). Two sources feed the
same classification: bytes compared in memory, and the exit status of a comparison tool, where
`0` says identical, `1` different, and any other status says that the tool was in trouble
(`ToolStatus`). Trouble is kept apart from a difference.
-/

namespace GoldenCheck

/-- How the content of a report relates to that of its reference. -/
inductive ContentMatch where
  /-- The same bytes. -/
  | identical
  /-- Other bytes. -/
  | different
  deriving DecidableEq, Repr

namespace ContentMatch

/-- The word for a relation. -/
def word : ContentMatch → String
  | .identical => "identical"
  | .different => "different"

/-- Compare two contents byte for byte. -/
def ofBytes (expected actual : Bytes) : ContentMatch :=
  if expected = actual then .identical else .different

theorem ofBytes_eq_identical_iff {expected actual : Bytes} :
    ofBytes expected actual = .identical ↔ expected = actual := by
  simp [ofBytes]

end ContentMatch

/-- What the exit of a comparison tool says. -/
inductive ToolStatus where
  /-- Exit status `0`. -/
  | identical
  /-- Exit status `1`. -/
  | different
  /-- Any other exit status, or none when a signal ended the tool. -/
  | trouble (code : Option Int)
  deriving DecidableEq, Repr

namespace ToolStatus

/-- Read an exit status; a tool that a signal ended has none. -/
def ofExitCode (code : Option Int) : ToolStatus :=
  if code = some 0 then .identical
  else if code = some 1 then .different
  else .trouble code

/-- The exit status of a reading. An end by a signal counts as `2`. -/
def code : ToolStatus → Int
  | .identical => 0
  | .different => 1
  | .trouble code => code.getD 2

/-- The relation that a tool found, if it was not in trouble. -/
def contentMatch? : ToolStatus → Option ContentMatch
  | .identical => some .identical
  | .different => some .different
  | .trouble _ => none

/-- The reading that stands for a relation. -/
def ofContentMatch : ContentMatch → ToolStatus
  | .identical => .identical
  | .different => .different

theorem contentMatch?_ofContentMatch (m : ContentMatch) :
    (ofContentMatch m).contentMatch? = some m := by
  cases m <;> rfl

theorem ofExitCode_code_ofContentMatch (m : ContentMatch) :
    ofExitCode (some (ofContentMatch m).code) = ofContentMatch m := by
  cases m <;> rfl

end ToolStatus

end GoldenCheck
