import GoldenCheck.Harness

/-!
# Making references anew

`bless` has the engine write the report of each case over the reference of the case. A case whose
report cannot be made keeps its reference, and the others go on.
-/

namespace GoldenCheck

/-- Why a reference was not made, if it was not. -/
def blessFailure? : Attempt GenerationError Unit → Option CaseFailure
  | .done () => none
  | .failed e => some (.generation e)
  | .brokenOff message => some (.panicked (message.getD Attempt.defaultMessage))

/-- Make the reference of one case. -/
def blessCase (h : Harness W) (c : TestCase) (w : W) : BlessOutcome × W :=
  let (r, w) := h.generate c c.reference w
  ({ name := c.name, reference := c.reference,
     error := (blessFailure? r).map fun failure => ⟨c.root, failure⟩, duration := .zero }, w)

/-- Make the references of all cases. -/
def bless (h : Harness W) : List TestCase → W → List BlessOutcome × W
  | [], w => ([], w)
  | c :: cs, w =>
    let (outcome, w) := blessCase h c w
    let (outcomes, w) := bless h cs w
    (outcome :: outcomes, w)

end GoldenCheck
