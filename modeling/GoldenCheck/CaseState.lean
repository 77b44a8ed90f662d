/-!
# The life of a case

    pending → generating → comparing → passed
                   ↓            ↓
                   └────────────┴────→ failed

States only move forward, and `passed` and `failed` have no successor.
-/

namespace GoldenCheck

/-- How far a case has come. -/
inductive CaseState where
  /-- Nothing was done yet. -/
  | pending
  /-- The report is being made. -/
  | generating
  /-- The report is being compared. -/
  | comparing
  /-- The expectation was met. -/
  | passed
  /-- A step failed, or the expectation was not met. -/
  | failed
  deriving DecidableEq, Repr

/-- A step that the life of a case does not have. -/
structure InvalidTransition where
  /-- The state that was to be left. -/
  source : CaseState
  /-- The state that was to be entered. -/
  target : CaseState
  deriving DecidableEq, Repr

namespace CaseState

/-- The word for a state. -/
def word : CaseState → String
  | .pending => "pending"
  | .generating => "generating"
  | .comparing => "comparing"
  | .passed => "passed"
  | .failed => "failed"

/-- No step leaves this state. -/
def isTerminal : CaseState → Bool
  | .passed | .failed => true
  | _ => false

/-- `s.canAdvanceTo t`: the step from `s` to `t` is one of the life of a case. -/
def canAdvanceTo : CaseState → CaseState → Bool
  | .pending, .generating => true
  | .generating, .comparing => true
  | .generating, .failed => true
  | .comparing, .passed => true
  | .comparing, .failed => true
  | _, _ => false

/-- Take a step, or refuse one that is none. -/
def advance (s t : CaseState) : Except InvalidTransition CaseState :=
  if s.canAdvanceTo t then .ok t else .error ⟨s, t⟩

theorem advance_eq_ok_iff {s t u : CaseState} :
    s.advance t = .ok u ↔ s.canAdvanceTo t = true ∧ t = u := by
  unfold advance
  split <;> simp_all

theorem canAdvanceTo_eq_false_of_isTerminal {s : CaseState} (h : s.isTerminal = true)
    (t : CaseState) : s.canAdvanceTo t = false := by
  cases s with
  | passed | failed => cases t <;> rfl
  | pending | generating | comparing => cases h

end CaseState

/-- The sentence that reports a refused step. -/
def InvalidTransition.message (t : InvalidTransition) : String :=
  "invalid case state transition: " ++ t.source.word ++ " -> " ++ t.target.word

end GoldenCheck
