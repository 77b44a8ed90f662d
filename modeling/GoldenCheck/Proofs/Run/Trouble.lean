import GoldenCheck.Proofs.Except
import GoldenCheck.Proofs.Path.NormalForm
import GoldenCheck.Proofs.Run.Interleaving

/-!
# Trouble is no difference

A comparison finds something (`Desk.Finds`) only between two files: by their bytes in memory, or by a tool
that was started and exited with `0` or `1`. Whatever else happens when reports are compared is trouble.
A case whose report was made has its outcome from what the comparison found, or from its trouble
(`RunOptions.outcomeOf`), and trouble is a failure whatever the case expects.
-/

namespace GoldenCheck

open Comparator

/-! ### What comparisons find -/

/-- A tool says that contents are the same by `0`, and that they differ by `1`. Whatever else it exits
with, or an end without a status, is trouble. -/
theorem ToolStatus.contentMatch?_ofExitCode_iff {code : Option Int} {m : ContentMatch} :
    (ofExitCode code).contentMatch? = some m ↔
      code = some 0 ∧ m = .identical ∨ code = some 1 ∧ m = .different := by
  unfold ofExitCode
  split_ifs with h0 h1 <;> cases m <;> simp_all [contentMatch?]

/-- The comparison of a report with a reference finds `m`: both are files, and their bytes say so, or the
tool was started on them and exited with the status that says so. -/
def Desk.Finds (start : Launcher World) (choice : ComparatorChoice) (generated reference : Path)
    (d : Desk) (m : ContentMatch) : Prop :=
  match choice with
  | .inProcess => ∃ expected actual, d.look reference = .regular expected ∧
      d.look generated = .regular actual ∧ (m = .identical ↔ expected = actual)
  | .tool program args => (d.look reference).isFile = true ∧ (d.look generated).isFile = true ∧
      ∃ status output errors,
        (start (toolRequest program args generated reference) d.world).1 =
          .ended (.exited status) output errors ∧
        (status = 0 ∧ m = .identical ∨ status = 1 ∧ m = .different)

section

variable {start : Launcher World} {choice : ComparatorChoice} {generated reference : Path} {d : Desk}
  {m : ContentMatch}

/-- What can be read is a file, where there are no devices. -/
theorem readSide_eq_ok_iff {look : Path → FileState} {missing : Path → ComparisonError} {p : Path}
    (hdevice : look p ≠ .device) {content : Bytes} :
    readSide look missing p = .ok content ↔ look p = .regular content := by
  unfold readSide
  cases hlook : look p with
  | device => exact absurd hlook hdevice
  | regular bytes => simp [FileState.content]
  | directory => simp [FileState.content]
  | absent cause | unreadable cause => cases cause <;> simp [FileState.content]

theorem inMemory_eq_ok_iff {look : Path → FileState} (hgenerated : look generated ≠ .device)
    (hreference : look reference ≠ .device) :
    inMemory look generated reference = .ok m ↔ ∃ expected actual,
      look reference = .regular expected ∧ look generated = .regular actual ∧
        (m = .identical ↔ expected = actual) := by
  have hmatch : ∀ expected actual : Bytes,
      ContentMatch.ofBytes expected actual = m ↔ (m = .identical ↔ expected = actual) := by
    intro expected actual
    unfold ContentMatch.ofBytes
    split_ifs with heq <;> cases m <;> simp [heq]
  simp only [inMemory, bind_eq_ok_iff, pure_eq_ok_iff, readSide_eq_ok_iff hgenerated,
    readSide_eq_ok_iff hreference, hmatch, exists_and_left]

/-- A tool has found something when it exited with a status that says so. -/
theorem toolAnswer_eq_ok_iff {program : String} {result : ProcessResult} :
    toolAnswer program result = .ok m ↔ ∃ status output errors,
      result = .ended (.exited status) output errors ∧
        (status = 0 ∧ m = .identical ∨ status = 1 ∧ m = .different) := by
  cases result with
  | notStarted cause | outOfTime => simp [toolAnswer]
  | ended how output errors =>
    have hanswer : toolAnswer program (.ended how output errors) = .ok m ↔
        (ToolStatus.ofExitCode how.code?).contentMatch? = some m := by
      simp only [toolAnswer]
      cases (ToolStatus.ofExitCode how.code?).contentMatch? <;> simp
    rw [hanswer, ToolStatus.contentMatch?_ofExitCode_iff]
    cases how with
    | signalled number => simp [ProcessEnd.code?]
    | exited status =>
      have hone : (status : Int) = 1 ↔ status = 1 := by omega
      simp [ProcessEnd.code?, hone]

theorem byTool_eq_ok_iff {program : String} {args : List String} :
    (byTool Desk.look (Desk.launch start) program args generated reference d).1 = .ok m ↔
      Desk.Finds start (.tool program args) generated reference d m := by
  unfold byTool Desk.Finds
  cases hreference : (d.look reference).isFile with
  | false => simp
  | true =>
    cases hgenerated : (d.look generated).isFile with
    | false => simp
    | true =>
      simp only [Bool.not_true, Bool.false_eq_true, if_false, true_and]
      exact toolAnswer_eq_ok_iff

/-- **A comparison does not break off**, and it comes out well when it finds something. -/
theorem Desk.compare_spec (start : Launcher World) (choice : ComparatorChoice)
    (hgenerated : d.look generated ≠ .device) (hreference : d.look reference ≠ .device) : ∃ found,
      (Desk.compare start choice generated reference d).1 = .ofExcept found ∧
        ∀ m, found = .ok m ↔ Desk.Finds start choice generated reference d m := by
  cases choice with
  | inProcess => exact ⟨_, rfl, fun m => inMemory_eq_ok_iff hgenerated hreference⟩
  | tool program args => exact ⟨_, rfl, fun m => byTool_eq_ok_iff⟩

end

/-! ### What becomes of a case -/

/-- The outcome of a case whose report was made: by what the comparison found, or by its trouble. -/
def RunOptions.outcomeOf (o : RunOptions) (c : TestCase) (difference : Option String) :
    Except ComparisonError ContentMatch → CaseOutcome
  | .error e => o.failed c (.comparison e) none none
  | .ok m =>
    if m = (o.expectationOf c).expectedMatch then o.passed c m
    else o.failed c (.policyViolation (o.expectationOf c) m) (some m)
      (if m = .different then difference else none)

/-- **A case whose report was made** has the outcome that the comparison says. -/
theorem verifyCase_of_generated {W : Type} {h : Harness W} {o : RunOptions} {c : TestCase} {w v : W}
    (hplace : (o.outputOf c).normal ≠ c.reference.normal)
    (hgenerate : h.generate c (o.outputOf c) w = (.done (), v))
    {found : Except ComparisonError ContentMatch}
    (hcompare : (h.compare (o.outputOf c) c.reference v).1 = .ofExcept found)
    {difference : Option String}
    (hdescribe : (h.describe (o.outputOf c) c.reference (h.compare (o.outputOf c) c.reference v).2).1 =
      .done difference) :
    (verifyCase h o c w).1 = .ok (o.outcomeOf c difference found) := by
  have hsame := Path.sameFile_eq_false_iff.2 hplace
  have hmade : Progress.steps h o c 2 .pending w = (.comparing, v) := by
    simp [Progress.steps, Progress.step, hsame, hgenerate, Progress.afterGeneration]
  have hcompared := Progress.steps_succ hmade
  simp only [Progress.step, hcompare] at hcompared
  have hlast := Progress.steps_succ hcompared
  -- The last step describes the difference or removes the report, if anything is left to do.
  unfold verifyCase Progress.longest
  rw [hlast]
  cases found with
  | error e => rfl
  | ok m =>
    simp only [Attempt.ofExcept, Progress.afterComparison, RunOptions.outcomeOf, Expectation.verdict]
    by_cases hm : m = (o.expectationOf c).expectedMatch
    · simp only [hm, if_true]
      cases o.cleanPassing <;> rfl
    · by_cases hdifferent : m = .different
      · subst hdifferent
        simp only [hm, if_false, if_true, Progress.step, hdescribe]
        rfl
      · simp [hm, hdifferent, Progress.step, Progress.outcome]

/-! ### The main result -/

/-- **Trouble is no mismatch.** Say that the report of a case was made, that it does not go over the
reference, and that neither of the two is a device. Then the case has an outcome, whichever way reports
are compared. It passes exactly when the comparison finds what the case expects. It fails with a policy
violation when the comparison finds the opposite. In every other situation it fails with nothing observed,
because a file is missing or the comparison itself was in trouble, whatever it expects. A tool finds
something only by the statuses `0` and `1`. -/
theorem trouble_is_no_mismatch (start : Launcher World) (engine : EngineSettings)
    (choice : ComparatorChoice) (say : RunEvent → Desk → Desk)
    (make : TestCase → Path → Desk → Attempt GenerationError Unit × Desk) (o : RunOptions)
    (c : TestCase) (d made : Desk) (hplace : (o.outputOf c).normal ≠ c.reference.normal)
    (hmade : make c (o.outputOf c) d = (.done (), made))
    (hgenerated : made.look (o.outputOf c) ≠ .device) (hreference : made.look c.reference ≠ .device) :
    (∀ code m, (ToolStatus.ofExitCode code).contentMatch? = some m ↔
      code = some 0 ∧ m = .identical ∨ code = some 1 ∧ m = .different) ∧
    ∃ outcome,
      (verifyCase { Harness.atDesk start engine choice say with generate := make } o c d).1 =
        .ok outcome ∧
      (outcome.state = .passed ↔
        made.Finds start choice (o.outputOf c) c.reference (o.expectationOf c).expectedMatch) ∧
      (outcome.state ≠ .passed → outcome.state = .failed ∧ ∃ e, outcome.error = some e ∧
        ((∃ m, made.Finds start choice (o.outputOf c) c.reference m ∧
            m ≠ (o.expectationOf c).expectedMatch ∧ outcome.observed = some m ∧
            e.failure = .policyViolation (o.expectationOf c) m) ∨
          (∀ m, ¬ made.Finds start choice (o.outputOf c) c.reference m) ∧
            outcome.observed = none ∧ e.failure.kind ∈
              ["missing-generated", "missing-reference", "comparison-tool-error"])) := by
  obtain ⟨found, hcompare, hfinds⟩ := Desk.compare_spec start choice hgenerated hreference
  refine ⟨fun code m => ToolStatus.contentMatch?_ofExitCode_iff, _,
    verifyCase_of_generated hplace hmade hcompare rfl, ?_⟩
  cases found with
  | error e =>
    have hnothing : ∀ m, ¬ made.Finds start choice (o.outputOf c) c.reference m := fun m hm => by
      cases (hfinds m).2 hm
    refine ⟨by simp [RunOptions.outcomeOf, RunOptions.failed, hnothing], fun _ => ⟨rfl, _, rfl,
      Or.inr ⟨hnothing, rfl, ?_⟩⟩⟩
    cases e <;> simp [CaseFailure.kind, ComparisonError.kind]
  | ok m =>
    have hfound := (hfinds m).1 rfl
    have honly : ∀ m', made.Finds start choice (o.outputOf c) c.reference m' → m = m' := fun m' hm' =>
      Except.ok.inj ((hfinds m').2 hm')
    by_cases hm : m = (o.expectationOf c).expectedMatch
    · rw [RunOptions.outcomeOf, if_pos hm, ← hm]
      exact ⟨iff_of_true rfl hfound, fun hne => absurd rfl hne⟩
    · rw [RunOptions.outcomeOf, if_neg hm]
      exact ⟨iff_of_false (by simp [RunOptions.failed]) fun hexpected => hm (honly _ hexpected),
        fun _ => ⟨rfl, _, rfl, Or.inl ⟨m, hfound, hm, rfl, rfl⟩⟩⟩

/-- A case whose report is to differ from its reference. -/
def differingCase : TestCase where
  name := "vault"
  root := .ofText "vault"
  reference := .ofText "vault.md"
  expect := some .different

/-- A desk with a report and a reference that differ. -/
def differingDesk : Desk := .ofWorld
  ⟨{ entries := [([Utf8.encode "vault-workflow.md"], .file [33]), ([Utf8.encode "vault.md"], .file [35])] },
    []⟩ ⟨0, 0⟩

/-- A tool that a signal ends. -/
def killedTool : Launcher World := fun _ w => (.ended (.signalled 9) [] [], w)

/-- A case that expects a difference fails when the tool is killed, although there is a difference. -/
theorem killed_tool_finds_nothing : ∃ outcome,
    (verifyCase { Harness.atDesk killedTool ⟨"analyse", [], "-o", none⟩ (.tool "diff" ["-q"])
        (fun _ d => d) with generate := fun _ _ d => (.done (), d) } {} differingCase differingDesk).1 =
      .ok outcome ∧ outcome.state = .failed ∧ outcome.observed = none := by
  obtain ⟨-, outcome, hrun, hpassed, hfailed⟩ := trouble_is_no_mismatch killedTool
    ⟨"analyse", [], "-o", none⟩ (.tool "diff" ["-q"]) (fun _ d => d) (fun _ _ d => (.done (), d)) {}
    differingCase differingDesk differingDesk (by decide) rfl (by decide) (by decide)
  have hnothing : ∀ m, ¬ differingDesk.Finds killedTool (.tool "diff" ["-q"])
      (RunOptions.outputOf {} differingCase) differingCase.reference m := by
    rintro m ⟨-, -, status, output, errors, hended, -⟩
    cases hended
  obtain ⟨hstate, e, -, ⟨m, hfound, -⟩ | ⟨-, hobserved, -⟩⟩ :=
    hfailed fun hpass => hnothing _ (hpassed.1 hpass)
  · exact absurd hfound (hnothing m)
  · exact ⟨outcome, hrun, hstate, hobserved⟩

end GoldenCheck
