import GoldenCheck.Proofs.Run.Trouble

/-!
# Two ways to compare

Reports are compared in memory or by a tool. Say that the tool is faithful (`Comparator.IsFaithful`): of two
files it says whether their bytes are the same, and when one of them cannot be read it says neither. What
either way comes to is then decided by what lies at the two paths (`FileState.foundInMemory`,
`FileState.foundByTool`). They find the same wherever one of them finds anything. But they do not tell
trouble apart in one way. In memory a side is missing when nothing is found at its path, and whatever else
cannot be read is trouble of the comparison. Before a tool is run a side is missing when no file is there,
and both sides are looked at before either is read.

`comparators_agree_iff` says for which files both come to the same, and what each says where they do not.
`directory_is_told_two_ways` is a reference for which they do not.
-/

namespace GoldenCheck

/-- Both comparisons found the same, or both failed with errors of one kind. -/
def Attempt.AgreesWith (a b : Attempt ComparisonError ContentMatch) : Prop :=
  (∃ m, a = .done m ∧ b = .done m) ∨ ∃ e f, a = .failed e ∧ b = .failed f ∧ e.kind = f.kind

/-- A tool that compares files as `diff` does. -/
structure Comparator.IsFaithful (start : Launcher World) (program : String) (args : List String) :
    Prop where
  /-- It exits with `0` when both files can be read and have the same bytes. -/
  same : ∀ (w : World) generated reference content, w.look reference = .regular content →
    w.look generated = .regular content → ∃ output errors,
      (start (toolRequest program args generated reference) w).1 = .ended (.exited 0) output errors
  /-- It exits with `1` when both files can be read and their bytes differ. -/
  different : ∀ (w : World) generated reference expected actual,
    w.look reference = .regular expected → w.look generated = .regular actual → expected ≠ actual →
    ∃ output errors,
      (start (toolRequest program args generated reference) w).1 = .ended (.exited 1) output errors
  /-- It ends in some other way when one of the files cannot be read. -/
  trouble : ∀ (w : World) generated reference cause, (w.look reference).isFile = true →
    (w.look generated).isFile = true →
    (w.look reference = .unreadable cause ∨ w.look generated = .unreadable cause) →
    ∃ how output errors,
      (start (toolRequest program args generated reference) w).1 = .ended how output errors ∧
        how.code? ≠ some 0 ∧ how.code? ≠ some 1

/-! ### What is found, by what lies there -/

namespace FileState

/-- What reading one side comes to, with the word for a missing one. -/
def readAs (missing : String) : FileState → Except String Bytes
  | .regular content => .ok content
  | s => .error (if s = .absent .notFound then missing else "comparison-tool-error")

/-- What comparing in memory comes to: what was found, or the kind of the error. -/
def foundInMemory (reference generated : FileState) : Except String ContentMatch := do
  let expected ← reference.readAs "missing-reference"
  let actual ← generated.readAs "missing-generated"
  return .ofBytes expected actual

/-- What comparing by a faithful tool comes to. -/
def foundByTool (reference generated : FileState) : Except String ContentMatch :=
  if !reference.isFile then .error "missing-reference"
  else if !generated.isFile then .error "missing-generated"
  else match reference, generated with
    | .regular expected, .regular actual => .ok (.ofBytes expected actual)
    | _, _ => .error "comparison-tool-error"

/-- What is there is told alike in both ways: nothing is at the path of the reference, or both are files,
or the reference can be read and nothing is at the path of the report. -/
def ToldAlike (reference generated : FileState) : Prop :=
  reference = .absent .notFound ∨ (reference.isFile = true ∧ generated.isFile = true) ∨
    (∃ content, reference = .regular content) ∧ generated = .absent .notFound

variable {reference generated : FileState}

/-- What lies at a path, other than a device, is a file that can be read, a file that cannot, nothing at
all, or something that is no file. -/
theorem cases_of_ne_device {s : FileState} (h : s ≠ .device) :
    (∃ content, s = .regular content) ∨ (∃ cause, s = .unreadable cause) ∨ s = .absent .notFound ∨
      s ≠ .absent .notFound ∧ s.isFile = false := by
  cases s with
  | regular content => exact Or.inl ⟨content, rfl⟩
  | unreadable cause => exact Or.inr (Or.inl ⟨cause, rfl⟩)
  | device => exact absurd rfl h
  | directory => exact Or.inr (Or.inr (Or.inr ⟨by simp, rfl⟩))
  | absent cause =>
    by_cases hcause : cause = .notFound
    · exact Or.inr (Or.inr (Or.inl (by rw [hcause])))
    · exact Or.inr (Or.inr (Or.inr ⟨by simpa using hcause, rfl⟩))

theorem readAs_of_isFile_eq_false {missing : String} {s : FileState} (h : s.isFile = false) :
    s.readAs missing = .error (if s = .absent .notFound then missing else "comparison-tool-error") := by
  cases s with
  | regular content => cases h
  | absent | directory | unreadable | device => rfl

/-- A side that cannot be read in memory ends the comparison. -/
theorem foundInMemory_of_error {kind : String} (h : reference.readAs "missing-reference" = .error kind) :
    foundInMemory reference generated = .error kind := by
  rw [foundInMemory, h]
  rfl

theorem foundInMemory_of_regular (expected : Bytes) : foundInMemory (.regular expected) generated =
    (generated.readAs "missing-generated").map (ContentMatch.ofBytes expected) := by
  unfold foundInMemory
  cases generated.readAs "missing-generated" <;> rfl

theorem foundByTool_of_noReference (h : reference.isFile = false) :
    foundByTool reference generated = .error "missing-reference" := by
  simp [foundByTool, h]

theorem foundByTool_of_noReport (hreference : reference.isFile = true)
    (hgenerated : generated.isFile = false) :
    foundByTool reference generated = .error "missing-generated" := by
  simp [foundByTool, hreference, hgenerated]

/-- **Both ways come to the same where they are told alike.** Elsewhere memory calls it trouble, and the
tool calls a side missing. -/
theorem found_cases (hreference : reference ≠ .device) (hgenerated : generated ≠ .device) :
    ToldAlike reference generated ∧
        foundInMemory reference generated = foundByTool reference generated ∨
      ¬ ToldAlike reference generated ∧
        foundInMemory reference generated = .error "comparison-tool-error" ∧
        foundByTool reference generated =
          .error (if reference.isFile then "missing-generated" else "missing-reference") := by
  rcases cases_of_ne_device hreference with ⟨expected, rfl⟩ | ⟨cause, rfl⟩ | rfl | ⟨hfound, hfile⟩
  · -- The reference can be read, and the report decides.
    rw [foundInMemory_of_regular]
    rcases cases_of_ne_device hgenerated with ⟨actual, rfl⟩ | ⟨cause, rfl⟩ | rfl | ⟨hfound, hfile⟩
    · exact Or.inl ⟨Or.inr (Or.inl ⟨rfl, rfl⟩), rfl⟩
    · exact Or.inl ⟨Or.inr (Or.inl ⟨rfl, rfl⟩), rfl⟩
    · exact Or.inl ⟨Or.inr (Or.inr ⟨⟨expected, rfl⟩, rfl⟩), rfl⟩
    · refine Or.inr ⟨?_, ?_, foundByTool_of_noReport rfl hfile⟩
      · simp [ToldAlike, hfile, hfound]
      · rw [readAs_of_isFile_eq_false hfile, if_neg hfound]
        rfl
  · -- The reference is a file that cannot be read: in memory the report does not matter.
    have hmemory : foundInMemory (.unreadable cause) generated = .error "comparison-tool-error" :=
      foundInMemory_of_error rfl
    rw [hmemory]
    cases hfile : generated.isFile with
    | true =>
      have hself : (unreadable cause).isFile = true := rfl
      exact Or.inl ⟨Or.inr (Or.inl ⟨rfl, hfile⟩), by simp [foundByTool, hself, hfile]⟩
    | false => exact Or.inr ⟨by simp [ToldAlike, hfile], rfl, foundByTool_of_noReport rfl hfile⟩
  · exact Or.inl ⟨Or.inl rfl, rfl⟩
  · -- Something is there, but no file: the tool is not even run.
    have hregular : ¬ ∃ content, reference = .regular content := by
      rintro ⟨content, rfl⟩
      cases hfile
    refine Or.inr ⟨by simp [ToldAlike, hfound, hfile, hregular], ?_, ?_⟩
    · rw [foundInMemory_of_error (readAs_of_isFile_eq_false hfile), if_neg hfound]
    · rw [foundByTool_of_noReference hfile, hfile]
      rfl

end FileState

/-! ### What comparisons come to -/

section

open Comparator

variable {start : Launcher World} {program : String} {args : List String} {generated reference : Path}
  {d : Desk}

/-- A file that cannot be read is there. -/
theorem World.ne_notFound_of_look {w : World} {p : Path} {cause : SystemError}
    (h : w.look p = .unreadable cause) : cause ≠ .notFound := by
  unfold World.look at h
  split at h <;> cases h
  decide

/-- In memory one side is read as what lies there says. -/
theorem mapError_readSide {w : World} {p : Path} (missing : Path → ComparisonError)
    (hdevice : w.look p ≠ .device) : (readSide w.look missing p).mapError ComparisonError.kind =
      (w.look p).readAs (missing p).kind := by
  have hthere := @World.ne_notFound_of_look w p
  unfold readSide
  cases hlook : w.look p with
  | regular content => rfl
  | device => exact absurd hlook hdevice
  | directory => rfl
  | unreadable cause =>
    cases cause with
    | notFound => exact absurd rfl (hthere hlook)
    | _ => rfl
  | absent cause => cases cause <;> rfl

theorem mapError_inMemory (hgenerated : d.look generated ≠ .device)
    (hreference : d.look reference ≠ .device) :
    (inMemory d.look generated reference).mapError ComparisonError.kind =
      (d.look reference).foundInMemory (d.look generated) := by
  have hexpected := mapError_readSide .missingReference hreference
  have hactual := mapError_readSide .missingGenerated hgenerated
  simp only [inMemory, FileState.foundInMemory, mapError_bind]
  exact congrArg₂ _ hexpected (funext fun expected => congrArg₂ _ hactual rfl)

/-- A tool that exits with neither `0` nor `1` is in trouble. -/
theorem toolAnswer_of_trouble {how : ProcessEnd} (program : String) (output errors : Bytes)
    (hzero : how.code? ≠ some 0) (hone : how.code? ≠ some 1) :
    ∃ reason, toolAnswer program (.ended how output errors) = .error (.tool reason) := by
  have hstatus : ToolStatus.ofExitCode how.code? = .trouble how.code? := by
    rw [ToolStatus.ofExitCode, if_neg hzero, if_neg hone]
  exact ⟨troubleText program (.trouble how.code?) errors, by simp [toolAnswer, hstatus,
    ToolStatus.contentMatch?]⟩

/-- A faithful tool that is run on two files says what they hold. -/
theorem mapError_toolAnswer (faithful : IsFaithful start program args)
    (hreference : (d.look reference).isFile = true) (hgenerated : (d.look generated).isFile = true) :
    (toolAnswer program (start (toolRequest program args generated reference) d.world).1).mapError
      ComparisonError.kind = (d.look reference).foundByTool (d.look generated) := by
  have htrouble : ∀ cause, (d.look reference = .unreadable cause ∨ d.look generated = .unreadable cause) →
      (toolAnswer program (start (toolRequest program args generated reference) d.world).1).mapError
        ComparisonError.kind = .error "comparison-tool-error" := by
    intro cause hcause
    obtain ⟨how, output, errors, hended, hzero, hone⟩ :=
      faithful.trouble d.world generated reference cause hreference hgenerated hcause
    obtain ⟨reason, hanswer⟩ := toolAnswer_of_trouble program output errors hzero hone
    rw [hended, hanswer]
    rfl
  cases hexpected : d.look reference with
  | absent | directory | device => simp [hexpected, FileState.isFile] at hreference
  | unreadable cause =>
    rw [htrouble cause (Or.inl hexpected)]
    cases hactual : d.look generated with
    | absent | directory | device => simp [hactual, FileState.isFile] at hgenerated
    | regular | unreadable => rfl
  | regular expected =>
    cases hactual : d.look generated with
    | absent | directory | device => simp [hactual, FileState.isFile] at hgenerated
    | unreadable cause =>
      rw [htrouble cause (Or.inr hactual)]
      rfl
    | regular actual =>
      by_cases heq : expected = actual
      · subst heq
        obtain ⟨output, errors, hended⟩ :=
          faithful.same d.world generated reference expected hexpected hactual
        rw [hended]
        change Except.ok ContentMatch.identical = Except.ok (ContentMatch.ofBytes expected expected)
        rw [ContentMatch.ofBytes, if_pos rfl]
      · obtain ⟨output, errors, hended⟩ :=
          faithful.different d.world generated reference expected actual hexpected hactual heq
        rw [hended]
        change Except.ok ContentMatch.different = Except.ok (ContentMatch.ofBytes expected actual)
        rw [ContentMatch.ofBytes, if_neg heq]

theorem mapError_byTool (faithful : IsFaithful start program args) (generated reference : Path)
    (d : Desk) :
    (byTool Desk.look (Desk.launch start) program args generated reference d).1.mapError
      ComparisonError.kind = (d.look reference).foundByTool (d.look generated) := by
  unfold byTool
  cases hreference : (d.look reference).isFile with
  | false =>
    rw [FileState.foundByTool_of_noReference hreference]
    rfl
  | true =>
    cases hgenerated : (d.look generated).isFile with
    | false =>
      rw [FileState.foundByTool_of_noReport hreference hgenerated]
      rfl
    | true =>
      simp only [Bool.not_true, Bool.false_eq_true, if_false]
      exact mapError_toolAnswer faithful hreference hgenerated

/-- Comparisons agree when they come to the same but for the words of an error. -/
theorem agreesWith_ofExcept_iff {a b : Except ComparisonError ContentMatch} :
    (Attempt.ofExcept a).AgreesWith (.ofExcept b) ↔
      a.mapError ComparisonError.kind = b.mapError ComparisonError.kind := by
  cases a with
  | error e => cases b <;> simp [Attempt.AgreesWith, Attempt.ofExcept, Except.mapError]
  | ok m =>
    cases b with
    | error e => simp [Attempt.AgreesWith, Attempt.ofExcept, Except.mapError]
    | ok n => simpa [Attempt.AgreesWith, Attempt.ofExcept, Except.mapError] using eq_comm

/-- What was found is not a matter of errors. -/
theorem ofExcept_eq_done_iff {a : Except ComparisonError ContentMatch} {m : ContentMatch} :
    Attempt.ofExcept a = .done m ↔ a.mapError ComparisonError.kind = .ok m := by
  rw [mapError_eq_ok_iff]
  cases a <;> simp [Attempt.ofExcept]

/-- The kind of the error, of a comparison that failed. -/
theorem exists_error_of_mapError {a : Except ComparisonError ContentMatch} {kind : String}
    (h : a.mapError ComparisonError.kind = .error kind) :
    ∃ e, Attempt.ofExcept a = .failed e ∧ e.kind = kind := by
  cases a with
  | ok m => cases h
  | error e => exact ⟨e, rfl, Except.error.inj h⟩

end

/-- **Two ways to compare agree on all that is found, but not on what is missing.** Say that the tool is
faithful, and that neither of the two paths leads to a device. Then comparing in memory and comparing by the
tool agree exactly when nothing is at the path of the reference, or both are files, or the reference can be
read and nothing is at the path of the report. They find the same, if either finds anything. Where they do
not agree both fail: memory says that the comparison is in trouble, and the tool that a side is missing. -/
theorem comparators_agree_iff {start : Launcher World} {program : String} {args : List String}
    (faithful : Comparator.IsFaithful start program args) (generated reference : Path) (d : Desk)
    (hgenerated : d.look generated ≠ .device) (hreference : d.look reference ≠ .device) :
    ((Desk.compare start .inProcess generated reference d).1.AgreesWith
        (Desk.compare start (.tool program args) generated reference d).1 ↔
      d.look reference = .absent .notFound ∨
        ((d.look reference).isFile = true ∧ (d.look generated).isFile = true) ∨
        (∃ content, d.look reference = .regular content) ∧ d.look generated = .absent .notFound) ∧
    (∀ m, (Desk.compare start .inProcess generated reference d).1 = .done m ↔
      (Desk.compare start (.tool program args) generated reference d).1 = .done m) ∧
    (¬ (Desk.compare start .inProcess generated reference d).1.AgreesWith
        (Desk.compare start (.tool program args) generated reference d).1 →
      ∃ e f, (Desk.compare start .inProcess generated reference d).1 = .failed e ∧
        (Desk.compare start (.tool program args) generated reference d).1 = .failed f ∧
        e.kind = "comparison-tool-error" ∧
        f.kind = if (d.look reference).isFile then "missing-generated" else "missing-reference") := by
  have hmemory := mapError_inMemory hgenerated hreference
  have htool := mapError_byTool faithful generated reference d
  simp only [Desk.compare, agreesWith_ofExcept_iff, ofExcept_eq_done_iff]
  rw [hmemory, htool]
  rcases FileState.found_cases hreference hgenerated with ⟨halike, hsame⟩ | ⟨halike, hinside, houtside⟩
  · exact ⟨iff_of_true hsame halike, fun m => by rw [hsame], fun hne => absurd hsame hne⟩
  · have hne : (d.look reference).foundInMemory (d.look generated) ≠
        (d.look reference).foundByTool (d.look generated) := by
      rw [hinside, houtside]
      split <;> simp
    refine ⟨iff_of_false hne halike, fun m => by rw [hinside, houtside]; exact iff_of_false nofun nofun,
      fun _ => ?_⟩
    obtain ⟨e, hfailed, hkind⟩ := exists_error_of_mapError (hmemory.trans hinside)
    obtain ⟨f, hfailed', hkind'⟩ := exists_error_of_mapError (htool.trans houtside)
    exact ⟨e, f, hfailed, hfailed', hkind, hkind'⟩

/-! ### A tool, and two desks -/

/-- A tool that does nothing but compare the two files that its last arguments name. -/
def plainDiff : Launcher World := fun request w =>
  match request.args.reverse with
  | generated :: reference :: _ =>
    match w.look ⟨reference⟩, w.look ⟨generated⟩ with
    | .regular expected, .regular actual =>
      (.ended (.exited (if expected = actual then 0 else 1)) [] [], w)
    | _, _ => (.ended (.exited 2) [] [], w)
  | _ => (.ended (.exited 2) [] [], w)

theorem plainDiff_toolRequest (program : String) (args : List String) (generated reference : Path)
    (w : World) : plainDiff (Comparator.toolRequest program args generated reference) w =
      match w.look reference, w.look generated with
      | .regular expected, .regular actual =>
        (.ended (.exited (if expected = actual then 0 else 1)) [] [], w)
      | _, _ => (.ended (.exited 2) [] [], w) := by
  simp [plainDiff, Comparator.toolRequest]

theorem plainDiff_isFaithful (program : String) (args : List String) :
    Comparator.IsFaithful plainDiff program args where
  same w generated reference content hreference hgenerated := by
    rw [plainDiff_toolRequest, hreference, hgenerated]
    exact ⟨[], [], by simp⟩
  different w generated reference expected actual hreference hgenerated hne := by
    rw [plainDiff_toolRequest, hreference, hgenerated]
    exact ⟨[], [], by simp [hne]⟩
  trouble w generated reference cause hreference hgenerated hcause := by
    refine ⟨.exited 2, [], [], ?_, by decide, by decide⟩
    rw [plainDiff_toolRequest]
    rcases hcause with hcause | hcause
    · rw [hcause]
    · rw [hcause]
      cases w.look reference <;> rfl

/-- The two ways agree on the report and the reference of the sample desk: these differ. -/
theorem differing_reports_told_alike :
    (Desk.compare plainDiff .inProcess (.ofText "vault-workflow.md") (.ofText "vault.md")
        differingDesk).1 = .done .different ∧
      (Desk.compare plainDiff (.tool "diff" ["-q"]) (.ofText "vault-workflow.md") (.ofText "vault.md")
        differingDesk).1 = .done .different := by
  have hmemory : (Desk.compare plainDiff .inProcess (.ofText "vault-workflow.md") (.ofText "vault.md")
      differingDesk).1 = .done .different := by rfl
  exact ⟨hmemory, ((comparators_agree_iff (plainDiff_isFaithful "diff" ["-q"]) _ _ differingDesk
    (by decide) (by decide)).2.1 _).1 hmemory⟩

/-- A desk with a report, and a directory in the place of its reference. -/
def directoryDesk : Desk := .ofWorld
  ⟨{ entries := [([Utf8.encode "vault-workflow.md"], .file [33]), ([Utf8.encode "vault.md"], .directory)] },
    []⟩ ⟨0, 0⟩

/-- A directory in the place of the reference is trouble in memory, and is missing for the tool. -/
theorem directory_is_told_two_ways :
    Comparator.IsFaithful plainDiff "diff" ["-q"] ∧
      directoryDesk.look (.ofText "vault.md") = .directory ∧
      directoryDesk.look (.ofText "vault-workflow.md") = .regular [33] ∧
      ¬ (Desk.compare plainDiff .inProcess (.ofText "vault-workflow.md") (.ofText "vault.md")
          directoryDesk).1.AgreesWith
        (Desk.compare plainDiff (.tool "diff" ["-q"]) (.ofText "vault-workflow.md") (.ofText "vault.md")
          directoryDesk).1 := by
  refine ⟨plainDiff_isFaithful _ _, by decide, by decide, ?_⟩
  rintro (⟨m, hm, -⟩ | ⟨e, f, he, hf, hkind⟩)
  · cases hm
  · cases he
    cases hf
    revert hkind
    decide

end GoldenCheck
