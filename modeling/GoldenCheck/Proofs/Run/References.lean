import GoldenCheck.Proofs.Run.Frame
import GoldenCheck.Proofs.Run.Places

/-!
# References are safe

In an accepted table no report goes over any reference, and the steps of one case do not reach the
report of another. So a case can be followed from its one call to its end (`Traced`): what the call
left stays where it is, unless the case passes and reports of such cases are removed.

`references_are_left_alone` puts together what a run and what `bless` leave alone.
-/

namespace GoldenCheck

open Relation

/-- What a run did for a case, by the calls it added and the files it left: it called once for the
report, at its place, and what the call left is still there, unless the case passed and reports of
such cases are removed. -/
def RunOptions.Leaves (o : RunOptions) (log : List GeneratorCall) (files : FileMap) (c : TestCase)
    (outcome : CaseOutcome) : Prop :=
  ∃ left, (log.filter fun call => call.testCase = c) = [⟨c, o.outputOf c, left⟩] ∧
    files.get (o.outputOf c) =
      if o.cleanPassing = true ∧ outcome.state = .passed then none else left

/-! ### The trace of a case -/

/-- The report of the case was called for. -/
def Progress.hasCalled : Progress → Bool
  | .pending | .generating => false
  | _ => true

/-- The report of the case was removed. -/
def Progress.hasRemoved (o : RunOptions) : Progress → Bool
  | .ended outcome => o.cleanPassing && outcome.state == .passed
  | _ => false

/-- The report of the case was called for and is still there. -/
structure Progress.HasKept (o : RunOptions) (p : Progress) : Prop where
  called : p.hasCalled = true
  kept : p.hasRemoved o = false
  /-- It is to be removed only if that was asked for. -/
  cleaning : ∀ observed, p = .cleaning observed → o.cleanPassing = true

/-- The calls for a case and the file at its report, as far as the case has come. -/
structure Traced (o : RunOptions) (c : TestCase) (p : Progress) (log : List GeneratorCall)
    (files : FileMap) : Prop where
  uncalled : p.hasCalled = false → (log.filter fun call => call.testCase = c) = []
  called : p.hasCalled = true → ∃ left,
    (log.filter fun call => call.testCase = c) = [⟨c, o.outputOf c, left⟩] ∧
      files.get (o.outputOf c) = if p.hasRemoved o then none else left
  cleaning : ∀ observed, p = .cleaning observed → o.cleanPassing = true

section

variable {make : Generator} {judge : Judge} {o : RunOptions} {c d : TestCase} {b₀ b : Bench}
  {log : List GeneratorCall} {files : FileMap} {p q : Progress}

theorem hasKept_brokenOff (message : Option String) : (Progress.brokenOff message).HasKept o :=
  ⟨rfl, rfl, by simp⟩

theorem hasKept_failed (failure : CaseFailure) (observed : Option ContentMatch)
    (difference : Option String) :
    (Progress.ended (o.failed c failure observed difference)).HasKept o :=
  ⟨rfl, by simp [Progress.hasRemoved, RunOptions.failed], by simp⟩

theorem hasKept_afterGeneration (r : Attempt GenerationError Unit) :
    (Progress.afterGeneration o c r).HasKept o := by
  cases r with
  | done => exact ⟨rfl, rfl, by simp [Progress.afterGeneration]⟩
  | failed e => exact hasKept_failed _ _ _
  | brokenOff message => exact hasKept_brokenOff message

theorem hasKept_afterComparison (r : Attempt ComparisonError ContentMatch) :
    (Progress.afterComparison o c r).HasKept o := by
  cases r with
  | failed e => exact hasKept_failed _ _ _
  | brokenOff message => exact hasKept_brokenOff message
  | done observed =>
    rw [Progress.afterComparison]
    split
    · split_ifs with hclean
      · exact ⟨rfl, rfl, fun _ _ => hclean⟩
      · exact ⟨rfl, by simp [Progress.hasRemoved, hclean], by simp⟩
    · split_ifs
      · exact ⟨rfl, rfl, by simp⟩
      · exact hasKept_failed _ _ _

theorem hasKept_afterDescription (r : Attempt Empty (Option String)) :
    (Progress.afterDescription o c r).HasKept o := by
  cases r with
  | failed e => exact e.elim
  | done difference => exact hasKept_failed _ _ _
  | brokenOff message => exact hasKept_brokenOff message

/-- A case that has called goes on without another call. -/
theorem Traced.keep (ht : Traced o c p log files) (hp : p.HasKept o) (hq : q.HasKept o) :
    Traced o c q log files where
  uncalled h := by simp [hq.called] at h
  called _ := by
    obtain ⟨left, hlog, hfile⟩ := ht.called hp.called
    rw [hp.kept] at hfile
    exact ⟨left, hlog, by rw [hfile, hq.kept]⟩
  cleaning := hq.cleaning

/-- The trace of a case goes on with each step of the case. -/
theorem Traced.step (hself : ¬ o.Overwrites c)
    (ht : ∃ log, b.calls = b₀.calls ++ log ∧ Traced o c p log b.files) :
    let next := p.step (.onBench make judge) o c b
    ∃ log, next.2.calls = b₀.calls ++ log ∧ Traced o c next.1 log next.2.files := by
  obtain ⟨log, hlog, ht⟩ := ht
  cases p with
  | pending =>
    exact ⟨log, hlog, ht.uncalled, by simp [Progress.step, Progress.hasCalled],
      by simp [Progress.step]⟩
  | generating =>
    have hguard : (o.outputOf c).sameFile c.reference = false := Path.sameFile_eq_false_iff.2 hself
    simp only [Progress.step, hguard, Bool.false_eq_true, if_false, Harness.onBench,
      Bench.afterCall]
    have hkept := hasKept_afterGeneration (o := o) (c := c) (make c (o.outputOf c) b).1
    refine ⟨log ++ [⟨c, o.outputOf c, (make c (o.outputOf c) b).2⟩], by rw [hlog, List.append_assoc],
      ?_, fun _ => ⟨(make c (o.outputOf c) b).2, ?_, ?_⟩, hkept.cleaning⟩
    · simp [hkept.called]
    · rw [List.filter_append, ht.uncalled rfl]
      simp
    · rw [hkept.kept, FileMap.get_put_self]
      rfl
  | comparing =>
    exact ⟨log, hlog, ht.keep ⟨rfl, rfl, by simp⟩ (hasKept_afterComparison _)⟩
  | describing =>
    exact ⟨log, hlog, ht.keep ⟨rfl, rfl, by simp⟩ (hasKept_afterDescription _)⟩
  | cleaning observed =>
    obtain ⟨left, hown, -⟩ := ht.called rfl
    refine ⟨log, hlog, by simp [Progress.step, Progress.hasCalled], fun _ => ⟨left, hown, ?_⟩,
      by simp [Progress.step]⟩
    simp [Progress.step, Harness.onBench, Progress.hasRemoved, ht.cleaning observed rfl,
      RunOptions.passed]
  | ended outcome => exact ⟨log, hlog, ht⟩
  | brokenOff message => exact ⟨log, hlog, ht⟩

/-- A file and calls that are the same for a case have the same trace. -/
theorem Traced.congr {log' : List GeneratorCall} {files' : FileMap} (ht : Traced o d q log files)
    (hlog : (log'.filter fun call => call.testCase = d) = log.filter fun call => call.testCase = d)
    (hfile : files'.get (o.outputOf d) = files.get (o.outputOf d)) : Traced o d q log' files' where
  uncalled h := hlog.trans (ht.uncalled h)
  called h := by
    rw [hlog, hfile]
    exact ht.called h
  cleaning := ht.cleaning

/-- Steps of other cases leave the trace of a case as it is. -/
theorem Traced.step_other (hne : (o.outputOf c).normal ≠ (o.outputOf d).normal)
    (ht : ∃ log, b.calls = b₀.calls ++ log ∧ Traced o d q log b.files) :
    let next := p.step (.onBench make judge) o c b
    ∃ log, next.2.calls = b₀.calls ++ log ∧ Traced o d q log next.2.files := by
  obtain ⟨log, hlog, ht⟩ := ht
  have hcd : c ≠ d := fun h => hne (by rw [h])
  have hfile := Progress.step_files_of_ne make judge p b hne.symm
  rcases Progress.step_onBench make judge o c p b
    with ⟨-, -, hb⟩ | ⟨-, hb⟩ | hb
  · refine ⟨log ++ [⟨c, o.outputOf c, (make c (o.outputOf c) b).2⟩], ?_, ht.congr ?_ hfile⟩
    · rw [hb, Bench.afterCall, hlog, List.append_assoc]
    · simp [List.filter_append, hcd]
  · exact ⟨log, by rw [hb, hlog], ht.congr rfl hfile⟩
  · exact ⟨log, by rw [hb, hlog], ht.congr rfl hfile⟩

/-- What the trace of a case says when the case is at its end. -/
theorem Traced.leaves (ht : Traced o c p log files) (hp : p.isOver = true) :
    o.Leaves log files c (settled o (c, p)) := by
  cases p with
  | ended outcome =>
    obtain ⟨left, hown, hfile⟩ := ht.called rfl
    refine ⟨left, hown, hfile.trans (if_congr ?_ rfl rfl)⟩
    simp [Progress.hasRemoved, settled, Progress.outcome, RunOptions.settle]
  | brokenOff message =>
    obtain ⟨left, hown, hfile⟩ := ht.called rfl
    refine ⟨left, hown, hfile.trans ?_⟩
    simp [Progress.hasRemoved, settled, Progress.outcome, RunOptions.settle, RunOptions.failed]
  | pending | generating | comparing | describing | cleaning => cases hp

/-- **What a run of a table leaves of each case**, when no report goes where another one goes or
where a reference is. -/
theorem Verifies.leaves {cases : List TestCase} {w v : Bench} {summary : RunSummary}
    (run : Verifies (.onBench make judge) o cases w summary v) (places : PlacesApart o cases) :
    ∃ log, v.calls = w.calls ++ log ∧
      List.Forall₂ (o.Leaves log v.files) cases summary.outcomes := by
  obtain ⟨ended, hover, hcases, houtcomes, hrun⟩ := run.moves
  have hbegun : (begun cases).map Prod.fst = cases := map_fst_begun cases
  have htraced := moves_invariant (fun c d => (o.outputOf c).normal ≠ (o.outputOf d).normal)
    (I := fun c p b => ∃ log, b.calls = w.calls ++ log ∧ Traced o c p log b.files)
    Ne.symm hrun (by rw [hbegun]; exact places.outputs) ?_ ?_ ?_ ?_
  · obtain ⟨log, hlog, -⟩ := run.frame.1.calls
    refine ⟨log, hlog, ?_⟩
    rw [← hcases, houtcomes]
    refine forall₂_settled fun e he => ?_
    obtain ⟨log', hlog', ht⟩ := htraced e he
    obtain rfl : log' = log := List.append_cancel_left (hlog'.symm.trans hlog)
    exact ht.leaves (hover e he)
  · intro c hc p b ht
    rw [hbegun] at hc
    exact Traced.step (places.references c hc c hc) ht
  · intro c _ d _ hne p q b ht
    exact Traced.step_other hne ht
  · exact fun _ _ _ _ _ ht => ht
  · simp only [begun, List.mem_map, forall_exists_index, and_imp, forall_apply_eq_imp_iff₂]
    exact fun c _ => ⟨[], by simp, by simp, by simp [Progress.hasCalled], by simp⟩

/-! ### Making references anew -/

/-- Making references anew changes nothing but the references, in any order of the cases. -/
theorem bless_sameOff (cases : List TestCase) (b : Bench) :
    FileMap.SameOff (cases.map TestCase.reference) b.files
      (bless (.onBench make judge) cases b).2.files := by
  induction cases generalizing b with
  | nil => exact fun _ _ => rfl
  | cons c cases ih =>
    intro q hq
    simp only [List.map_cons, List.mem_cons, forall_eq_or_imp] at hq
    refine (ih (blessCase (.onBench make judge) c b).2 q hq.2).trans ?_
    exact b.files.put_of_ne _ hq.1

end

/-! ### The main result -/

/-- **A run leaves references alone**, whoever makes the reports and however calls for them end.
A run of cases of an accepted table changes no file except where reports of these cases go, so that
no reference of the table is changed. It calls once for each report, and what that call leaves
stays, unless the case passes and reports of such cases are removed. `bless` changes no file except
the references of its cases, in whatever order it takes them. And whether the table is accepted or
not: a case whose report would go over its reference is refused, no report of it is called for, and
no file is changed except where reports of the other cases go. -/
theorem references_are_left_alone (make : Generator) (judge : Judge) (w : Bench) :
    (∀ raw config wanted cases o, resolve raw = .ok config → config.select wanted = .ok cases →
      o.KeepsPlaces config.harness →
      (∀ summary v, Verifies (.onBench make judge) o cases w summary v →
        FileMap.SameOff (cases.map o.outputOf) w.files v.files ∧
        (∀ c ∈ config.cases, v.files.get c.reference = w.files.get c.reference) ∧
        ∃ log, v.calls = w.calls ++ log ∧
          List.Forall₂ (o.Leaves log v.files) cases summary.outcomes) ∧
      ∀ order, order.Perm cases →
        FileMap.SameOff (cases.map TestCase.reference) w.files
          (bless (.onBench make judge) order w).2.files) ∧
    ∀ o cases summary v, Verifies (.onBench make judge) o cases w summary v →
      List.Forall₂ (fun c outcome => o.Overwrites c → outcome = o.refused c) cases
        summary.outcomes ∧
      Frame o cases w v := by
  refine ⟨fun raw config wanted cases o hresolve hselect hkeeps => ⟨fun summary v run => ?_, ?_⟩,
    fun o cases summary v run => run.frame.symm⟩
  · have hseparate := isSeparate_of_resolve hresolve
    have htable : FileMap.SameOff (config.cases.map o.outputOf) w.files v.files :=
      run.sameOff.mono (List.map_subset _ (select_sublist hselect).subset)
    exact ⟨run.sameOff, fun c hc => hseparate.reference_eq hkeeps htable hc,
      run.leaves (hseparate.placesApart hkeeps hselect)⟩
  · intro order hperm q hq
    exact bless_sameOff order w q fun p hp => hq p ((hperm.map _).mem_iff.1 hp)

/-- Whatever breaks off in the middle of a report: the sample table keeps its reference, and what
there is of the report stays. -/
theorem vault_survives_broken_reports :
    ((verify (.onBench (fun _ _ _ => (.brokenOff none, some [33])) .inMemory)
      sampleConfig.harness.runOptions sampleConfig.cases sampleBench).2.files.get
        (.ofText "reports/vault.md")) = some [35] := by
  have h := (references_are_left_alone (fun _ _ _ => (.brokenOff none, some [33])) .inMemory
    sampleBench).1 sampleTable sampleConfig [] sampleConfig.cases sampleConfig.harness.runOptions
    resolve_sampleTable rfl ⟨rfl, rfl⟩
  have hkept := (h.1 _ _ (verify_verifies _ _)).2.1 _ List.mem_cons_self
  exact hkept.trans (by simp [sampleBench, FileMap.get])

end GoldenCheck
