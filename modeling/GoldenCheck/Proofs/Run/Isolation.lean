import GoldenCheck.Proofs.Run.Frame
import GoldenCheck.Proofs.Run.Places

/-!
# Cases do not disturb each other

A generator that does the same `Work` for a case wherever and whenever it is called, and a judge that
compares in memory. The cases of an accepted table then end in any run as they end when each of them
runs alone on the files there were at first, and it does not matter what lay where reports go.

The proof follows a case through a run beside the same case on its own (`Mirrors`). Both have come
equally far and see the same reference. Once the report is made, they see the same report.
-/

namespace GoldenCheck

open Relation

/-- What is done about the report of a case. -/
inductive Work where
  /-- It is written. -/
  | writes (report : Bytes)
  /-- It fails, and changes nothing. -/
  | fails (cause : GenerationError)
  /-- It breaks off, and changes nothing. -/
  | breaksOff (message : Option String)

/-- The generator that does for each case the same work at all times. -/
def Generator.ofWork (work : TestCase → Work) : Generator := fun c p b =>
  match work c with
  | .writes report => (.done (), some report)
  | .fails cause => (.failed cause, b.files.get p)
  | .breaksOff message => (.brokenOff message, b.files.get p)

/-- The harness of such a generator and of a judge that compares in memory. -/
abbrev Harness.working (work : TestCase → Work) : Harness Bench :=
  .onBench (.ofWork work) .inMemory

/-! ### What the judge sees -/

theorem inMemory_congr {look look' : Path → FileState} {generated reference : Path}
    (hg : look generated = look' generated) (hr : look reference = look' reference) :
    Comparator.inMemory look generated reference = Comparator.inMemory look' generated reference := by
  simp only [Comparator.inMemory, Comparator.readSide, hg, hr]

theorem describe_congr {look look' : Path → FileState} {generated reference : Path}
    (hg : look generated = look' generated) (hr : look reference = look' reference) :
    Comparator.describe look generated reference = Comparator.describe look' generated reference := by
  simp only [Comparator.describe, hg, hr]

/-! ### One step, seen twice -/

/-- The report of the case was made and is still wanted. -/
def Progress.hasReport : Progress → Bool
  | .comparing | .describing | .cleaning _ => true
  | _ => false

/-- The benches `b` and `x` show the case the same files: the same reference, and the same report if
there is one or if there was the `same` at first. -/
structure Agree (o : RunOptions) (c : TestCase) (same : Prop) (p : Progress) (x b : Bench) : Prop where
  reference : x.files.get c.reference = b.files.get c.reference
  output : p.hasReport = true ∨ same → x.files.get (o.outputOf c) = b.files.get (o.outputOf c)

section

variable {o : RunOptions} {c : TestCase} {same : Prop}

/-- Benches in which a case has come to the same point and sees the same are told apart by no step. -/
theorem Agree.step (work : TestCase → Work) (hself : (o.outputOf c).normal ≠ c.reference.normal)
    {p : Progress} {x b : Bench} (ha : Agree o c same p x b) :
    (p.step (.working work) o c x).1 = (p.step (.working work) o c b).1 ∧
      Agree o c same (p.step (.working work) o c b).1 (p.step (.working work) o c x).2
        (p.step (.working work) o c b).2 := by
  have hlook : p.hasReport = true → x.files.look (o.outputOf c) = b.files.look (o.outputOf c) :=
    fun hp => FileMap.look_congr (ha.output (Or.inl hp))
  have hlookRef : x.files.look c.reference = b.files.look c.reference :=
    FileMap.look_congr ha.reference
  have hreference : ∀ (left : Option Bytes) (m : FileMap),
      (m.put (o.outputOf c) left).get c.reference = m.get c.reference :=
    fun left m => m.get_put_of_ne left hself.symm
  cases p with
  | pending =>
    exact ⟨rfl, ha.reference, fun h => ha.output (Or.inr (h.resolve_left Bool.false_ne_true))⟩
  | generating =>
    have hguard : (o.outputOf c).sameFile c.reference = false := Path.sameFile_eq_false_iff.2 hself
    simp only [Progress.step, hguard, Bool.false_eq_true, if_false, Harness.onBench,
      Generator.ofWork, Bench.afterCall]
    cases work c with
    | writes report =>
      exact ⟨rfl, by simp [hreference, ha.reference], fun _ => by simp⟩
    | fails cause =>
      refine ⟨rfl, by simp [ha.reference], fun h => ?_⟩
      simpa using ha.output (Or.inr (h.resolve_left Bool.false_ne_true))
    | breaksOff message =>
      refine ⟨rfl, by simp [ha.reference], fun h => ?_⟩
      simpa using ha.output (Or.inr (h.resolve_left Bool.false_ne_true))
  | comparing =>
    have heq := inMemory_congr (hlook rfl) hlookRef
    simp only [Progress.step, Harness.onBench, Judge.inMemory, heq]
    exact ⟨trivial, ha.reference, fun _ => ha.output (Or.inl rfl)⟩
  | describing =>
    have heq := describe_congr (hlook rfl) hlookRef
    simp only [Progress.step, Harness.onBench, Judge.inMemory, heq]
    exact ⟨trivial, ha.reference, fun _ => ha.output (Or.inl rfl)⟩
  | cleaning observed =>
    exact ⟨rfl, by simp [Progress.step, Harness.onBench, hreference, ha.reference],
      fun _ => by simp [Progress.step, Harness.onBench]⟩
  | ended outcome => exact ⟨rfl, ha⟩
  | brokenOff message => exact ⟨rfl, ha⟩

/-- The case sees the same as long as its own files stay. -/
theorem Agree.congr {p : Progress} {x b b' : Bench} (ha : Agree o c same p x b)
    (hreference : b'.files.get c.reference = b.files.get c.reference)
    (houtput : b'.files.get (o.outputOf c) = b.files.get (o.outputOf c)) : Agree o c same p x b' where
  reference := ha.reference.trans hreference.symm
  output h := (ha.output h).trans houtput.symm

/-! ### A case in a run and on its own -/

/-- The case has come as far in the bench `b` of a run as it comes on its own from the bench `u`, and
sees the same there. -/
def Mirrors (work : TestCase → Work) (o : RunOptions) (c : TestCase) (same : Prop) (u : Bench)
    (p : Progress) (b : Bench) : Prop :=
  ∃ n x, Progress.steps (.working work) o c n .pending u = (p, x) ∧ Agree o c same p x b

/-- **Every case of a run does what it does on its own**, from any bench `u` that holds the same
references. -/
theorem Verifies.mirrors {cases : List TestCase} (places : PlacesApart o cases) {w v u : Bench}
    {summary : RunSummary} (run : Verifies (.working work) o cases w summary v)
    (hu : ∀ c ∈ cases, u.files.get c.reference = w.files.get c.reference) :
    ∃ ended, AllOver ended ∧ ended.map Prod.fst = cases ∧
      summary.outcomes = ended.map (settled o) ∧
      ∀ e ∈ ended, Mirrors work o e.1
        (u.files.get (o.outputOf e.1) = w.files.get (o.outputOf e.1)) u e.2 v := by
  obtain ⟨ended, hover, hcases, houtcomes, hrun⟩ := run.moves
  have hbegun : (begun cases).map Prod.fst = cases := map_fst_begun cases
  refine ⟨ended, hover, hcases, houtcomes, ?_⟩
  refine moves_invariant (fun c d => (o.outputOf c).normal ≠ (o.outputOf d).normal)
    (I := fun c p b => Mirrors work o c
      (u.files.get (o.outputOf c) = w.files.get (o.outputOf c)) u p b)
    Ne.symm hrun (by rw [hbegun]; exact places.outputs) ?_ ?_ ?_ ?_
  · rintro c hc p b ⟨n, x, hsteps, ha⟩
    rw [hbegun] at hc
    obtain ⟨hsame, hagree⟩ := ha.step work (places.references c hc c hc)
    exact ⟨n + 1, (p.step (.working work) o c x).2,
      (Progress.steps_succ hsteps).trans (Prod.ext hsame rfl), hagree⟩
  · -- Another case changes only its own report, which is neither file of this one.
    rintro c hc d hd hne p q b ⟨n, x, hsteps, ha⟩
    rw [hbegun] at hc hd
    refine ⟨n, x, hsteps, ha.congr ?_ ?_⟩
    · exact Progress.step_files_of_ne _ _ p b (places.references c hc d hd).symm
    · exact Progress.step_files_of_ne _ _ p b hne.symm
  · rintro d - q b e ⟨n, x, hsteps, ha⟩
    exact ⟨n, x, hsteps, ha.congr rfl rfl⟩
  · simp only [begun, List.mem_map, forall_exists_index, and_imp, forall_apply_eq_imp_iff₂]
    exact fun c hc => ⟨0, u, rfl, hu c hc, fun h => h.resolve_left Bool.false_ne_true⟩

/-- The outcomes of a run are those of the cases on their own. -/
theorem Verifies.outcomes_eq {cases : List TestCase} (places : PlacesApart o cases) {w v u : Bench}
    {summary : RunSummary} (run : Verifies (.working work) o cases w summary v)
    (hu : ∀ c ∈ cases, u.files.get c.reference = w.files.get c.reference) :
    summary.outcomes = cases.map fun c => (verifyIsolated (.working work) o c u).1 := by
  obtain ⟨ended, hover, hcases, houtcomes, hmirrors⟩ := run.mirrors places hu
  rw [houtcomes, ← hcases, List.map_map]
  refine List.map_congr_left fun e he => ?_
  obtain ⟨n, x, hsteps, -⟩ := hmirrors e he
  rw [Function.comp_apply, verifyIsolated_of_steps hsteps (hover e he)]

/-- What a run leaves of a report is what the case leaves on its own. -/
theorem Verifies.output_eq {cases : List TestCase} (places : PlacesApart o cases) {w v : Bench}
    {summary : RunSummary} (run : Verifies (.working work) o cases w summary v) {c : TestCase}
    (hc : c ∈ cases) : v.files.get (o.outputOf c) =
      (verifyIsolated (.working work) o c w).2.files.get (o.outputOf c) := by
  obtain ⟨ended, hover, hcases, -, hmirrors⟩ := run.mirrors places fun _ _ => rfl
  rw [← hcases] at hc
  obtain ⟨e, he, rfl⟩ := List.mem_map.1 hc
  obtain ⟨n, x, hsteps, ha⟩ := hmirrors e he
  rw [verifyIsolated_of_steps hsteps (hover e he)]
  exact (ha.output (Or.inr rfl)).symm

end

/-! ### What is told -/

section

variable {make : Generator} {judge : Judge} {o : RunOptions}

/-- Steps tell nothing. -/
theorem told_of_steps {s t : UnderWay × Bench}
    (run : ReflTransGen (Step (.onBench make judge) o) s t) : t.2.told = s.2.told := by
  induction run with
  | refl => rfl
  | tail _ hs ih =>
    cases hs with
    | take unfinished => exact (Progress.step_told ..).trans ih

theorem told_foldl_tell (outcomes : List CaseOutcome) (b : Bench) :
    (outcomes.foldl (fun v outcome => (Harness.onBench make judge).tell (.finished outcome) v) b).told =
      b.told ++ outcomes.map .finished := by
  induction outcomes generalizing b with
  | nil => simp
  | cons outcome outcomes ih =>
    rw [List.foldl_cons, ih, told_tell, List.map_cons, ← List.append_cons]

/-- Cases that run in turn are told of as they end. -/
theorem told_verifyInTurn (cases : List TestCase) (b : Bench) :
    (verifyInTurn (.onBench make judge) o cases b).2.told =
      b.told ++ (verifyInTurn (.onBench make judge) o cases b).1.map .finished := by
  induction cases generalizing b with
  | nil => simp [verifyInTurn]
  | cons c cases ih =>
    obtain ⟨p, -, -, hrun⟩ :=
      exists_steps_verifyIsolated (h := .onBench make judge) (o := o) [] [] c b
    have hfirst : (verifyIsolated (.onBench make judge) o c b).2.told = b.told := told_of_steps hrun
    simp [verifyInTurn, ih, hfirst]

/-- **Whoever watches a run sees it begin, sees each case end in the order of the table, and sees the
run end.** -/
theorem Verifies.told_eq {cases : List TestCase} {w v : Bench} {summary : RunSummary}
    (run : Verifies (.onBench make judge) o cases w summary v) :
    v.told = w.told ++
      (.started cases.length :: summary.outcomes.map .finished ++ [.completed summary]) := by
  cases run with
  | inTurn mode => simp [verify, verifyCases, mode, told_verifyInTurn]
  | @sideBySide ended v mode hrun hover =>
    have hsteps : v.told = w.told ++ [.started cases.length] := told_of_steps hrun
    simp [told_foldl_tell, hsteps]

end

/-! ### Runs in another order -/

/-- The same options, but for the order in which cases may run. -/
def RunOptions.inOrder (o : RunOptions) (parallel : Bool) (jobs : Option Nat) : RunOptions :=
  { o with parallel, jobs }

/-- A case on its own does not depend on the order in which others may run. -/
theorem verifyIsolated_inOrder {W : Type} (h : Harness W) (o : RunOptions) (parallel : Bool)
    (jobs : Option Nat) (c : TestCase) (w : W) :
    verifyIsolated h (o.inOrder parallel jobs) c w = verifyIsolated h o c w := by
  have hsteps : ∀ n p w, Progress.steps h (o.inOrder parallel jobs) c n p w =
      Progress.steps h o c n p w := by
    intro n
    induction n with
    | zero => exact fun _ _ => rfl
    | succ n ih =>
      intro p w
      have hstep : Progress.step h (o.inOrder parallel jobs) c p w = Progress.step h o c p w := by
        cases p <;> rfl
      rw [Progress.steps, Progress.steps, hstep]
      exact ih _ _
  rw [verifyIsolated, verifyIsolated, verifyCase, verifyCase, hsteps]
  rfl

/-- Runs of the same cases from the same bench end alike, whichever order they take. -/
theorem Verifies.eq_inOrder {work : TestCase → Work} {o : RunOptions} {cases : List TestCase}
    (places : PlacesApart o cases) {w v v' : Bench} {summary summary' : RunSummary}
    (run : Verifies (.working work) o cases w summary v) {parallel : Bool} {jobs : Option Nat}
    (run' : Verifies (.working work) (o.inOrder parallel jobs) cases w summary' v') :
    summary' = summary ∧ v'.told = v.told ∧ v'.files = v.files := by
  have places' : PlacesApart (o.inOrder parallel jobs) cases := ⟨places.outputs, places.references⟩
  have houtcomes : summary'.outcomes = summary.outcomes := by
    rw [run'.outcomes_eq places' fun _ _ => rfl, run.outcomes_eq places fun _ _ => rfl]
    simp only [verifyIsolated_inOrder]
  have hsummary : summary' = summary := by
    cases summary
    cases summary'
    exact congrArg₂ _ houtcomes (run'.duration_eq.trans run.duration_eq.symm)
  refine ⟨hsummary, by rw [run'.told_eq, run.told_eq, hsummary],
    run.sameOff.ext run'.sameOff fun p hp => ?_⟩
  obtain ⟨c, hc, rfl⟩ := List.mem_map.1 hp
  refine (run'.output_eq places' hc).trans ?_
  rw [verifyIsolated_inOrder]
  exact (run.output_eq places hc).symm

/-! ### The main result -/

/-- **Cases are isolated from each other**, and cases that run side by side end as cases that run in
turn. Let the work for a report depend on nothing but its case, and let a case that fails or breaks
off change no file. `verify` is then one of the runs of the cases of an accepted table, and any run
that has begun can be completed. In every run, each case ends as it ends on its own, whatever lay
where the reports of the table go. Whoever watches is told of the beginning, of each outcome in the
order of the table, and of the end. Each report is left as the case leaves it on its own, and no
other file is changed. And a run in another order has the same outcomes, tells the same and leaves
the same files. -/
theorem cases_are_isolated (work : TestCase → Work) (w : Bench) :
    ∀ raw config wanted cases o, resolve raw = .ok config → config.select wanted = .ok cases →
      o.KeepsPlaces config.harness →
      Verifies (.working work) o cases w (verify (.working work) o cases w).1
        (verify (.working work) o cases w).2 ∧
      (∀ s, ReflTransGen (Step (.working work) o)
          (begun cases, (Harness.working work).tell (.started cases.length) w) s →
        ∃ t, ReflTransGen (Step (.working work) o) s t ∧ AllOver t.1) ∧
      ∀ summary v, Verifies (.working work) o cases w summary v →
        (∀ u : Bench, FileMap.SameOff (config.cases.map o.outputOf) w.files u.files →
          summary.outcomes = cases.map fun c => (verifyIsolated (.working work) o c u).1) ∧
        v.told = w.told ++
          (.started cases.length :: summary.outcomes.map .finished ++ [.completed summary]) ∧
        (∀ c ∈ cases, v.files.get (o.outputOf c) =
          (verifyIsolated (.working work) o c w).2.files.get (o.outputOf c)) ∧
        FileMap.SameOff (cases.map o.outputOf) w.files v.files ∧
        ∀ parallel jobs summary' v',
          Verifies (.working work) (o.inOrder parallel jobs) cases w summary' v' →
          summary' = summary ∧ v'.told = v.told ∧ v'.files = v.files := by
  intro raw config wanted cases o hresolve hselect hkeeps
  have hseparate := isSeparate_of_resolve hresolve
  have places := hseparate.placesApart hkeeps hselect
  refine ⟨verify_verifies cases w, fun s _ => exists_completion s, fun summary v run => ?_⟩
  refine ⟨fun u hu => ?_, run.told_eq, fun c hc => run.output_eq places hc, run.sameOff,
    fun parallel jobs summary' v' run' => run.eq_inOrder places run'⟩
  exact run.outcomes_eq places fun c hc =>
    hseparate.reference_eq hkeeps hu ((select_sublist hselect).subset hc)

/-- The work for the sample table: one report is written, the other breaks off. -/
def sampleWork (c : TestCase) : Work :=
  if c.name = "vault" then .writes [35] else .breaksOff none

/-- A bench with a report of the sample table from an earlier run. -/
def staleBench : Bench where
  files := sampleBench.files.put
    (sampleConfig.harness.runOptions.outputOf (sampleConfig.cases.get ⟨0, by decide⟩)) (some [33])
  calls := []
  told := []

/-- The report from the earlier run does not matter. -/
theorem stale_report_ignored :
    (verify (.working sampleWork) sampleConfig.harness.runOptions sampleConfig.cases
      sampleBench).1.outcomes = sampleConfig.cases.map fun c =>
        (verifyIsolated (.working sampleWork) sampleConfig.harness.runOptions c staleBench).1 := by
  have h := cases_are_isolated sampleWork sampleBench sampleTable sampleConfig [] sampleConfig.cases
    sampleConfig.harness.runOptions resolve_sampleTable rfl ⟨rfl, rfl⟩
  refine (h.2.2 _ _ h.1).1 staleBench fun q hq => FileMap.put_of_ne _ _ (hq _ ?_)
  exact List.mem_map_of_mem (List.get_mem _ _)

end GoldenCheck
