import GoldenCheck.Proofs.Path.Derivation
import GoldenCheck.Proofs.Path.RootNames
import GoldenCheck.Proofs.Run.References

/-!
# Which roots are safe

Nothing checks that a report does not go where a root is. What a table says about its places decides
whether the roots of the table survive every run (`keepsRoots_iff`).

A derived path is the names of a root with something added to the last (`TestCase.mark`). So a report
goes where the root of its own case is only if nothing is added, and where another root is only if that
is called as the report would be. This is what `roots_survive_where_spared` puts together.
-/

namespace GoldenCheck

open Path Relation Utf8

/-! ### Where reports and roots meet -/

/-- What is added to the last name of a root for the report of the case. -/
def TestCase.mark (c : TestCase) (suffix : String) : Bytes := encode suffix ++ c.reference.reportMark

section

variable {c d : TestCase} {outputDir : Path} {suffix : String}

/-- A report goes where a root is when the root has the steps of the directory for reports and then
the derived names. -/
theorem output_meets_root_iff (hsuffix : '/' ∉ suffix.toList) :
    (c.outputPath outputDir suffix).normal = d.root.normal ↔
      d.root.steps = outputDir.steps ++ (derive c.root c.reference suffix).components := by
  have hsteps := (staysBelow_derive c.root c.reference hsuffix).steps_join outputDir
  rw [normal_eq_iff_steps, TestCase.outputPath, hsteps]
  exact eq_comm

/-- What a report is called: the stem, and what is added to it. -/
theorem reportName_eq_append_mark (c : TestCase) (suffix : String) :
    (ofText (reportName c.root c.reference suffix)).bytes =
      encode (reportStem c.root c.reference) ++ c.mark suffix := by
  rw [TestCase.mark, ← List.append_assoc]
  exact encode_reportName c.root c.reference suffix

/-- The root that a report meets is called as the report. -/
theorem head?_rootNames_of_meets (hsuffix : '/' ∉ suffix.toList)
    (h : (c.outputPath outputDir suffix).normal = d.root.normal) :
    d.root.rootNames.head? = some (encode (reportStem c.root c.reference) ++ c.mark suffix) := by
  rw [← reportName_eq_append_mark]
  refine head?_rootNames_of_steps ?_
  rw [(output_meets_root_iff hsuffix).1 h, components_derive_of_slash_notMem _ _ hsuffix,
    ← List.append_assoc, List.getLast?_concat]

/-- **No report goes where the root of its own case is**, when anything is added to the name. -/
theorem output_ne_own_root (hsuffix : '/' ∉ suffix.toList) (hmark : c.mark suffix ≠ []) :
    (c.outputPath outputDir suffix).normal ≠ c.root.normal := by
  intro h
  have hlast := head?_rootNames_of_meets hsuffix h
  obtain ⟨before, hnames⟩ := List.head?_eq_some_iff.1 hlast
  -- The last name of the root is itself with something added, but decoding makes no name shorter.
  have hstem : encode (reportStem c.root c.reference) =
      rewritten (encode (reportStem c.root c.reference) ++ c.mark suffix) := by
    conv_lhs => rw [reportStem, hnames]
    rfl
  have hlen := length_le_rewritten (encode (reportStem c.root c.reference) ++ c.mark suffix)
  rw [← hstem, List.length_append] at hlen
  have hpos := List.length_pos_iff.2 hmark
  omega

end

/-! ### What runs do to roots -/

section

variable {make : Generator} {judge : Judge} {o : RunOptions} {w v : Bench} {cases : List TestCase}
  {summary : RunSummary}

/-- What a call leaves is what the generator says. -/
theorem moves_left {s t : UnderWay × Bench}
    (run : ReflTransGen (Move (.onBench make judge) o) s t) :
    ∃ log, t.2.calls = s.2.calls ++ log ∧
      ∀ call ∈ log, ∃ b, call.left = (make call.testCase call.path b).2 := by
  induction run with
  | refl => exact ⟨[], by simp⟩
  | tail _ hm ih =>
    obtain ⟨log, hlog, hleft⟩ := ih
    cases hm with
    | tell => exact ⟨log, hlog, hleft⟩
    | step hs =>
      cases hs with
      | @take before after c p b =>
        rcases Progress.step_onBench make judge o c p b with ⟨-, -, hb⟩ | ⟨-, hb⟩ | hb
        · refine ⟨log ++ [⟨c, o.outputOf c, (make c (o.outputOf c) b).2⟩], ?_, ?_⟩
          · rw [hb, Bench.afterCall, hlog, List.append_assoc]
          · intro call hcall
            rcases List.mem_append.1 hcall with hcall | hcall
            · exact hleft call hcall
            · obtain rfl := List.mem_singleton.1 hcall
              exact ⟨b, rfl⟩
        · exact ⟨log, by rw [hb]; exact hlog, hleft⟩
        · exact ⟨log, by rw [hb]; exact hlog, hleft⟩

/-- **Where a report goes**, a run leaves what a call for it left, or nothing. -/
theorem Verifies.get_output (run : Verifies (.onBench make judge) o cases w summary v)
    (places : PlacesApart o cases) {c : TestCase} (hc : c ∈ cases) :
    (∃ b, v.files.get (o.outputOf c) = (make c (o.outputOf c) b).2) ∨
      v.files.get (o.outputOf c) = none := by
  obtain ⟨log, hlog, hleaves⟩ := run.leaves places
  obtain ⟨ended, -, -, -, hrun⟩ := run.moves
  obtain ⟨log', hlog', hleft⟩ := moves_left hrun
  obtain rfl : log' = log := List.append_cancel_left (hlog'.symm.trans hlog)
  have hall : ∀ c ∈ cases, (∃ b, v.files.get (o.outputOf c) = (make c (o.outputOf c) b).2) ∨
      v.files.get (o.outputOf c) = none := by
    refine ((List.forall₂_and_left _ _).1 (hleaves.imp fun c outcome hleave => ⟨?_, hleave⟩)).1
    obtain ⟨left, hown, hfile⟩ := hleave
    rw [hfile]
    split_ifs
    · exact Or.inr rfl
    · have hcall : (⟨c, o.outputOf c, left⟩ : GeneratorCall) ∈ log' :=
        List.mem_of_mem_filter (by rw [hown]; exact List.mem_singleton_self _)
      exact Or.inl (hleft _ hcall)
  exact hall c hc

end

/-- No report of the table goes where a root of the table is. -/
def Config.SparesRoots (config : Config) : Prop :=
  ∀ c ∈ config.cases, ∀ d ∈ config.cases, (config.harness.outputOf c).normal ≠ d.root.normal

/-- The roots of the table are after every run of cases of it what they were before. -/
def Config.KeepsRoots (config : Config) : Prop :=
  ∀ (make : Generator) (judge : Judge) w wanted cases (o : RunOptions) summary v,
    config.select wanted = .ok cases → o.KeepsPlaces config.harness →
    Verifies (.onBench make judge) o cases w summary v →
    ∀ d ∈ config.cases, v.files.get d.root = w.files.get d.root

/-- **The roots survive every run exactly when reports spare them.** -/
theorem Config.IsSeparate.keepsRoots_iff {config : Config} (h : config.IsSeparate) :
    config.KeepsRoots ↔ config.SparesRoots := by
  constructor
  · intro hkeeps c hc d hd hmeet
    -- A generator that always writes what is not there yet.
    have run := verify_verifies (h := .onBench (fun _ _ _ => (.done (), some [0])) .inMemory)
      (o := config.harness.runOptions) config.cases ⟨fun _ => some [1], [], []⟩
    have hselect : config.select [] = .ok config.cases := rfl
    have hplaces : config.harness.runOptions.KeepsPlaces config.harness := ⟨rfl, rfl⟩
    have hkept := hkeeps _ _ _ [] _ _ _ _ hselect hplaces run d hd
    have hleft := run.get_output (h.placesApart hplaces hselect) hc
    rw [FileMap.get, hplaces.outputOf, hmeet] at hleft
    rw [FileMap.get] at hkept
    simp [hkept, FileMap.get] at hleft
  · intro hspares make judge w wanted cases o summary v hselect hplaces run d hd
    refine run.sameOff d.root.normal fun p hp => ?_
    obtain ⟨c, hc, rfl⟩ := List.mem_map.1 hp
    rw [hplaces.outputOf]
    exact (hspares c ((select_sublist hselect).subset hc) d hd).symm

/-! ### The main result -/

/-- **Roots are safe where reports spare them**: the roots of an accepted table survive every run of
its cases exactly when no report of the table goes where a root of it is. With a suffix that has no
slash, a report goes there exactly when the root has the steps of the directory for reports and then
the derived names. Such a root is called as the report would be, and it is not the root of the same
case if anything is added to its name. -/
theorem roots_survive_where_spared {raw : RawConfig} {config : Config}
    (h : resolve raw = .ok config) :
    (config.KeepsRoots ↔ config.SparesRoots) ∧
    ('/' ∉ config.harness.suffix.toList → ∀ c ∈ config.cases,
      (c.mark config.harness.suffix ≠ [] → (config.harness.outputOf c).normal ≠ c.root.normal) ∧
      ∀ d ∈ config.cases,
        ((config.harness.outputOf c).normal = d.root.normal ↔ d.root.steps =
          config.harness.outputDir.steps ++
            (derive c.root c.reference config.harness.suffix).components) ∧
        ((config.harness.outputOf c).normal = d.root.normal → d.root.rootNames.head? =
          some (encode (reportStem c.root c.reference) ++ c.mark config.harness.suffix))) := by
  refine ⟨(isSeparate_of_resolve h).keepsRoots_iff, fun hsuffix c _ => ⟨?_, fun d _ => ⟨?_, ?_⟩⟩⟩
  · exact output_ne_own_root hsuffix
  · exact output_meets_root_iff hsuffix
  · exact head?_rootNames_of_meets hsuffix

/-- The roots of the sample table survive every run. -/
theorem sample_roots_survive : sampleConfig.KeepsRoots :=
  (roots_survive_where_spared resolve_sampleTable).1.2 (by
    unfold Config.SparesRoots
    decide)

/-- A table of one case, to whose root nothing is added for the report. -/
def bareTable : RawConfig where
  engine := ⟨"analyse", [], none, none⟩
  harness := { RawHarness.unset with suffix := some "" }
  cases := [
    { name := "token", description := "", root := .ofText "src/token",
      reference := .ofText "golden/token", args := [], env := .empty, setup := none, expect := none }]

/-- What that table becomes. -/
def bareConfig : Config where
  engine := ⟨"analyse", [], "-o", none⟩
  harness := ⟨⟨[Path.dot]⟩, "", .identical, .inProcess, false, none⟩
  cases := [{ name := "token", root := .ofText "src/token", reference := .ofText "golden/token" }]

theorem resolve_bareTable : resolve bareTable = .ok bareConfig := by rfl

/-- A bench with a source file as the root of the table, and with the reference. -/
def bareBench : Bench where
  files := fun q => if q = (Path.ofText "src/token").normal then some [33] else some [35]
  calls := []
  told := []

/-- The table is accepted, and its report goes where its root is: the root is lost, to the report, or
to nothing when reports of cases that pass are removed. -/
theorem bare_root_is_lost : resolve bareTable = .ok bareConfig ∧ ¬ bareConfig.SparesRoots ∧
    ∀ clean, (verify (.onBench (fun _ _ _ => (.done (), some [35])) .inMemory)
      { bareConfig.harness.runOptions with cleanPassing := clean } bareConfig.cases
      bareBench).2.files.get (.ofText "src/token") = if clean then none else some [35] := by
  refine ⟨resolve_bareTable, fun h => ?_, ?_⟩
  · exact h _ List.mem_cons_self _ List.mem_cons_self (by decide)
  · decide

end GoldenCheck
