import GoldenCheck.Proofs.Config.Validation
import GoldenCheck.Proofs.Path.ReportKey

/-!
# Which case tables are refused for their reports

A table can break no rule but one: that no two reports go to one place (`RawConfig.IsSoundButForReports`
says nothing of reports). A case of such a table is taken, or it is refused because its report goes where
an earlier one does (`resolveCase_of_isSound`). So the table is refused for two reports with one place
exactly when there are such (`resolve_eq_duplicateOutput_iff`).

With a suffix that has no slash, and references that all have an extension or all have none, these are the
reports that have one key and one format (`reports_clash_iff_sameReport`).
-/

namespace GoldenCheck

open Path

/-- Two cases with names and references of their own. -/
def TestCase.IsApartFrom (c d : TestCase) : Prop :=
  c.name ≠ d.name ∧ c.reference.normal ≠ d.reference.normal

/-- Two cases of a table whose reports take the same from their roots and references. -/
def RawCase.SameReport (c d : RawCase) : Prop := Path.SameReport c.root c.reference d.root d.reference

instance (c d : RawCase) : Decidable (c.SameReport d) :=
  inferInstanceAs (Decidable (Path.SameReport c.root c.reference d.root d.reference))

/-- The case is refused: its report goes to a place that is taken. -/
def ConfigError.IsDuplicateOutput (e : ConfigError) : Prop :=
  ∃ first second path, e = .duplicateOutput first second path

variable {h : HarnessSettings} {earlier : List TestCase} {raw : RawConfig}

/-! ### One case after the other -/

/-- **A sound case** whose name and reference are new is taken, unless an earlier report goes where its
report does. -/
theorem resolveCase_of_isSound {index : Nat} {c : RawCase} (hsound : c.IsSound)
    (hnew : ∀ e ∈ earlier, e.IsApartFrom c.read) :
    resolveCase h earlier index c =
      match earlier.find? fun e => (h.outputOf e).sameFile (h.outputOf c.read) with
      | some first => .error (.duplicateOutput first.name c.name (h.outputOf c.read))
      | none => .ok c.read := by
  obtain ⟨hempty, hexpect⟩ := RawCase.isSound_iff.1 hsound
  have hname : (earlier.any fun e => e.name = c.name) = false :=
    List.any_eq_false.2 fun e he => by simpa using show e.name ≠ c.name from (hnew e he).1
  have hreference : (earlier.find? fun e => e.reference.sameFile c.read.reference) = none :=
    find?_sameFile_eq_none_iff.2 fun e he => (hnew e he).2
  have hread : resolveExpectation ("case '" ++ c.name ++ "' expect") c.expect =
      .ok (readExpectation c.expect) := resolveExpectation_eq_ok_iff.2 ⟨hexpect, rfl⟩
  rw [RawCase.read] at hreference ⊢
  simp only [resolveCase, hempty, hname, hread, bind, Except.bind, pure, Except.pure]
  cases hfind : earlier.find? fun e =>
      (h.outputOf e).sameFile (h.outputOf (c.toCase (readExpectation c.expect))) with
  | some first => rfl
  | none =>
    simp only [hreference]
    rfl

/-- Sound cases with names and references of their own are refused only for their reports. -/
theorem isDuplicateOutput_of_resolveCases {cases : List RawCase} {e : ConfigError}
    (hsound : ∀ c ∈ cases, c.IsSound)
    (hpair : (cases.map RawCase.read).Pairwise TestCase.IsApartFrom)
    (hnew : ∀ d ∈ earlier, ∀ c ∈ cases, d.IsApartFrom c.read)
    (hrefused : resolveCases h earlier cases = .error e) : e.IsDuplicateOutput := by
  induction cases generalizing earlier with
  | nil => cases hrefused
  | cons c cases ih =>
    rw [List.map_cons, List.pairwise_cons] at hpair
    rw [resolveCases, resolveCase_of_isSound (hsound c List.mem_cons_self)
      fun d hd => hnew d hd c List.mem_cons_self] at hrefused
    cases hfind : earlier.find? fun e => (h.outputOf e).sameFile (h.outputOf c.read) with
    | some first =>
      rw [hfind] at hrefused
      exact ⟨_, _, _, (Except.error.inj hrefused).symm⟩
    | none =>
      rw [hfind] at hrefused
      refine ih (fun d hd => hsound d (List.mem_cons_of_mem _ hd)) hpair.2 (fun d hd c' hc' => ?_) hrefused
      rcases List.mem_append.1 hd with hd | hd
      · exact hnew d hd c' (List.mem_cons_of_mem _ hc')
      · rw [List.mem_singleton.1 hd]
        exact hpair.1 _ (List.mem_map_of_mem hc')

/-! ### The whole table -/

theorem RawConfig.IsSoundButForReports.pairwise_isApartFrom (hraw : raw.IsSoundButForReports) :
    (raw.cases.map RawCase.read).Pairwise TestCase.IsApartFrom := by
  rw [List.pairwise_map]
  exact hraw.names.imp₂ (fun c d hname href => ⟨hname, fun heq => href (normal_eq_iff.1 heq)⟩)
    hraw.references

/-- The cases of the table are taken exactly when no two reports go to one place. -/
theorem RawConfig.IsSoundButForReports.resolveCases_eq_ok_iff (hraw : raw.IsSoundButForReports)
    (hharness : resolveHarness raw.harness = .ok h) :
    (∃ cases, resolveCases h [] raw.cases = .ok cases) ↔
      raw.cases.Pairwise fun c d =>
        (raw.harness.outputOf c).normalize ≠ (raw.harness.outputOf d).normalize := by
  simp only [GoldenCheck.resolveCases_eq_ok_iff, pairwise_fits_read_iff hharness, List.nil_append]
  constructor
  · rintro ⟨_, -, -, ⟨-, houtputs, -⟩, -⟩
    exact houtputs
  · intro houtputs
    exact ⟨_, hraw.cases, rfl, ⟨hraw.names, houtputs, hraw.references⟩, by simp⟩

/-- **A table is refused for two reports with one place** exactly when it has two such reports, if it
breaks no rule but those about reports. -/
theorem resolve_eq_duplicateOutput_iff (hraw : raw.IsSoundButForReports) :
    (∃ e, resolve raw = .error e ∧ e.IsDuplicateOutput) ↔
      ∃ c d, [c, d].Sublist raw.cases ∧
        (raw.harness.outputOf c).normalize = (raw.harness.outputOf d).normalize := by
  obtain ⟨engine, hengine⟩ := resolveEngine_isOk_iff.2 hraw.program
  obtain ⟨choice, hchoice⟩ := resolveComparator_isOk_iff.2 hraw.comparator
  have hharness := resolveHarness_eq_ok_iff.2 ⟨choice, hchoice, hraw.jobs, hraw.expect, rfl⟩
  have hpair := hraw.resolveCases_eq_ok_iff hharness
  rw [List.pairwise_iff_forall_sublist] at hpair
  simp only [resolve, hengine, hharness, hraw.someCase, bind, Except.bind, pure, Except.pure, if_false]
  cases hcases : resolveCases _ [] raw.cases with
  | error e =>
    have hdup : e.IsDuplicateOutput :=
      isDuplicateOutput_of_resolveCases hraw.cases hraw.pairwise_isApartFrom (by simp) hcases
    refine iff_of_true ⟨e, rfl, hdup⟩ (by_contra fun hnone => ?_)
    obtain ⟨cases, hok⟩ := hpair.2 fun hsub heq => hnone ⟨_, _, hsub, heq⟩
    rw [hcases] at hok
    cases hok
  | ok cases =>
    refine iff_of_false ?_ fun ⟨c, d, hsub, heq⟩ => hpair.1 ⟨cases, hcases⟩ hsub heq
    rintro ⟨_, hrefused, first, second, path, rfl⟩
    simp only at hrefused
    split at hrefused
    · cases hrefused
    · cases hrefused

/-- **Reports clash exactly when they take the same** from their roots and references, which is the key
(`Path.reportKey`) and the extension. With a suffix that has no slash, and references that both have an
extension or both have none, the derived paths are then one path, with one normal form below each directory
for reports. So a root and its normal form have one report, and a table that breaks no rule but those about
reports is refused for two reports with one place exactly when two of its cases take the same. -/
theorem reports_clash_iff_sameReport {suffix : String} (hsuffix : '/' ∉ suffix.toList) :
    (∀ root reference root' reference' : Path,
      (reference.format? = none ↔ reference'.format? = none) →
        (derive root reference suffix = derive root' reference' suffix ↔
          Path.SameReport root reference root' reference') ∧
        ((derive root reference suffix).components = (derive root' reference' suffix).components ↔
          Path.SameReport root reference root' reference') ∧
        ∀ outputDir : Path,
          (outputDir.join (derive root reference suffix)).normalize =
              (outputDir.join (derive root' reference' suffix)).normalize ↔
            Path.SameReport root reference root' reference') ∧
    (∀ root reference : Path, derive root.normalize reference suffix = derive root reference suffix) ∧
    ∀ raw : RawConfig, raw.IsSoundButForReports → raw.harness.suffix.getD defaultSuffix = suffix →
      (∀ c ∈ raw.cases, ∀ d ∈ raw.cases, c.reference.format? = none ↔ d.reference.format? = none) →
        ((∃ e, resolve raw = .error e ∧ e.IsDuplicateOutput) ↔
          ∃ c d, [c, d].Sublist raw.cases ∧ c.SameReport d) := by
  refine ⟨fun root reference root' reference' hboth => ⟨derive_eq_derive_iff hsuffix hboth,
    components_derive_eq_iff hsuffix hboth, normalize_join_derive_eq_iff hsuffix hboth⟩,
    fun root reference => derive_normalize root reference suffix, ?_⟩
  rintro raw hraw rfl hboth
  rw [resolve_eq_duplicateOutput_iff hraw]
  refine exists₂_congr fun c d => and_congr_right fun hsub => ?_
  have hc : c ∈ raw.cases := hsub.subset (by simp)
  have hd : d ∈ raw.cases := hsub.subset (by simp)
  exact normalize_join_derive_eq_iff hsuffix (hboth c hc d hd) _

/-- A table that writes one root in two ways. -/
def respelledTable : RawConfig where
  engine := ⟨"analyse", [], none, none⟩
  harness := RawHarness.unset
  cases := [
    { name := "a", description := "", root := .ofText "../tests/playground",
      reference := .ofText "reports/a.md", args := [], env := .empty, setup := none, expect := none },
    { name := "b", description := "", root := .ofText "tests/playground/",
      reference := .ofText "reports/b.md", args := [], env := .empty, setup := none, expect := none }]

theorem respelledTable_isSoundButForReports : respelledTable.IsSoundButForReports where
  program := by decide
  comparator := Or.inl rfl
  jobs := by decide
  expect := nofun
  someCase := by decide
  cases c hc := by
    rw [RawCase.isSound_iff]
    rcases List.mem_pair.1 hc with rfl | rfl <;> exact ⟨by decide, nofun⟩
  names := by decide
  references := by decide

/-- The two reports are one, and the table is refused for it. -/
theorem respelledTable_is_refused :
    derive (ofText "../tests/playground") (ofText "reports/a.md") defaultSuffix =
        derive (ofText "tests/playground/") (ofText "reports/b.md") defaultSuffix ∧
      ∃ e, resolve respelledTable = .error e ∧ e.IsDuplicateOutput := by
  obtain ⟨hpaths, -, htable⟩ :=
    reports_clash_iff_sameReport (show '/' ∉ defaultSuffix.toList by decide)
  refine ⟨((hpaths _ _ _ _ (by decide)).1).2 (by decide), ?_⟩
  refine (htable respelledTable respelledTable_isSoundButForReports rfl (by decide)).2 ?_
  exact ⟨_, _, List.Sublist.refl _, by decide⟩

end GoldenCheck
