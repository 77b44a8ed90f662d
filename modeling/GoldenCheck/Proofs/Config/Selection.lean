import GoldenCheck.Proofs.CommandLine.Loading
import GoldenCheck.Proofs.Run.Places
import Mathlib.Data.List.Nodup

/-!
# Which cases are selected

A selection by names is the part of the table whose cases have these names, in the order of the table
(`Config.select_eq_ok_iff`), or it fails for the first name that no case has (`Config.select_eq_error_iff`).
Only which names are asked for matters, not how often nor in which order (`Config.chosen_congr`).

The names of an accepted table are distinct, so that each name selects one case. What is selected is the
table that `resolve` makes of a part of what is written (`resolve_chosen`), and so it keeps all rules.
-/

namespace GoldenCheck

variable {raw : RawConfig} {config : Config} {wanted : List String} {cases : List TestCase}

/-- The selection fails for the first name that no case has. -/
theorem Config.select_eq_error_iff {e : ConfigError} :
    config.select wanted = .error e ↔
      ∃ before name after, wanted = before ++ name :: after ∧
        (∀ known ∈ before, ∃ c ∈ config.cases, c.name = known) ∧
        (∀ c ∈ config.cases, c.name ≠ name) ∧ e = .unknownCase name config.names := by
  have hfind : ∀ name, (wanted.find? fun name => (config.find? name).isNone) = some name ↔
      (∀ c ∈ config.cases, c.name ≠ name) ∧ ∃ before after, wanted = before ++ name :: after ∧
        ∀ known ∈ before, ∃ c ∈ config.cases, c.name = known := by
    intro name
    rw [List.find?_eq_some_iff_append]
    simp [Config.find?]
  unfold Config.select
  split_ifs with hnil
  · simp [hnil]
  · cases hfirst : wanted.find? fun name => (config.find? name).isNone with
    | some name =>
      obtain ⟨hunknown, before, after, hwanted, hknown⟩ := (hfind name).1 hfirst
      constructor
      · rintro ⟨⟩
        exact ⟨before, name, after, hwanted, hknown, hunknown, rfl⟩
      · rintro ⟨before', name', after', hwanted', hknown', hunknown', rfl⟩
        have hsame := (hfind name').2 ⟨hunknown', before', after', hwanted', hknown'⟩
        cases hfirst.symm.trans hsame
        rfl
    | none =>
      refine iff_of_false (by simp) ?_
      rintro ⟨before, name, after, hwanted, hknown, hunknown, -⟩
      cases hfirst.symm.trans ((hfind name).2 ⟨hunknown, before, after, hwanted, hknown⟩)

/-- The names that are asked for decide what is chosen, whatever their order and their number. -/
theorem Config.chosen_congr {wanted' : List String} (hsame : ∀ name, name ∈ wanted' ↔ name ∈ wanted) :
    config.chosen wanted' = config.chosen wanted := by
  have hnil : wanted' = [] ↔ wanted = [] := by
    simp only [List.eq_nil_iff_forall_not_mem, hsame]
  simp only [Config.chosen, hnil, hsame]

theorem Config.mem_chosen_iff (hwanted : wanted ≠ []) {c : TestCase} :
    c ∈ config.chosen wanted ↔ c ∈ config.cases ∧ c.name ∈ wanted := by
  simp [Config.chosen, hwanted]

/-- Where names are distinct, each name of a case is that of one case that is chosen for it. -/
theorem Config.countP_chosen (hnames : config.cases.Pairwise fun c d => c.name ≠ d.name) {name : String}
    (hname : name ∈ wanted) (hcase : ∃ c ∈ config.cases, c.name = name) :
    (config.chosen wanted).countP (fun c => c.name = name) = 1 := by
  obtain ⟨c, hc, rfl⟩ := hcase
  have hnodup : ((config.chosen wanted).map TestCase.name).Nodup :=
    List.pairwise_map.2 (hnames.sublist List.filter_sublist)
  have hmem : c.name ∈ (config.chosen wanted).map TestCase.name :=
    List.mem_map_of_mem ((mem_chosen_iff (List.ne_nil_of_mem hname)).2 ⟨hc, hname⟩)
  have honce := List.count_eq_one_of_mem hnodup hmem
  rw [List.count, List.countP_map] at honce
  rw [← honce]
  exact List.countP_congr fun d _ => by simp

/-- What is chosen from an accepted table is an accepted table: that of the same names as they are
written. -/
theorem resolve_chosen (hresolve : resolve raw = .ok config) (hwanted : wanted ≠ [])
    (hnames : ∀ name ∈ wanted, ∃ c ∈ config.cases, c.name = name) :
    resolve { raw with cases := raw.cases.filter fun c => c.name ∈ wanted } =
      .ok { config with cases := config.chosen wanted } := by
  obtain ⟨hengine, hharness, -, hsound, hread, hfits, hapart⟩ := resolve_eq_ok_iff.1 hresolve
  have hsub : (config.chosen wanted).Sublist config.cases := List.filter_sublist
  have hchosen : config.chosen wanted =
      (raw.cases.filter fun c => c.name ∈ wanted).map RawCase.read := by
    simp only [Config.chosen, hread, List.filter_map, hwanted, false_or]
    rfl
  refine resolve_eq_ok_iff.2 ⟨hengine, hharness, ?_, ?_, hchosen, hfits.sublist hsub, ?_⟩
  · obtain ⟨name, hname⟩ := List.exists_mem_of_ne_nil _ hwanted
    obtain ⟨c, hc, rfl⟩ := hnames name hname
    intro hnone
    have hempty : config.chosen wanted = [] := hchosen.trans (congrArg (List.map RawCase.read) hnone)
    exact List.ne_nil_of_mem ((Config.mem_chosen_iff hwanted).2 ⟨hc, hname⟩) hempty
  · exact fun c hc => hsound c (List.mem_of_mem_filter hc)
  · exact fun c hc d hd => hapart c (hsub.subset hc) d (hsub.subset hd)

/-- **Selection is exact.** No names select the whole table. Otherwise there is a selection exactly when
each name is that of a case. It is the part of the table, in its order, of all cases with these names, and
each name is that of one of them; so the names may be repeated and reordered. It keeps the rules on names,
reports and references, and is what `resolve` makes of that part of the table as it is written. Without a
selection, the error tells the first name that no case has, and the names of all cases in the order of the
table. -/
theorem selection_is_exact (hresolve : resolve raw = .ok config) :
    config.select [] = .ok config.cases ∧
    ∀ wanted, wanted ≠ [] →
      ((∃ cases, config.select wanted = .ok cases) ↔
        ∀ name ∈ wanted, ∃ c ∈ config.cases, c.name = name) ∧
      (∀ cases, config.select wanted = .ok cases →
        cases.Sublist config.cases ∧
        (∀ c, c ∈ cases ↔ c ∈ config.cases ∧ c.name ∈ wanted) ∧
        (∀ name ∈ wanted, cases.countP (fun c => c.name = name) = 1) ∧
        (∀ wanted', (∀ name, name ∈ wanted' ↔ name ∈ wanted) → config.select wanted' = .ok cases) ∧
        Config.IsSeparate { config with cases } ∧
        resolve { raw with cases := raw.cases.filter fun c => c.name ∈ wanted } =
          .ok { config with cases }) ∧
      ∀ e, config.select wanted = .error e ↔
        ∃ before name after, wanted = before ++ name :: after ∧
          (∀ known ∈ before, ∃ c ∈ config.cases, c.name = known) ∧
          (∀ c ∈ config.cases, c.name ≠ name) ∧
          e = .unknownCase name (config.cases.map TestCase.name) := by
  refine ⟨rfl, fun wanted hwanted => ⟨?_, fun cases hselect => ?_, fun e => Config.select_eq_error_iff⟩⟩
  · simp [Config.select_eq_ok_iff]
  · have hsub := select_sublist hselect
    obtain ⟨hnames, rfl⟩ := Config.select_eq_ok_iff.1 hselect
    have hpart := resolve_chosen hresolve hwanted hnames
    refine ⟨hsub, fun c => Config.mem_chosen_iff hwanted, fun name hname => ?_, fun wanted' hsame => ?_,
      isSeparate_of_resolve hpart, hpart⟩
    · exact Config.countP_chosen (isSeparate_of_resolve hresolve).names hname (hnames name hname)
    · refine Config.select_eq_ok_iff.2 ⟨fun name hname => hnames name ((hsame name).1 hname), ?_⟩
      exact (Config.chosen_congr hsame).symm

/-- Both cases of the sample table, asked for in another order and one of them twice, and a name that no
case has. -/
theorem sampleConfig_selections :
    sampleConfig.select ["vault", "token"] = .ok sampleConfig.cases ∧
      sampleConfig.select ["token", "vault", "token"] = .ok sampleConfig.cases ∧
      sampleConfig.select ["token", "safe", "vat"] = .error (.unknownCase "safe" ["vault", "token"]) := by
  obtain ⟨-, h⟩ := selection_is_exact resolve_sampleTable
  have hboth : sampleConfig.select ["vault", "token"] = .ok sampleConfig.cases := rfl
  obtain ⟨-, -, -, hagain, -⟩ := (h ["vault", "token"] (by simp)).2.1 _ hboth
  refine ⟨hboth, hagain _ (by simp), ((h ["token", "safe", "vat"] (by simp)).2.2 _).2 ?_⟩
  exact ⟨["token"], "safe", ["vat"], rfl, by simp [sampleConfig], by simp [sampleConfig], rfl⟩

end GoldenCheck
