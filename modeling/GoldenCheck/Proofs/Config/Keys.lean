import GoldenCheck.Proofs.CommandLine.Loading
import GoldenCheck.Proofs.Config.KeyOrder

/-!
# What a case table says

What the values of the keys of a document say of a configuration, said without how they are read: each field of
the configuration has a key of its own, and is the value of this key, or has its default where the key is not
there (`Toml.Table.Gives`). Only these keys are known (`Toml.Table.IsDeclared`). A document that is accepted has
only known keys, says what the configuration is (`Config.tells_of_ofTable`), and says the same with its keys in
another order (`Config.ofTable_reordered`). So does the document of a text (`Config.tells_of_ofText`).
-/

namespace GoldenCheck

open Toml

/-! ### What the values say -/

namespace Toml

variable {α : Type}

/-- The value of a key says what `x` is; without the key it is what is usual. -/
def Table.Gives (ms : Table) (key : String) (tells : Toml → α → Prop) (usual x : α) : Prop :=
  match ms.get? key with
  | some v => tells v x
  | none => x = usual

/-- The value says what is there, so that something is. -/
def TellsSome (tells : Toml → α → Prop) (v : Toml) (o : Option α) : Prop := ∃ x, tells v x ∧ o = some x

/-- A text. -/
def TellsText (v : Toml) (s : String) : Prop := v = .text s

/-- A list of texts, as they stand in the array. -/
def TellsTexts (v : Toml) (texts : List String) : Prop := v = .array (texts.map .text)

/-- A path, as it is written. -/
def TellsPath (v : Toml) (p : Path) : Prop := ∃ s, v = .text s ∧ p = .ofText s

/-- A truth value. -/
def TellsFlag (v : Toml) (b : Bool) : Prop := v = .boolean b

/-- A number. -/
def TellsCount (v : Toml) (n : Nat) : Prop := v = .integer n

/-- A time of so many seconds. -/
def TellsSeconds (v : Toml) (d : Duration) : Prop := ∃ n : Nat, v = .integer n ∧ d = ⟨n, 0⟩

/-- The expectation that a text names. -/
def TellsExpectation (v : Toml) (e : Expectation) : Prop := ∃ s, v = .text s ∧ Expectation.parse s = .ok e

/-- Variables: the members of a table of texts, in the order of their names. A moment is a table of one text. -/
def TellsVariables (v : Toml) (env : Environment) : Prop :=
  env.IsOrdered ∧ ∃ ms, (v = .table ms ∨ ∃ written, v = .moment written ∧ ms = [(momentKey, .text written)]) ∧
    ms.Perm (env.bindings.map fun b => (b.1, .text b.2))

/-- The members of a record: those of a table, or the values of an array for the first keys. -/
def HasMembers (declared : List String) (v : Toml) (ms : Table) : Prop :=
  v = .table ms ∨ ∃ items, v = .array items ∧ ms = declared.zip items

/-! ### The keys of the records -/

/-- The keys of a document. -/
def topKeys : List String := ["engine", "harness", "cases"]

/-- The keys of the engine. -/
def engineKeys : List String := ["program", "args", "output_flag", "timeout_secs"]

/-- The keys of the harness. -/
def harnessKeys : List String :=
  ["output_dir", "suffix", "expect", "comparator", "diff_program", "diff_args", "parallel", "jobs"]

/-- The keys of a case. -/
def caseKeys : List String := ["name", "description", "root", "reference", "args", "env", "setup", "expect"]

namespace Table

/-- All keys are known ones. -/
def HasOnly (ms : Table) (known : List String) : Prop := ∀ m ∈ ms, m.1 ∈ known

/-- A document that has no key which its record does not declare. -/
structure IsDeclared (table : Table) : Prop where
  top : table.HasOnly topKeys
  engine : ∀ ms : Table, table.get? "engine" = some (.table ms) → ms.HasOnly engineKeys
  harness : ∀ ms : Table, table.get? "harness" = some (.table ms) → ms.HasOnly harnessKeys
  cases : ∀ items, table.get? "cases" = some (.array items) →
    ∀ ms : Table, .table ms ∈ items → ms.HasOnly caseKeys

/-- What the members of the engine say. -/
structure TellsEngine (ms : Table) (e : EngineSettings) : Prop where
  program : ms.get? "program" = some (.text e.program)
  args : ms.Gives "args" TellsTexts [] e.args
  outputFlag : ms.Gives "output_flag" TellsText "-o" e.outputFlag
  timeout : ms.Gives "timeout_secs" (TellsSome TellsSeconds) none e.timeout

/-- What the members of the harness say of the comparator: the program and the arguments of the tool count only
where the tool is asked for. -/
def TellsComparator (ms : Table) : ComparatorChoice → Prop
  | .inProcess => ms.get? "comparator" = none ∨ ms.get? "comparator" = some (.text "in-process")
  | .tool program args => ms.get? "comparator" = some (.text "diff-tool") ∧
    ms.Gives "diff_program" TellsText "diff" program ∧ ms.Gives "diff_args" TellsTexts ["-q"] args

/-- What the members of the harness say. -/
structure TellsHarness (ms : Table) (h : HarnessSettings) : Prop where
  outputDir : ms.Gives "output_dir" TellsPath (.ofText ".") h.outputDir
  suffix : ms.Gives "suffix" TellsText "-workflow" h.suffix
  expect : ms.Gives "expect" TellsExpectation .identical h.expect
  comparator : ms.TellsComparator h.comparator
  parallel : ms.Gives "parallel" TellsFlag false h.parallel
  jobs : ms.Gives "jobs" (TellsSome TellsCount) none h.jobs

/-- What the members of a case say. -/
structure TellsCase (ms : Table) (c : TestCase) : Prop where
  name : ms.get? "name" = some (.text c.name)
  description : ms.Gives "description" TellsText "" c.description
  root : ∃ v, ms.get? "root" = some v ∧ TellsPath v c.root
  reference : ∃ v, ms.get? "reference" = some v ∧ TellsPath v c.reference
  args : ms.Gives "args" TellsTexts [] c.args
  env : ms.Gives "env" TellsVariables .empty c.env
  setup : ms.Gives "setup" (TellsSome TellsTexts) none c.setup
  expect : ms.Gives "expect" (TellsSome TellsExpectation) none c.expect

/-- What a document says. A harness that is not there is one without members. -/
structure Tells (table : Table) (config : Config) : Prop where
  engine : ∃ v ms, table.get? "engine" = some v ∧ v.HasMembers engineKeys ms ∧ ms.TellsEngine config.engine
  harness : (table.get? "harness" = none ∧ TellsHarness [] config.harness) ∨
    ∃ v ms, table.get? "harness" = some v ∧ v.HasMembers harnessKeys ms ∧ ms.TellsHarness config.harness
  cases : ∃ items, table.get? "cases" = some (.array items) ∧
    List.Forall₂ (fun v c => ∃ ms, v.HasMembers caseKeys ms ∧ ms.TellsCase c) items config.cases

end Table

end Toml

section

variable {α β : Type} {v : Toml} {ms : Table} {key : String} {read : ValueReader α} {tells : Toml → β → Prop}
  {shape : RecordShape}

/-! ### Known keys -/

/-- The value of a key was read. -/
theorem exists_of_get? {o : Option α} (h : optionalField ms key read = .ok o) (hv : ms.get? key = some v) :
    ∃ x, read v = .ok x := by
  rcases optionalField_eq_ok_iff.1 h with ⟨hms, -⟩ | ⟨_, x, hv', hx, -⟩
  · cases hms.symm.trans hv
  · cases hv.symm.trans hv'
    exact ⟨x, hx⟩

/-- Each item was read. -/
theorem exists_of_mem_items {vs : List Toml} {xs : List α}
    (h : List.Forall₂ (fun v x => read v = .ok x) vs xs) (hv : v ∈ vs) : ∃ x, read v = .ok x :=
  have hall : List.Forall₂ (fun v _ => (∃ x, read v = .ok x) ∧ True) vs xs :=
    h.imp fun _ x hx => ⟨⟨x, hx⟩, trivial⟩
  ((List.forall₂_and_left vs xs).1 hall).1 v hv

theorem RecordShape.hasOnly_of_check (h : shape.check ms = .ok ()) : ms.HasOnly shape.names := by
  intro m hm
  obtain ⟨check, hfound, -⟩ := check_eq_ok_iff.1 h m hm
  obtain ⟨before, after, hsplit, -⟩ := List.lookup_eq_some_iff.1 hfound
  simp [names, hsplit]

/-- A moment has a key that no record declares. -/
theorem RecordShape.hasMembers_of_check (hmoment : momentKey ∉ shape.names) (hms : shape.members v = .ok ms)
    (hcheck : shape.check ms = .ok ()) : v.HasMembers shape.names ms := by
  cases v with
  | table ms =>
    cases hms
    exact Or.inl rfl
  | array items =>
    cases hms
    exact Or.inr ⟨items, rfl, rfl⟩
  | moment written =>
    cases hms
    exact absurd (hasOnly_of_check hcheck (momentKey, .text written) (by simp)) hmoment
  | _ => cases hms

/-- **An accepted document has known keys only.** -/
theorem RawConfig.isDeclared_of_ofTable {table : Table} {raw : RawConfig}
    (h : RawConfig.ofTable table = .ok raw) : table.IsDeclared := by
  obtain ⟨hcheck, hengine, ⟨harness, hharness, -⟩, cases, hcases, -⟩ := RawConfig.ofTable_eq_ok_iff.1 h
  refine ⟨RecordShape.hasOnly_of_check hcheck, fun ms hms => ?_, fun ms hms => ?_,
    fun items hitems ms hms => ?_⟩
  · obtain ⟨e, he⟩ := exists_of_get? hengine hms
    obtain ⟨_, ⟨⟩, hcheck, -⟩ := RawEngine.ofValue_eq_ok_iff.1 he
    exact RecordShape.hasOnly_of_check hcheck
  · obtain ⟨r, hr⟩ := exists_of_get? hharness hms
    obtain ⟨_, ⟨⟩, hcheck, -⟩ := RawHarness.ofValue_eq_ok_iff.1 hr
    exact RecordShape.hasOnly_of_check hcheck
  · obtain ⟨cs, hcs⟩ := exists_of_get? hcases hitems
    obtain ⟨_, ⟨⟩, hread⟩ := asItems_eq_ok_iff.1 hcs
    obtain ⟨c, hc⟩ := exists_of_mem_items hread hms
    obtain ⟨_, ⟨⟩, hcheck, -⟩ := RawCase.ofValue_eq_ok_iff.1 hc
    exact RecordShape.hasOnly_of_check hcheck

/-! ### Fields -/

theorem givesSome_map {o : Option α} {f : α → β} (h : optionalField ms key read = .ok o)
    (hread : ∀ v x, read v = .ok x → tells v (f x)) : ms.Gives key (TellsSome tells) none (o.map f) := by
  rcases optionalField_eq_ok_iff.1 h with ⟨hms, rfl⟩ | ⟨v, y, hms, hy, rfl⟩
  · simp [Table.Gives, hms]
  · simpa [Table.Gives, hms, TellsSome] using hread v y hy

/-- What may be left out has what is usual instead. -/
theorem Toml.Table.Gives.getD {o : Option β} (h : ms.Gives key (TellsSome tells) none o) (usual : β) :
    ms.Gives key tells usual (o.getD usual) := by
  unfold Gives at h ⊢
  cases hms : ms.get? key with
  | none =>
    rw [hms] at h
    exact h ▸ rfl
  | some v =>
    rw [hms] at h
    obtain ⟨x, hx, rfl⟩ := h
    exact hx

theorem givesSome_of_optionalField {o : Option β} {read : ValueReader β} (h : optionalField ms key read = .ok o)
    (hread : ∀ v x, read v = .ok x → tells v x) : ms.Gives key (TellsSome tells) none o := by
  simpa using givesSome_map (f := id) h hread

theorem givesSome_text {o : Option String} (h : optionalField ms key asText = .ok o) :
    ms.Gives key (TellsSome TellsText) none o :=
  givesSome_of_optionalField h fun _ _ => asText_eq_ok_iff.1

theorem givesSome_texts {o : Option (List String)} (h : optionalField ms key (asItems asText) = .ok o) :
    ms.Gives key (TellsSome TellsTexts) none o :=
  givesSome_of_optionalField h fun _ _ => asItems_asText_eq_ok_iff.1

/-- An expectation that has a meaning is read from its text. -/
theorem givesSome_expectation {o : Option String} (h : optionalField ms key asText = .ok o)
    (hmeaning : IsExpectation o) : ms.Gives key (TellsSome TellsExpectation) none (readExpectation o) := by
  have htext := givesSome_text h
  unfold Table.Gives at htext ⊢
  cases hms : ms.get? key with
  | none =>
    rw [hms] at htext
    exact htext ▸ rfl
  | some v =>
    rw [hms] at htext
    obtain ⟨s, rfl, rfl⟩ := htext
    obtain ⟨e, he⟩ := hmeaning s rfl
    exact ⟨e, ⟨s, rfl, he⟩, by simp [readExpectation, he, Except.toOption]⟩

theorem tellsVariables_of_asTexts {xs : List (String × String)} (once : KeysOnce v) (h : asTexts v = .ok xs) :
    TellsVariables v (.ofList xs) := by
  rcases asTexts_eq_ok_iff.1 h with rfl | ⟨written, rfl, rfl⟩
  · have hnames : (xs.map Prod.fst).Nodup := by simpa [Function.comp_def] using (keysOnce_table_iff.1 once).1
    exact ⟨Environment.isOrdered_ofList xs, _, Or.inl rfl, (Environment.perm_ofList hnames).map _⟩
  · exact ⟨Environment.isOrdered_ofList _, _, Or.inr ⟨written, rfl, rfl⟩, .refl _⟩

/-! ### Records -/

theorem resolveEngine_eq_ok_iff {raw : RawEngine} {e : EngineSettings} :
    resolveEngine raw = .ok e ↔ isBlankText raw.program = false ∧ e.program = raw.program ∧
      e.args = raw.args ∧ e.outputFlag = raw.outputFlag.getD "-o" ∧
      e.timeout = raw.timeoutSecs.map fun s => ⟨s, 0⟩ := by
  obtain ⟨program, args, outputFlag, timeout⟩ := e
  unfold resolveEngine
  split_ifs with hblank <;> simp [hblank, eq_comm]

/-- **The engine is what its members say.** -/
theorem exists_tellsEngine {raw : RawEngine} {e : EngineSettings} (hread : RawEngine.ofValue v = .ok raw)
    (he : resolveEngine raw = .ok e) : ∃ ms, v.HasMembers engineKeys ms ∧ ms.TellsEngine e := by
  obtain ⟨ms, hms, hcheck, hprogram, ⟨args, hargs, heqArgs⟩, houtputFlag, htimeout⟩ :=
    RawEngine.ofValue_eq_ok_iff.1 hread
  obtain ⟨-, heqProgram, heqArgs', heqFlag, heqTimeout⟩ := resolveEngine_eq_ok_iff.1 he
  refine ⟨ms, RecordShape.hasMembers_of_check (by decide) hms hcheck, ?_, ?_, ?_, ?_⟩
  · obtain ⟨v, hv, htext⟩ := optionalField_eq_some_iff.1 hprogram
    rw [hv, asText_eq_ok_iff.1 htext, heqProgram]
  · rw [heqArgs', heqArgs]
    exact (givesSome_texts hargs).getD []
  · rw [heqFlag]
    exact (givesSome_text houtputFlag).getD "-o"
  · rw [heqTimeout]
    exact givesSome_map htimeout fun _ n hn => ⟨n, asCount_eq_ok_iff.1 hn, rfl⟩

/-- The comparator is what its name says, where it says anything. -/
theorem tellsComparator_of_resolve {raw : RawHarness} {choice : ComparatorChoice}
    (hcomparator : optionalField ms "comparator" asText = .ok raw.comparator)
    (hprogram : optionalField ms "diff_program" asText = .ok raw.diffProgram)
    (hargs : optionalField ms "diff_args" (asItems asText) = .ok raw.diffArgs)
    (h : resolveComparator raw = .ok choice) : ms.TellsComparator choice := by
  unfold resolveComparator at h
  rcases optionalField_eq_ok_iff.1 hcomparator with ⟨hms, hnone⟩ | ⟨v, name, hms, hv, hsome⟩
  · rw [hnone] at h
    cases h
    exact Or.inl hms
  · rw [asText_eq_ok_iff.1 hv] at hms
    rw [hsome] at h
    simp only at h
    split_ifs at h with hin htool
    · cases h
      exact Or.inr (hin ▸ hms)
    · cases h
      exact ⟨htool ▸ hms, (givesSome_text hprogram).getD "diff", (givesSome_texts hargs).getD ["-q"]⟩

/-- **The harness is what its members say.** -/
theorem exists_tellsHarness {raw : RawHarness} {h : HarnessSettings} (hread : RawHarness.ofValue v = .ok raw)
    (hh : resolveHarness raw = .ok h) : ∃ ms, v.HasMembers harnessKeys ms ∧ ms.TellsHarness h := by
  obtain ⟨ms, hms, hcheck, houtputDir, hsuffix, hexpect, hcomparator, hdiffProgram, hdiffArgs,
    ⟨parallel, hparallel, heqParallel⟩, hjobs⟩ := RawHarness.ofValue_eq_ok_iff.1 hread
  obtain ⟨choice, hchoice, -, hmeaning, rfl⟩ := resolveHarness_eq_ok_iff.1 hh
  refine ⟨ms, RecordShape.hasMembers_of_check (by decide) hms hcheck, ?_, ?_, ?_, ?_, ?_, ?_⟩
  · exact Table.Gives.getD (givesSome_of_optionalField houtputDir fun _ _ => asPath_eq_ok_iff.1) _
  · exact (givesSome_text hsuffix).getD _
  · exact (givesSome_expectation hexpect hmeaning).getD _
  · exact tellsComparator_of_resolve hcomparator hdiffProgram hdiffArgs hchoice
  · rw [heqParallel]
    exact Table.Gives.getD (givesSome_of_optionalField hparallel fun _ _ => asFlag_eq_ok_iff.1) false
  · exact givesSome_of_optionalField hjobs fun _ _ => asCount_eq_ok_iff.1

/-- **A case is what its members say.** -/
theorem exists_tellsCase {raw : RawCase} (once : KeysOnce v) (hread : RawCase.ofValue v = .ok raw)
    (hsound : raw.IsSound) : ∃ ms, v.HasMembers caseKeys ms ∧ ms.TellsCase raw.read := by
  obtain ⟨ms, hms, hcheck, hname, ⟨description, hdescription, heqDescription⟩, hroot, hreference,
    ⟨args, hargs, heqArgs⟩, ⟨env, henv, heqEnv⟩, hsetup, hexpect⟩ := RawCase.ofValue_eq_ok_iff.1 hread
  have honce := RecordShape.keysOnce_members (by decide) once hms
  refine ⟨ms, RecordShape.hasMembers_of_check (by decide) hms hcheck, ?_, ?_, ?_, ?_, ?_, ?_, ?_, ?_⟩
  · obtain ⟨v, hv, htext⟩ := optionalField_eq_some_iff.1 hname
    rw [hv, asText_eq_ok_iff.1 htext]
    rfl
  · show ms.Gives "description" TellsText "" raw.description
    rw [heqDescription]
    exact (givesSome_text hdescription).getD ""
  · obtain ⟨v, hv, hpath⟩ := optionalField_eq_some_iff.1 hroot
    exact ⟨v, hv, asPath_eq_ok_iff.1 hpath⟩
  · obtain ⟨v, hv, hpath⟩ := optionalField_eq_some_iff.1 hreference
    exact ⟨v, hv, asPath_eq_ok_iff.1 hpath⟩
  · show ms.Gives "args" TellsTexts [] raw.args
    rw [heqArgs]
    exact (givesSome_texts hargs).getD []
  · show ms.Gives "env" TellsVariables .empty raw.env
    rw [heqEnv]
    unfold Table.Gives
    rcases optionalField_eq_ok_iff.1 henv with ⟨hms, rfl⟩ | ⟨v, xs, hms, hxs, rfl⟩
    · rw [hms]
      rfl
    · rw [hms]
      exact tellsVariables_of_asTexts ((keysOnce_table_iff.1 honce).2 _ (Table.mem_of_get? hms)) hxs
  · exact givesSome_texts hsetup
  · exact givesSome_expectation hexpect hsound.expect

theorem forall₂_tellsCase {items : List Toml} {raws : List RawCase} (once : ∀ v ∈ items, KeysOnce v)
    (hread : List.Forall₂ (fun v raw => RawCase.ofValue v = .ok raw) items raws)
    (hsound : ∀ raw ∈ raws, raw.IsSound) :
    List.Forall₂ (fun v c => ∃ ms, v.HasMembers caseKeys ms ∧ ms.TellsCase c) items
      (raws.map RawCase.read) := by
  induction hread with
  | nil => exact .nil
  | cons hfirst _ ih =>
    rw [List.forall_mem_cons] at once hsound
    exact .cons (exists_tellsCase once.1 hfirst hsound.1) (ih once.2 hsound.2)

end

/-! ### Documents -/

variable {table table' : Table} {config : Config}

/-- Read and check a document. -/
def Config.ofTable (table : Table) : Except ConfigError Config := do
  resolve (← (RawConfig.ofTable table).mapError .misshapen)

theorem Config.ofText_eq_ofTable {text : String} (h : parse? text = some table) :
    Config.ofText text = Config.ofTable table := by
  unfold Config.ofText
  rw [h]
  rfl

theorem Config.ofTable_eq_ok_iff : Config.ofTable table = .ok config ↔
    ∃ raw, RawConfig.ofTable table = .ok raw ∧ resolve raw = .ok config := by
  unfold Config.ofTable
  simp only [bind_eq_ok_iff, mapError_eq_ok_iff]

/-- **A document that is accepted says what the configuration is.** -/
theorem Config.tells_of_ofTable (once : KeysOnce (.table table)) (h : Config.ofTable table = .ok config) :
    table.Tells config := by
  obtain ⟨raw, hraw, hresolve⟩ := Config.ofTable_eq_ok_iff.1 h
  obtain ⟨-, hengine, ⟨harness, hharness, heqHarness⟩, cases, hcases, heqCases⟩ :=
    RawConfig.ofTable_eq_ok_iff.1 hraw
  obtain ⟨hreadEngine, hreadHarness, hsome, hsound, hreadCases, -, -⟩ := resolve_eq_ok_iff.1 hresolve
  refine ⟨?_, ?_, ?_⟩
  · obtain ⟨v, hv, hread⟩ := optionalField_eq_some_iff.1 hengine
    obtain ⟨ms, hms, htells⟩ := exists_tellsEngine hread hreadEngine
    exact ⟨v, ms, hv, hms, htells⟩
  · rcases optionalField_eq_ok_iff.1 hharness with ⟨hnone, rfl⟩ | ⟨v, r, hv, hread, rfl⟩
    · -- No harness is the harness of a table without members.
      have hempty : RawHarness.ofValue (.table []) = .ok raw.harness := by rw [heqHarness]; rfl
      obtain ⟨ms, hms, htells⟩ := exists_tellsHarness hempty hreadHarness
      rcases hms with ⟨⟨⟩⟩ | ⟨_, ⟨⟩, -⟩
      exact Or.inl ⟨hnone, htells⟩
    · rw [heqHarness] at hreadHarness
      obtain ⟨ms, hms, htells⟩ := exists_tellsHarness hread hreadHarness
      exact Or.inr ⟨v, ms, hv, hms, htells⟩
  · rcases optionalField_eq_ok_iff.1 hcases with ⟨-, rfl⟩ | ⟨v, raws, hv, hread, rfl⟩
    · exact absurd heqCases hsome
    · obtain ⟨items, rfl, hitems⟩ := asItems_eq_ok_iff.1 hread
      have honce := keysOnce_array_iff.1 ((keysOnce_table_iff.1 once).2 _ (Table.mem_of_get? hv))
      rw [heqCases] at hsound hreadCases
      refine ⟨items, hv, ?_⟩
      rw [hreadCases]
      exact forall₂_tellsCase honce hitems hsound

/-- **A document says the same with its keys in another order.** -/
theorem Config.ofTable_reordered (once : KeysOnce (.table table))
    (h : Relation.ReflTransGen Reordered (.table table) (.table table'))
    (hconfig : Config.ofTable table = .ok config) : Config.ofTable table' = .ok config := by
  obtain ⟨raw, hraw, hresolve⟩ := Config.ofTable_eq_ok_iff.1 hconfig
  refine Config.ofTable_eq_ok_iff.2 ⟨raw, ?_, hresolve⟩
  clear hconfig hresolve
  generalize hv : Toml.table table = v at h once
  induction h using Relation.ReflTransGen.head_induction_on generalizing table with
  | refl =>
    cases hv
    exact hraw
  | head hstep _ ih =>
    subst hv
    obtain ⟨ns, rfl, hns⟩ := hstep.table_cases
    exact ih (RawConfig.ofTable_reordered once hns hraw) rfl (hstep.keysOnce once)

/-- What is read from a text is what its document says. -/
theorem Config.tells_of_ofText {text : String} (h : Config.ofText text = .ok config) :
    ∃ table, parse? text = some table ∧ table.IsDeclared ∧ table.Tells config := by
  obtain ⟨table, raw, hparse, hraw, -⟩ := Config.ofText_eq_ok_iff.1 h
  rw [Config.ofText_eq_ofTable hparse] at h
  exact ⟨table, hparse, RawConfig.isDeclared_of_ofTable hraw, tells_of_ofTable (parse?_keysOnce hparse) h⟩

/-- **No key of a case table is misread.** The document of a text decides what is read of the text. A document
with a key that the record around it does not declare is refused. An accepted document says what the
configuration is: each field has the value of its own key, or its default without that key. And any document
with the same keys in another order, at whatever depth, has the same configuration. -/
theorem no_key_is_misread (once : KeysOnce (.table table)) :
    (∀ text, parse? text = some table → Config.ofText text = Config.ofTable table) ∧
    (¬ table.IsDeclared → ∃ e, Config.ofTable table = .error (.misshapen e)) ∧
    ∀ config, Config.ofTable table = .ok config → table.Tells config ∧
      ∀ table', Relation.ReflTransGen Reordered (.table table) (.table table') →
        Config.ofTable table' = .ok config := by
  refine ⟨fun text => Config.ofText_eq_ofTable, fun hundeclared => ?_,
    fun config h => ⟨?_, fun table' hsame => ?_⟩⟩
  · cases hraw : RawConfig.ofTable table with
    | ok raw => exact absurd (RawConfig.isDeclared_of_ofTable hraw) hundeclared
    | error e => exact ⟨e, by rw [Config.ofTable, hraw]; rfl⟩
  · exact Config.tells_of_ofTable once h
  · exact Config.ofTable_reordered once hsame h

/-- A document with a time limit, a tool for comparisons, and a case with the given variables. -/
def toolDocument (env : Table) : Table :=
  [("engine", .table [("program", .text "analyse"), ("timeout_secs", .integer 30)]),
    ("harness", .table [("comparator", .text "diff-tool"), ("diff_program", .text "cmp")]),
    ("cases", .array [.table [("name", .text "vault"), ("root", .text "tests/vault"),
      ("reference", .text "reports/vault.md"), ("env", .table env)]])]

/-- What the document says of a case that is told its mode and its depth. -/
def toolConfig : Config where
  engine := ⟨"analyse", [], "-o", some ⟨30, 0⟩⟩
  harness := ⟨⟨[Path.dot]⟩, Path.defaultSuffix, .identical, .tool "cmp" ["-q"], false, none⟩
  cases := [
    { name := "vault", root := .ofText "tests/vault", reference := .ofText "reports/vault.md",
      env := ⟨[("DEPTH", "2"), ("MODE", "strict")]⟩ }]

/-- The same with the tables and the variables in another order, and a time limit under a key that is not
known. -/
theorem toolDocument_in_another_order :
    KeysOnce (.table (toolDocument [("MODE", .text "strict"), ("DEPTH", .text "2")])) ∧
      Config.ofTable (toolDocument [("DEPTH", .text "2"), ("MODE", .text "strict")]).reverse = .ok toolConfig ∧
      KeysOnce (.table [("engine", .table [("program", .text "analyse"), ("timeout", .integer 30)])]) ∧
      ∃ e, Config.ofTable [("engine", .table [("program", .text "analyse"), ("timeout", .integer 30)])] =
        .error (.misshapen e) := by
  have once : KeysOnce (.table (toolDocument [("MODE", .text "strict"), ("DEPTH", .text "2")])) := by
    simp [toolDocument, keysOnce_table_iff, keysOnce_array_iff, KeysOnce.text, KeysOnce.integer]
  have hread : Config.ofTable (toolDocument [("MODE", .text "strict"), ("DEPTH", .text "2")]) =
      .ok toolConfig := by rfl
  have onceShort : KeysOnce
      (.table [("engine", .table [("program", .text "analyse"), ("timeout", .integer 30)])]) := by
    simp [keysOnce_table_iff, KeysOnce.text, KeysOnce.integer]
  refine ⟨once, ((no_key_is_misread once).2.2 toolConfig hread).2 _ ?_, onceShort, ?_⟩
  · have henv : Reordered (.table (toolDocument [("MODE", .text "strict"), ("DEPTH", .text "2")]))
        (.table (toolDocument [("DEPTH", .text "2"), ("MODE", .text "strict")])) :=
      @Reordered.member [_, _] [] "cases" _ _ (@Reordered.item [] [] _ _
        (@Reordered.member [_, _, _] [] "env" _ _ (.here (.swap ..))))
    exact .trans (.single henv) (.single (.here (List.reverse_perm _).symm))
  · refine (no_key_is_misread onceShort).2.1 fun h => ?_
    have hkeys := h.engine _ rfl
    simp [Table.HasOnly, engineKeys] at hkeys

end GoldenCheck
