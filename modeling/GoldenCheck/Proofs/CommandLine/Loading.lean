import GoldenCheck.CommandLine.Execute
import GoldenCheck.Proofs.Config.Validation
import GoldenCheck.Proofs.Files.Walk

/-!
# What a command line needs

Before anything runs, the case table is read and checked, its directory is entered, and the cases that are
asked for are chosen (`Invocation.ready?`). This does not start any program, and it changes no file. It
comes out well exactly when the files and the names are fit for it (`Invocation.IsFit`). What follows is
carried out whatever happens then (`Command.perform`), so that a command line is carried out by the one
after the other (`Invocation.execute?_eq`).

What the log says of loading comes before everything else (`Invocation.executeLogging_eq`).
-/

namespace GoldenCheck

/-! ### Fit command lines -/

/-- The file at a path holds a case table: it can be read, and it is a text that reads as one. -/
def World.HoldsTable (w : World) (path : Path) (raw : RawConfig) : Prop :=
  ∃ bytes text table, w.read path = .ok bytes ∧ Utf8.decode? bytes = some text ∧
    Toml.parse? text = some table ∧ RawConfig.ofTable table = .ok raw

/-- In `v` the directory of a path is the current one, if the path names a directory; nothing else has
changed. -/
def World.Enters (w : World) (path : Path) (v : World) : Prop :=
  (∀ directory, path.parent? = some directory → directory.isEmpty = false →
    ∃ l, w.lookup directory = .ok (l, .directory) ∧ v = { w with cwd := l }) ∧
  ((∀ directory, path.parent? = some directory → directory.isEmpty = true) → v = w)

/-- The names of the cases that a command asks for. -/
def Command.wanted : Command → List String
  | .verify run _ _ => run.names
  | .bless run => run.names
  | .list _ => []

/-- The cases of a table with the given names; no names at all stand for every case. -/
def Config.chosen (config : Config) (wanted : List String) : List TestCase :=
  config.cases.filter fun c => wanted = [] ∨ c.name ∈ wanted

/-- The files and the names are fit for a command line. -/
structure Invocation.IsFit (inv : Invocation) (w : World) (raw : RawConfig) : Prop where
  /-- The case table can be read and decoded. -/
  table : w.HoldsTable inv.config raw
  /-- It breaks no rule. -/
  sound : raw.IsSound
  /-- Its directory can be entered. -/
  directory : ∃ v, w.Enters inv.config v
  /-- Each name is that of a case. -/
  names : ∀ name ∈ inv.command.wanted, ∃ c ∈ raw.cases, c.name = name

/-- A file holds one table at most. -/
theorem World.HoldsTable.unique {w : World} {path : Path} {raw raw' : RawConfig}
    (h : w.HoldsTable path raw) (h' : w.HoldsTable path raw') : raw = raw' := by
  obtain ⟨bytes, text, table, hread, hdecode, hparse, hraw⟩ := h
  obtain ⟨bytes', text', table', hread', hdecode', hparse', hraw'⟩ := h'
  cases hread.symm.trans hread'
  cases hdecode.symm.trans hdecode'
  cases hparse.symm.trans hparse'
  exact Except.ok.inj (hraw.symm.trans hraw')

/-! ### Two halves of a command line -/

/-- The table, the chosen cases, and the desk in the directory of the table. -/
def Invocation.ready? (inv : Invocation) (d : Desk) :
    Except CommandError (Config × List TestCase × Desk) := do
  let (config, world) ← loadConfig inv.config d.world
  let cases ← (config.select inv.command.wanted).mapError .config
  return (config, cases, { d with world })

/-- The harness of a run that verifies. -/
def Config.verifier (config : Config) (start : Launcher World) (json verbose : Bool) : Harness Desk :=
  Harness.atDesk start config.engine config.harness.comparator
    (if json then sayRecord else sayConsole ⟨verbose, true⟩)

/-- The harness of a run that makes references anew. -/
def Config.blesser (config : Config) (start : Launcher World) : Harness Desk :=
  Harness.atDesk start config.engine .inProcess fun _ d => d

/-- The status and the closing words of a run that made references anew. -/
def blessAnswer (outcomes : List BlessOutcome) (d : Desk) : Nat × Desk :=
  (if blessFailures outcomes > 0 then 1 else 0,
    d.complain (String.join (outcomes.map blessLine) ++ blessClosing outcomes))

/-- Do for the chosen cases what a command asks for. -/
def Command.perform (start : Launcher World) (config : Config) (cases : List TestCase) (verbose : Bool)
    (d : Desk) : Command → Nat × Desk
  | .verify run clean json =>
    let (summary, d) := GoldenCheck.verify (config.verifier start json verbose)
      (config.harness.runOptions.override run clean) cases d
    (summary.exitCode, d)
  | .bless _ =>
    let (outcomes, d) := GoldenCheck.bless (config.blesser start) cases d
    blessAnswer outcomes d
  | .list json => runList config json d

section

variable {w v : World} {path : Path} {config : Config} {inv : Invocation} {d : Desk}

/-- **A command line is carried out by two halves**, of which the first starts no program. -/
theorem Invocation.execute?_eq (start : Launcher World) (inv : Invocation) (d : Desk) :
    inv.execute? start d = (inv.ready? d).map fun (config, cases, d) =>
      inv.command.perform start config cases inv.verbose d := by
  obtain ⟨path, verbose, command⟩ := inv
  unfold Invocation.execute? Invocation.ready?
  cases loadConfig path d.world with
  | error e => rfl
  | ok loaded =>
    obtain ⟨config, world⟩ := loaded
    cases command with
    | list json => rfl
    | verify run clean json | bless run =>
      simp only [Command.execute, Command.runVerify, Command.runBless, Command.wanted, bind,
        Except.bind]
      cases config.select run.names <;> rfl

/-- A command line that is not ready is refused, and this is told. -/
theorem Invocation.execute_of_error {e : CommandError} (start : Launcher World) (h : inv.ready? d = .error e) :
    inv.execute start d = (ConfigError.exitCode, d.complain (e.report ++ "\n")) := by
  unfold Invocation.execute
  rw [Invocation.execute?_eq, h]
  rfl

/-- One that is ready is carried out for its cases. -/
theorem Invocation.execute_of_ok {cases : List TestCase} {u : Desk} (start : Launcher World)
    (h : inv.ready? d = .ok (config, cases, u)) :
    inv.execute start d = inv.command.perform start config cases inv.verbose u := by
  unfold Invocation.execute
  rw [Invocation.execute?_eq, h]
  rfl

/-! ### What the log says -/

/-- The desk on which the log has said how the case table is loaded, and nothing was done yet. -/
def Invocation.opening (log : Logger) (inv : Invocation) (d : Desk) : Desk :=
  d.log log (loading inv.config d.world).records

/-- **A command line that is logged is one that is carried out after the log has spoken.** -/
theorem Invocation.executeLogging_eq (log : Logger) (start : Launcher World) (inv : Invocation) (d : Desk) :
    inv.executeLogging log start d = inv.execute start (inv.opening log d) := rfl

/-- When no log is kept, nothing is said before. -/
theorem Invocation.executeLogging_off (start : Launcher World) (inv : Invocation) (d : Desk) :
    inv.executeLogging .off start d = inv.execute start d := by
  have hnothing : (loading inv.config d.world).records.flatMap Logger.off = [] :=
    List.flatMap_eq_nil_iff.2 fun _ _ => rfl
  rw [executeLogging_eq, opening, Desk.log, hnothing, List.append_nil]

/-! ### What must be right -/

theorem World.enter_eq_ok_iff : w.enter path = .ok v ↔
    ∃ l, w.lookup path = .ok (l, .directory) ∧ v = { w with cwd := l } := by
  unfold World.enter
  rw [bind_eq_ok_iff]
  constructor
  · rintro ⟨⟨l, e⟩, hl, h⟩
    simp only at h
    split_ifs at h with hdir
    have he : e = .directory := by
      cases e <;> simp [Entry.isDirectory] at hdir ⊢
    exact ⟨l, he ▸ hl, (pure_eq_ok_iff.1 h).symm⟩
  · rintro ⟨l, hl, rfl⟩
    exact ⟨(l, .directory), hl, rfl⟩

theorem Config.ofText_eq_ok_iff {text : String} : Config.ofText text = .ok config ↔
    ∃ table raw, Toml.parse? text = some table ∧ RawConfig.ofTable table = .ok raw ∧
      resolve raw = .ok config := by
  unfold Config.ofText
  cases hparse : Toml.parse? text with
  | none => simp [throw_ne_ok]
  | some table => simp [bind_eq_ok_iff, mapError_eq_ok_iff]

/-- What a file must hold for its table to be accepted. -/
theorem Config.ofFile_eq_ok_iff : Config.ofFile path (w.read path) = .ok config ↔
    ∃ raw, w.HoldsTable path raw ∧ resolve raw = .ok config := by
  unfold Config.ofFile World.HoldsTable
  cases hread : w.read path with
  | error cause => simp [bind_eq_ok_iff, mapError_eq_ok_iff]
  | ok bytes =>
    cases hdecode : Utf8.decode? bytes with
    | none => simp [bind_eq_ok_iff, mapError_eq_ok_iff, hdecode, throw_ne_ok]
    | some text =>
      simp only [bind_eq_ok_iff, mapError_eq_ok_iff, Except.ok.injEq, exists_eq_left',
        Config.ofText_eq_ok_iff, hdecode]
      constructor
      · rintro ⟨table, raw, hparse, hraw, hresolve⟩
        exact ⟨raw, ⟨bytes, text, table, rfl, hdecode, hparse, hraw⟩, hresolve⟩
      · rintro ⟨raw, ⟨_, text', table, rfl, hdecode', hparse, hraw⟩, hresolve⟩
        cases hdecode.symm.trans hdecode'
        exact ⟨table, raw, hparse, hraw, hresolve⟩

/-- A table is loaded, and its directory entered. -/
theorem loading_of_enter {directory : Path} (hfile : Config.ofFile path (w.read path) = .ok config)
    (hparent : path.parent? = some directory) (hdirectory : directory.isEmpty = false)
    (henter : w.enter directory = .ok v) :
    loading path w = ⟨[.loaded path config.cases.length, .entered directory], .ok (config, v)⟩ := by
  unfold loading
  simp only [hfile, hparent, hdirectory, henter, Bool.false_eq_true, if_false]

/-- A table is loaded that is called by its name alone. -/
theorem loading_of_no_directory (hfile : Config.ofFile path (w.read path) = .ok config)
    (hparent : ∀ directory, path.parent? = some directory → directory.isEmpty = true) :
    loading path w = ⟨[.loaded path config.cases.length], .ok (config, w)⟩ := by
  unfold loading
  simp only [hfile]
  cases hp : path.parent? with
  | none => rfl
  | some directory => simp only [hparent directory hp, if_true]

theorem loadConfig_eq_ok_iff : loadConfig path w = .ok (config, v) ↔
    Config.ofFile path (w.read path) = .ok config ∧ w.Enters path v := by
  unfold loadConfig World.Enters
  cases hfile : Config.ofFile path (w.read path) with
  | error cause => simp [loading, hfile]
  | ok table =>
    by_cases hall : ∀ directory, path.parent? = some directory → directory.isEmpty = true
    · rw [loading_of_no_directory hfile hall]
      simp only [Except.ok.injEq, Prod.mk.injEq]
      refine and_congr_right fun _ => ⟨?_, fun henters => (henters.2 hall).symm⟩
      rintro rfl
      refine ⟨fun directory hparent hempty => ?_, fun _ => rfl⟩
      cases (hall directory hparent).symm.trans hempty
    · obtain ⟨directory, hparent, hempty⟩ : ∃ directory, path.parent? = some directory ∧
          directory.isEmpty = false := by simpa using hall
      cases henter : w.enter directory with
      | error cause =>
        refine iff_of_false (by simp [loading, hfile, hparent, hempty, henter]) fun h => ?_
        obtain ⟨-, hdirectory, -⟩ := h
        cases henter.symm.trans (World.enter_eq_ok_iff.2 (hdirectory directory hparent hempty))
      | ok world =>
        rw [loading_of_enter hfile hparent hempty henter]
        simp only [Except.ok.injEq, Prod.mk.injEq]
        refine and_congr_right fun _ => ⟨?_, fun henters => ?_⟩
        · rintro rfl
          refine ⟨fun other hother _ => ?_, fun hall' => absurd hall' hall⟩
          cases hparent.symm.trans hother
          exact World.enter_eq_ok_iff.1 henter
        · have hv := World.enter_eq_ok_iff.2 (henters.1 directory hparent hempty)
          exact Except.ok.inj (henter.symm.trans hv)

/-- Cases can be chosen when each name is that of a case. -/
theorem Config.select_eq_ok_iff {wanted : List String} {cases : List TestCase} :
    config.select wanted = .ok cases ↔
      (∀ name ∈ wanted, ∃ c ∈ config.cases, c.name = name) ∧ cases = config.chosen wanted := by
  unfold Config.select Config.chosen
  split_ifs with hnil
  · simp [hnil, eq_comm]
  · split
    · rename_i name hunknown
      have hmem := List.mem_of_find?_eq_some hunknown
      have hnone : ∀ c ∈ config.cases, c.name ≠ name := by
        simpa [Config.find?] using List.find?_some hunknown
      refine iff_of_false (by simp) ?_
      rintro ⟨hall, -⟩
      obtain ⟨c, hc, hname⟩ := hall name hmem
      exact hnone c hc hname
    · rename_i hknown
      have hall : ∀ name ∈ wanted, ∃ c ∈ config.cases, c.name = name := by
        simpa [Config.find?] using hknown
      simp only [Except.ok.injEq, hnil, false_or, eq_comm (a := cases)]
      exact ⟨fun h => ⟨hall, by simpa using h⟩, fun h => by simpa using h.2⟩

/-- The names of an accepted table are those that are written. -/
theorem exists_name_iff_of_resolve {raw : RawConfig} (h : resolve raw = .ok config) (name : String) :
    (∃ c ∈ config.cases, c.name = name) ↔ ∃ c ∈ raw.cases, c.name = name := by
  obtain ⟨-, -, -, -, hread, -, -⟩ := resolve_eq_ok_iff.1 h
  have hname : ∀ c : RawCase, c.read.name = c.name := fun _ => rfl
  simp [hread, hname]

/-- **A command line can be carried out** exactly when the files and the names are fit for it. -/
theorem Invocation.ready?_eq_ok_iff {cases : List TestCase} {v : Desk} :
    inv.ready? d = .ok (config, cases, v) ↔ ∃ raw world, inv.IsFit d.world raw ∧
      resolve raw = .ok config ∧ cases = config.chosen inv.command.wanted ∧
      d.world.Enters inv.config world ∧ v = { d with world } := by
  unfold Invocation.ready?
  simp only [bind_eq_ok_iff, pure_eq_ok_iff, mapError_eq_ok_iff, Prod.exists, loadConfig_eq_ok_iff,
    Config.ofFile_eq_ok_iff, Config.select_eq_ok_iff, Prod.mk.injEq]
  constructor
  · rintro ⟨config, world, ⟨⟨raw, htable, hresolve⟩, henters⟩, _, ⟨hnames, rfl⟩, rfl, rfl, rfl⟩
    refine ⟨raw, world, ⟨htable, (isAccepted_iff raw).1 ⟨config, hresolve⟩, ⟨world, henters⟩, ?_⟩,
      hresolve, rfl, henters, rfl⟩
    exact fun name hname => (exists_name_iff_of_resolve hresolve name).1 (hnames name hname)
  · rintro ⟨raw, world, hfit, hresolve, rfl, henters, rfl⟩
    refine ⟨config, world, ⟨⟨raw, hfit.table, hresolve⟩, henters⟩, _, ⟨?_, rfl⟩, rfl, rfl, rfl⟩
    exact fun name hname => (exists_name_iff_of_resolve hresolve name).2 (hfit.names name hname)

theorem Invocation.exists_ready?_iff :
    (∃ ready, inv.ready? d = .ok ready) ↔ ∃ raw, inv.IsFit d.world raw := by
  constructor
  · rintro ⟨⟨config, cases, v⟩, h⟩
    obtain ⟨raw, world, hfit, -⟩ := Invocation.ready?_eq_ok_iff.1 h
    exact ⟨raw, hfit⟩
  · rintro ⟨raw, hfit⟩
    obtain ⟨config, hresolve⟩ := (isAccepted_iff raw).2 hfit.sound
    obtain ⟨world, henters⟩ := hfit.directory
    exact ⟨_, Invocation.ready?_eq_ok_iff.2 ⟨raw, world, hfit, hresolve, rfl, henters, rfl⟩⟩

end

end GoldenCheck
