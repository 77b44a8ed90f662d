import GoldenCheck.Proofs.CommandLine.Loading
import GoldenCheck.Proofs.Run.Accounts

/-!
# The exit status tells the truth

What a command line may amount to (`Invocation.Runs`): it is refused, or it verifies its cases in any of
the ways in which these can run, or it makes their references anew, in any order when they run side by
side, or it shows the table. `Invocation.execute` is one of these runs (`Invocation.execute_runs`).

Each kind of run has its status from what happened: a refused one from the files and the names alone, one
that verifies from the courses of its cases (`Verifies.exitCode_eq_zero_iff`), and one that makes references
anew from how its calls ended (`blessAnswer_status`).

Of a log nothing is said here. It is written before all of this, and changes nothing of it
(`Invocation.executeLogging_eq`).
-/

namespace GoldenCheck

/-! ### References made anew in any order -/

/-- A call for the reference of a case, and how it ended. -/
abbrev BlessCall := TestCase × Attempt GenerationError Unit

/-- Calls for references, one after the other. -/
inductive Remakes {W : Type} (h : Harness W) : List BlessCall → W → W → Prop where
  /-- None are left. -/
  | nil {w : W} : Remakes h [] w w
  /-- One is made, and then the others. -/
  | cons {c : TestCase} {calls : List BlessCall} {w v : W}
      (rest : Remakes h calls (h.generate c c.reference w).2 v) :
      Remakes h ((c, (h.generate c c.reference w).1) :: calls) w v

/-- What is told of a call. -/
def BlessCall.outcome (call : BlessCall) : BlessOutcome where
  name := call.1.name
  reference := call.1.reference
  error := (blessFailure? call.2).map fun failure => ⟨call.1.root, failure⟩
  duration := .zero

/-- The references of cases are made anew by one call for each. The calls are told in the order of the
cases, and they are made in this order unless cases run side by side. -/
structure Blesses {W : Type} (h : Harness W) (o : RunOptions) (cases : List TestCase) (w : W)
    (calls told : List BlessCall) (v : W) : Prop where
  remakes : Remakes h calls w v
  perm : told.Perm calls
  order : told.map Prod.fst = cases
  inTurn : o.parallel = false → calls = told

/-- `bless` is one of the ways to make references anew. -/
theorem exists_blesses {W : Type} (h : Harness W) (o : RunOptions) (cases : List TestCase) (w : W) :
    ∃ told : List BlessCall, Blesses h o cases w told told (bless h cases w).2 ∧
      (bless h cases w).1 = told.map BlessCall.outcome := by
  suffices hall : ∃ told : List BlessCall, Remakes h told w (bless h cases w).2 ∧
      told.map Prod.fst = cases ∧ (bless h cases w).1 = told.map BlessCall.outcome by
    obtain ⟨told, hremakes, horder, houtcomes⟩ := hall
    exact ⟨told, ⟨hremakes, .refl _, horder, fun _ => rfl⟩, houtcomes⟩
  induction cases generalizing w with
  | nil => exact ⟨[], .nil, rfl, rfl⟩
  | cons c cases ih =>
    obtain ⟨told, hremakes, horder, houtcomes⟩ := ih (h.generate c c.reference w).2
    refine ⟨(c, (h.generate c c.reference w).1) :: told, .cons hremakes, by simp [horder], ?_⟩
    rw [List.map_cons, ← houtcomes]
    rfl

/-! ### Runs of a command line -/

/-- What a command line may amount to: its status, and the desk that it leaves. -/
inductive Invocation.Runs (start : Launcher World) (inv : Invocation) (d : Desk) : Nat → Desk → Prop
    where
  /-- It is refused, and this is told. -/
  | refused {e : CommandError} (unready : inv.ready? d = .error e) :
      inv.Runs start d ConfigError.exitCode (d.complain (e.report ++ "\n"))
  /-- It verifies the chosen cases. -/
  | verified {config : Config} {cases : List TestCase} {w v : Desk} {run : RunSelection}
      {clean json : Bool} {summary : RunSummary} (ready : inv.ready? d = .ok (config, cases, w))
      (asked : inv.command = .verify run clean json)
      (verifies : Verifies (config.verifier start json inv.verbose)
        (config.harness.runOptions.override run clean) cases w summary v) :
      inv.Runs start d summary.exitCode v
  /-- It makes the references of the chosen cases anew. -/
  | blessed {config : Config} {cases : List TestCase} {w v : Desk} {run : RunSelection}
      {calls told : List BlessCall} (ready : inv.ready? d = .ok (config, cases, w))
      (asked : inv.command = .bless run)
      (blesses : Blesses (config.blesser start) (config.harness.runOptions.override run false) cases w
        calls told v) :
      inv.Runs start d (blessAnswer (told.map BlessCall.outcome) v).1
        (blessAnswer (told.map BlessCall.outcome) v).2
  /-- It shows the table. -/
  | listed {config : Config} {cases : List TestCase} {w : Desk} {json : Bool}
      (ready : inv.ready? d = .ok (config, cases, w)) (asked : inv.command = .list json) :
      inv.Runs start d (Command.runList config json w).1 (Command.runList config json w).2

section

variable {W : Type} {h : Harness W} {o : RunOptions} {cases : List TestCase}

/-- **What is carried out is one of the runs.** -/
theorem Invocation.execute_runs (start : Launcher World) (inv : Invocation) (d : Desk) :
    inv.Runs start d (inv.execute start d).1 (inv.execute start d).2 := by
  cases hready : inv.ready? d with
  | error e =>
    rw [execute_of_error start hready]
    exact .refused hready
  | ok ready =>
    obtain ⟨config, cases, w⟩ := ready
    rw [execute_of_ok start hready]
    cases hcommand : inv.command with
    | verify run clean json => exact .verified hready hcommand (verify_verifies cases w)
    | list json => exact .listed hready hcommand
    | bless run =>
      obtain ⟨told, hblesses, houtcomes⟩ := exists_blesses (config.blesser start)
        (config.harness.runOptions.override run false) cases w
      simp only [Command.perform, houtcomes]
      exact .blessed hready hcommand hblesses

/-- A command line that is not ready is refused, whatever programs do. -/
theorem Invocation.Runs.of_error {start : Launcher World} {inv : Invocation} {d v : Desk} {status : Nat}
    {e : CommandError} (hruns : inv.Runs start d status v) (hready : inv.ready? d = .error e) :
    status = 2 ∧ v = d.complain (e.report ++ "\n") := by
  cases hruns with
  | refused hunready =>
    obtain rfl := Except.error.inj (hready.symm.trans hunready)
    exact ⟨rfl, rfl⟩
  | verified hok | blessed hok | listed hok => cases hready.symm.trans hok

/-! ### What decides the status -/

/-- The status of a run is zero when every case passed. -/
theorem RunSummary.exitCode_eq_zero_iff (s : RunSummary) :
    s.exitCode = 0 ↔ ∀ outcome ∈ s.outcomes, outcome.state = .passed := by
  have hfailures : s.failures = [] ↔ s.failed = 0 := by
    rw [← List.length_eq_zero_iff, s.length_failures]
  have hpassed : s.failures = [] ↔ ∀ outcome ∈ s.outcomes, outcome.state = .passed := by
    simp [RunSummary.failures, List.filter_eq_nil_iff, CaseOutcome.isPass_iff]
  rw [← hpassed, hfailures]
  unfold RunSummary.exitCode RunSummary.allPassed
  split <;> simp_all

theorem RunSummary.exitCode_cases (s : RunSummary) : s.exitCode = 0 ∨ s.exitCode = 1 := by
  unfold RunSummary.exitCode
  split
  · exact Or.inl rfl
  · exact Or.inr rfl

/-- A case has passed when its report was made and compared, and the comparison found what the case
expects. -/
theorem RunOptions.Accounts.passed_iff_found {c : TestCase} {a : Answers} {outcome : CaseOutcome}
    (ha : o.Accounts c a outcome) : outcome.state = .passed ↔ a.generation = some (.done ()) ∧
      ∃ m, a.comparison = some (.done m) ∧ m = (o.expectationOf c).expectedMatch := by
  rw [ha.passed_iff_meets, RunOptions.Meets]
  -- The report was called for, so it has a place of its own.
  refine ⟨fun hmeets => hmeets.2, fun hmeets => ⟨fun hsame => ?_, hmeets⟩⟩
  rw [ha.calls.generation.2 hsame] at hmeets
  cases hmeets.1

/-- **The status of a run that verifies** is zero exactly when the report of every case was made and
compared, and the comparison found what the case expects. -/
theorem Verifies.exitCode_eq_zero_iff {w v : W} {summary : RunSummary}
    (run : Verifies h o cases w summary v) :
    ∃ courses, Reached h o cases w courses v ∧ courses.map Course.testCase = cases ∧
      (summary.exitCode = 0 ↔ ∀ k ∈ courses, k.answers.generation = some (.done ()) ∧
        ∃ m, k.answers.comparison = some (.done m) ∧
          m = (o.expectationOf k.testCase).expectedMatch) := by
  obtain ⟨courses, hreached, hcases, haccounts⟩ := run.exists_courses
  refine ⟨courses, hreached, hcases, ?_⟩
  rw [RunSummary.exitCode_eq_zero_iff]
  clear hreached hcases run
  generalize summary.outcomes = outcomes at haccounts
  induction haccounts with
  | nil => simp
  | cons ha hrest ih => simp [ha.passed_iff_found, ih]

/-- The status of a run that makes references anew is zero exactly when each call was done. -/
theorem blessAnswer_status (calls told : List BlessCall) (hperm : told.Perm calls) (v : Desk) :
    let status := (blessAnswer (told.map BlessCall.outcome) v).1
    (status = 0 ∨ status = 1) ∧ (status = 0 ↔ ∀ call ∈ calls, call.2 = .done ()) := by
  have hnone : blessFailures (told.map BlessCall.outcome) = 0 ↔ ∀ call ∈ calls, call.2 = .done () := by
    rw [blessFailures, List.countP_eq_zero]
    simp only [List.forall_mem_map, hperm.mem_iff]
    refine forall₂_congr fun call _ => ?_
    rcases call with ⟨c, _ | _ | _⟩ <;> simp [BlessCall.outcome, blessFailure?]
  rw [← hnone]
  rcases Nat.eq_zero_or_pos (blessFailures (told.map BlessCall.outcome)) with hzero | hpos
  · simp [blessAnswer, hzero]
  · simp [blessAnswer, hpos, Nat.ne_of_gt hpos]

end

/-! ### The main result -/

/-- **The exit status tells the truth**, whatever the files are, and whatever programs do when they are
started. A command line is carried out by one of its runs. When the files or the names are not fit for it,
every run has the status `2` and changes nothing but what was said, and neither depends on what any program
does. When they are fit, a run works in the directory of the table on the cases that are asked for. One
that verifies has the status `0` exactly when the report of each case was made and compared, and the
comparison found what the case expects, or the harness where the case does not say it; else `1`. One that
makes references anew has the status `0` exactly when each call was done; else `1`. One that shows the
table has the status `0`. -/
theorem exit_status_tells_the_truth (inv : Invocation) (d : Desk) :
    (∀ start, inv.Runs start d (inv.execute start d).1 (inv.execute start d).2) ∧
    ((∀ raw, ¬ inv.IsFit d.world raw) → ∃ text, ∀ start status v, inv.Runs start d status v →
      status = 2 ∧ v = d.complain text) ∧
    ∀ raw, inv.IsFit d.world raw → ∃ config world, resolve raw = .ok config ∧
      d.world.Enters inv.config world ∧
      let cases := config.chosen inv.command.wanted
      ∀ start status v, inv.Runs start d status v →
        (∀ run clean json, inv.command = .verify run clean json → (status = 0 ∨ status = 1) ∧
          ∃ courses, Reached (config.verifier start json inv.verbose)
              (config.harness.runOptions.override run clean) cases { d with world } courses v ∧
            courses.map Course.testCase = cases ∧
            (status = 0 ↔ ∀ k ∈ courses, k.answers.generation = some (.done ()) ∧
              ∃ m, k.answers.comparison = some (.done m) ∧
                m = (k.testCase.expect.getD config.harness.expect).expectedMatch)) ∧
        (∀ run, inv.command = .bless run → (status = 0 ∨ status = 1) ∧
          ∃ calls left, Remakes (config.blesser start) calls { d with world } left ∧
            v.world = left.world ∧ (calls.map Prod.fst).Perm cases ∧
            (status = 0 ↔ ∀ call ∈ calls, call.2 = .done ())) ∧
        (∀ json, inv.command = .list json → status = 0) := by
  refine ⟨fun start => inv.execute_runs start d, fun hunfit => ?_, fun raw hfit => ?_⟩
  · cases hready : inv.ready? d with
    | ok ready =>
      obtain ⟨raw, hfit⟩ := Invocation.exists_ready?_iff.1 ⟨ready, hready⟩
      exact absurd hfit (hunfit raw)
    | error e => exact ⟨_, fun start status v hruns => hruns.of_error hready⟩
  · obtain ⟨config, hresolve⟩ := (isAccepted_iff raw).2 hfit.sound
    obtain ⟨world, henters⟩ := hfit.directory
    have hready := Invocation.ready?_eq_ok_iff.2 ⟨raw, world, hfit, hresolve, rfl, henters, rfl⟩
    refine ⟨config, world, hresolve, henters, fun start status v hruns => ?_⟩
    cases hruns with
    | refused hunready => cases hready.symm.trans hunready
    | verified hok hasked hverifies =>
      cases hready.symm.trans hok
      refine ⟨fun run clean json hcommand => ?_, by simp [hasked], by simp [hasked]⟩
      cases hasked.symm.trans hcommand
      exact ⟨RunSummary.exitCode_cases _, hverifies.exitCode_eq_zero_iff⟩
    | @blessed _ _ _ left _ calls told hok hasked hblesses =>
      cases hready.symm.trans hok
      refine ⟨by simp [hasked], fun run hcommand => ?_, by simp [hasked]⟩
      obtain ⟨hcases, hzero⟩ := blessAnswer_status calls told hblesses.perm left
      refine ⟨hcases, calls, left, hblesses.remakes, rfl, ?_, hzero⟩
      rw [← hblesses.order]
      exact (hblesses.perm.map Prod.fst).symm
    | listed hok hasked =>
      exact ⟨by simp [hasked], by simp [hasked], fun _ _ => rfl⟩

/-- The text of a table of one case. -/
def shortText : String :=
  "[engine]\nprogram = 'analyse'\n[[cases]]\nname = 'vault'\nroot = 'vault'\nreference = 'vault.md'\n"

/-- What that text says. -/
def shortTable : RawConfig where
  engine := ⟨"analyse", [], none, none⟩
  harness := .unset
  cases := [
    { name := "vault", description := "", root := .ofText "vault", reference := .ofText "vault.md",
      args := [], env := .empty, setup := none, expect := none }]

/-- A desk with that table and nothing else. -/
def shortDesk : Desk :=
  .ofWorld ⟨{ entries := [([Utf8.encode "reportgen.toml"], .file (Utf8.encode shortText))] }, []⟩ ⟨0, 0⟩

/-- A command line that asks for the case of a name to be verified. -/
def shortInvocation (name : String) : Invocation :=
  ⟨.ofText "reportgen.toml", false, .verify ⟨[name], false, none⟩ false false⟩

theorem shortDesk_holdsTable :
    shortDesk.world.HoldsTable (.ofText "reportgen.toml") shortTable := by
  have hread : shortDesk.world.read (.ofText "reportgen.toml") = .ok (Utf8.encode shortText) := by
    decide +kernel
  have hdecode : Utf8.decode? (Utf8.encode shortText) = some shortText := by decide +kernel
  have hparse : (Toml.parse? shortText).map (fun table => (RawConfig.ofTable table).toOption) =
      some (some shortTable) := by decide +kernel
  obtain ⟨table, htable, hraw⟩ := Option.map_eq_some_iff.1 hparse
  refine ⟨_, _, table, hread, hdecode, htable, ?_⟩
  cases h : RawConfig.ofTable table <;> simp_all [Except.toOption]

/-- Whatever programs do: asking for a case that the table does not have ends with `2` and leaves the
files alone, and asking for its case ends with `0` or `1`. -/
theorem short_invocation_told :
    (∀ start, ((shortInvocation "token").execute start shortDesk).1 = 2 ∧
      ((shortInvocation "token").execute start shortDesk).2.world = shortDesk.world) ∧
    ∀ start, ((shortInvocation "vault").execute start shortDesk).1 = 0 ∨
      ((shortInvocation "vault").execute start shortDesk).1 = 1 := by
  have hunfit : ∀ raw, ¬ (shortInvocation "token").IsFit shortDesk.world raw := fun raw hfit => by
    obtain rfl := hfit.table.unique shortDesk_holdsTable
    have hnames := hfit.names "token" (by simp [shortInvocation, Command.wanted])
    simp [shortTable] at hnames
  have hfit : (shortInvocation "vault").IsFit shortDesk.world shortTable := by
    have hparent : (Path.ofText "reportgen.toml").parent? = some ⟨[]⟩ := by decide
    refine ⟨shortDesk_holdsTable, (isAccepted_iff _).1 ⟨_, by rfl⟩,
      ⟨shortDesk.world, fun directory hdirectory hne => ?_, fun _ => rfl⟩,
      by simp [shortInvocation, Command.wanted, shortTable]⟩
    cases hparent.symm.trans hdirectory
    cases hne
  have htoken := exit_status_tells_the_truth (shortInvocation "token") shortDesk
  have hvault := exit_status_tells_the_truth (shortInvocation "vault") shortDesk
  obtain ⟨text, htext⟩ := htoken.2.1 hunfit
  obtain ⟨config, world, -, -, hruns⟩ := hvault.2.2 shortTable hfit
  refine ⟨fun start => ?_, fun start => ((hruns start _ _ (hvault.1 start)).1 _ _ _ rfl).1⟩
  obtain ⟨hstatus, hdesk⟩ := htext start _ _ (htoken.1 start)
  exact ⟨hstatus, by rw [hdesk]; rfl⟩

end GoldenCheck
