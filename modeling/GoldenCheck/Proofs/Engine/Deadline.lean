import GoldenCheck.Proofs.Config.TimeLimit
import GoldenCheck.Proofs.Engine.Waiting

/-!
# Deadlines and the clock

The deadline of an engine comes a time limit after its start. It is computed when the engine was started, and
past the last second of the clock there is none: then the run breaks off, and nobody waits for the engine. With
an accepted table this is so exactly when the limit is more than the clock has left
(`left_running_exactly_past_the_clock`). In all other cases the engine is waited for until it has ended or was
killed.

Nothing keeps a table from asking for too much: `endless_limit_breaks_off` is about one that does as soon as
the clock has shown its first second.
-/

namespace GoldenCheck

namespace Engine

variable {launch : Launcher World} {engine : EngineSettings} {c : TestCase} {root output : Path}
  {args : List String} {env : Environment} {staging : Location} {d : Desk} {now : Instant}
  {result : ProcessResult} {message : Option String}

/-! ### Runs that break off -/

/-- The engine is started when the report of a case is made: the case is ready for its run, there can be a staging
file, and the engine can be started. -/
structure Starts (launch : Launcher World) (engine : EngineSettings) (c : TestCase) (output : Path)
    (d : Desk) : Prop extends IsPrepared launch c d where
  started : ∃ staging w, staged? (afterSetup launch c d).world output = some (staging, w) ∧
    ∀ cause, (launch (request engine c.root c.args c.env staging) w).1 ≠ .notStarted cause

/-- The answer breaks off for an engine that was started, when there is no deadline. -/
theorem answer_eq_brokenOff_iff : answer engine now result = .brokenOff message ↔
    message = some overflowText ∧ (∀ cause, result ≠ .notStarted cause) ∧ ¬ IsInTime engine now := by
  rw [← map_add?_eq_some_none_iff]
  cases result with
  | notStarted cause => simp [answer]
  | outOfTime =>
    simp only [answer]
    split <;> simp_all [eq_comm]
  | ended how out errors =>
    simp only [answer]
    split
    · simp_all [eq_comm]
    · split <;> simp_all

/-- A report is published or it is not: that does not break off. -/
theorem publish_ne_brokenOff (w : World) : (publish engine w staging output).1 ≠ .brokenOff message := by
  unfold publish
  split
  · exact nofun
  · split <;> exact nofun

theorem runStaged_eq_brokenOff_iff :
    (runStaged launch engine root output args env staging d).1 = .brokenOff message ↔
      answer engine d.now (launch (request engine root args env staging) d.world).1 =
        .brokenOff message := by
  unfold runStaged
  simp only
  split
  · rename_i hdone
    exact iff_of_false (publish_ne_brokenOff _) (by simp [hdone])
  · rfl

/-- A run breaks off when its engine was started and there is no deadline. -/
theorem run_eq_brokenOff_iff : (run launch engine root output args env d).1 = .brokenOff message ↔
    checkRoot d.world root = .ok () ∧ ∃ staging w, staged? d.world output = some (staging, w) ∧
      answer engine d.now (launch (request engine root args env staging) w).1 = .brokenOff message := by
  unfold run staged?
  cases hroot : checkRoot d.world root with
  | error e => simp
  | ok =>
    obtain ⟨made, w⟩ := d.world.makeAllDirectories (Staging.directoryOf output)
    cases made with
    | error cause => simp
    | ok =>
      cases hmake : Staging.make w output with
      | error cause => simp [hmake, Except.toOption]
      | ok result =>
        obtain ⟨staging, v⟩ := result
        simp [hmake, Except.toOption, runStaged_eq_brokenOff_iff]

/-- Making the report of a case breaks off where the run of the engine does, after the setup command. -/
theorem generateCase_eq_brokenOff_iff_run :
    (generateCase launch engine c output d).1 = .brokenOff message ↔
      checkRoot d.world c.root = .ok () ∧
      (∀ argv, c.setup = some argv → (setUp launch c argv d).1 = .done ()) ∧
      (run launch engine c.root output c.args c.env (afterSetup launch c d)).1 = .brokenOff message := by
  refine ⟨fun h => ?_, fun ⟨hroot, hsetup, hrun⟩ => ?_⟩
  · rcases isPrepared_or_failed launch engine c output d with ⟨hroot, hsetup, -⟩ | ⟨⟨e, hfailed⟩, -⟩
    · rw [generateCase_eq_run hroot hsetup] at h
      exact ⟨hroot, hsetup, h⟩
    · rw [hfailed] at h
      cases h
  · rw [generateCase_eq_run hroot hsetup]
    exact hrun

/-- **Making the report of a case breaks off** when the engine was started and there is no deadline. -/
theorem generateCase_eq_brokenOff_iff :
    (generateCase launch engine c output d).1 = .brokenOff message ↔
      message = some overflowText ∧ Starts launch engine c output d ∧ ¬ IsInTime engine d.now := by
  rw [generateCase_eq_brokenOff_iff_run, run_eq_brokenOff_iff, afterSetup_now]
  simp only [answer_eq_brokenOff_iff]
  constructor
  · rintro ⟨hroot, hsetup, hstill, staging, w, hstaged, hmessage, hstarted, hclock⟩
    exact ⟨hmessage, ⟨⟨hroot, hsetup, hstill⟩, staging, w, hstaged, hstarted⟩, hclock⟩
  · rintro ⟨hmessage, ⟨⟨hroot, hsetup, hstill⟩, staging, w, hstaged, hstarted⟩, hclock⟩
    exact ⟨hroot, hsetup, hstill, staging, w, hstaged, hmessage, hstarted, hclock⟩

/-! ### Waits that end -/

/-- The engine is waited for, when it is started at a reading of the clock. -/
structure IsWaitedFor (engine : EngineSettings) (now : Instant) : Prop where
  /-- A wait that is over has an answer. -/
  settled : ∀ rounds w, (Waiting.start engine.timeout now).after rounds = .finished w →
    Settled engine.timeout w
  /-- The engine has ended or was killed, unless the system refuses to wait without a limit. -/
  kept : ∀ rounds w, (Waiting.start engine.timeout now).after rounds = .finished w →
    w.fate ≠ .left ∨
      engine.timeout = none ∧ ∃ cause, w.answer = .failed (.analysisFailure (waitText cause))
  /-- The wait is over when the engine does not run any more. -/
  ended : ∀ rounds, (∃ r ∈ rounds, r.look ≠ .running) →
    ∃ w, (Waiting.start engine.timeout now).after rounds = .finished w
  /-- Under a limit it is over when the rounds fill the limit. -/
  limited : ∀ limit rounds, engine.timeout = some limit → Waiting.IsPaced now.nanos rounds →
    limit.nanos + pollInterval.nanos ≤ rounds.length * pollInterval.nanos →
    ∃ w, (Waiting.start engine.timeout now).after rounds = .finished w

theorem Settled.kept {limit : Option Duration} {w : Waited} (h : Settled limit w) :
    w.fate ≠ .left ∨
      limit = none ∧ ∃ cause, w.answer = .failed (.analysisFailure (waitText cause)) := by
  cases h with
  | ended | outOfTime | unpolled => exact Or.inl nofun
  | unwaited cause => exact Or.inr ⟨rfl, cause, rfl⟩

/-- **An engine with a deadline is waited for.** -/
theorem IsInTime.isWaitedFor (h : IsInTime engine now) : IsWaitedFor engine now := by
  refine ⟨fun rounds w hwait => h.settled hwait, fun rounds w hwait => (h.settled hwait).kept,
    fun rounds hlook => Waiting.ends_of_look hlook, fun limit rounds hlimit hpaced hlong => ?_⟩
  obtain ⟨deadline, hadd⟩ := Option.ne_none_iff_exists'.1 (h limit hlimit)
  obtain ⟨hnanos, hdeadline⟩ := Instant.nanos_of_add? hadd
  have hpoll : pollInterval.nanos = 25000000 := by decide
  have hstart : Waiting.start engine.timeout now = .limited limit deadline := by
    simp [Waiting.start, hlimit, hadd]
  rw [hstart]
  refine Waiting.limited_ends hdeadline hpaced ?_ ?_
  · omega
  · rw [hpoll] at hlong ⊢
    omega

end Engine

/-! ### The main result -/

open Engine in
/-- **An engine is left running exactly past the clock.** Say that a text is accepted as a table, and that the
clock shows `now` when the engine is started. A time limit of the table is a number of whole seconds, up to the
last second of the clock. Its deadline is past the clock exactly when the limit is more than the seconds that
are left. Making a report breaks off exactly when that is so and the engine was started; then the wait is over
before its first round, and the engine is left running. Otherwise the engine is waited for: the wait comes to
its end, and the engine has ended or was killed, unless there is no limit and the system refuses to wait. What a
run makes of the result of the engine is what the wait says about it. -/
theorem left_running_exactly_past_the_clock {text : String} {config : Config}
    (h : Config.ofText text = .ok config) {now : Instant} (hnow : now.IsReading) :
    (∀ limit, config.engine.timeout = some limit →
      limit.nanoseconds = 0 ∧ (limit.seconds : Int) ≤ Instant.lastSecond) ∧
    (¬ IsInTime config.engine now ↔
      ∃ limit, config.engine.timeout = some limit ∧ Instant.lastSecond < now.seconds + limit.seconds) ∧
    (∀ launch c output d message, d.now = now →
      ((generateCase launch config.engine c output d).1 = .brokenOff message ↔
        message = some overflowText ∧ Starts launch config.engine c output d ∧
          ¬ IsInTime config.engine now)) ∧
    (¬ IsInTime config.engine now → ∀ rounds,
      (Waiting.start config.engine.timeout now).after rounds =
        .finished ⟨.brokenOff overflowText, .left⟩) ∧
    (IsInTime config.engine now → IsWaitedFor config.engine now) ∧
    ∀ rounds w result, (Waiting.start config.engine.timeout now).after rounds = .finished w →
      w.Reports result →
      Engine.answer config.engine now result = afterWait config.engine (said result).2 w.answer := by
  have hlimit : ∀ limit, config.engine.timeout = some limit →
      limit.nanoseconds = 0 ∧ (limit.seconds : Int) ≤ Instant.lastSecond := fun _ => Config.timeout_le h
  refine ⟨hlimit, ?_, ?_, ?_, IsInTime.isWaitedFor, fun rounds w result => answer_eq_afterWait⟩
  · simp only [IsInTime, not_forall, not_not, exists_prop]
    refine exists_congr fun limit => and_congr_right fun heq => ?_
    exact Instant.add?_eq_none_iff hnow.nanoseconds (hlimit limit heq).1
  · rintro launch c output d message rfl
    exact generateCase_eq_brokenOff_iff
  · intro hclock rounds
    obtain ⟨limit, heq, hadd⟩ := Option.map_eq_some_iff.1 (map_add?_eq_some_none_iff.2 hclock)
    rw [heq, Waiting.start_eq_finished hadd, Waiting.after_finished]

/-- The text of a table that asks for as many seconds as the clock has. -/
def endlessText : String :=
  "[engine]\nprogram = 'analyse'\ntimeout_secs = 9223372036854775807\n[[cases]]\nname = 'vault'\n" ++
    "root = 'vault'\nreference = 'vault.md'\n"

/-- What that text says. -/
def endlessTable : RawConfig where
  engine := ⟨"analyse", [], none, some 9223372036854775807⟩
  harness := .unset
  cases := [
    { name := "vault", description := "", root := .ofText "vault", reference := .ofText "vault.md",
      args := [], env := .empty, setup := none, expect := none }]

/-- What the table becomes. -/
def endlessConfig : Config where
  engine := ⟨"analyse", [], "-o", some ⟨9223372036854775807, 0⟩⟩
  harness := ⟨⟨[Path.dot]⟩, Path.defaultSuffix, .identical, .inProcess, false, none⟩
  cases := [Engine.sampleCase]

theorem ofText_endlessText : Config.ofText endlessText = .ok endlessConfig := by
  have hparse : (Toml.parse? endlessText).map (fun table => (RawConfig.ofTable table).toOption) =
      some (some endlessTable) := by decide +kernel
  obtain ⟨table, htable, hraw⟩ := Option.map_eq_some_iff.1 hparse
  refine Config.ofText_eq_ok_iff.2 ⟨table, endlessTable, htable, ?_, by rfl⟩
  cases h : RawConfig.ofTable table <;> simp_all [Except.toOption]

open Engine in
/-- In the first second of the clock the engine of that table is waited for, and in the next one it has no
deadline. -/
theorem endless_limit_told :
    IsWaitedFor endlessConfig.engine ⟨0, 0⟩ ∧ ¬ IsInTime endlessConfig.engine ⟨1, 0⟩ := by
  have hfirst : Instant.IsReading ⟨0, 0⟩ := ⟨by decide, by decide, by decide⟩
  have hnext : Instant.IsReading ⟨1, 0⟩ := ⟨by decide, by decide, by decide⟩
  obtain ⟨-, -, -, -, hwaited, -⟩ := left_running_exactly_past_the_clock ofText_endlessText hfirst
  obtain ⟨-, hshort, -⟩ := left_running_exactly_past_the_clock ofText_endlessText hnext
  refine ⟨hwaited fun limit hlimit => ?_, hshort.2 ⟨_, rfl, by decide⟩⟩
  cases hlimit
  decide

/-- A desk when the clock shows one second. -/
def nextDesk : Desk := { Engine.sampleDesk with now := ⟨1, 0⟩ }

set_option maxRecDepth 8000 in
open Engine in
/-- The table is accepted. When the clock shows one second there is no deadline for its engine: a run that has
started it breaks off, and leaves it running. -/
theorem endless_limit_breaks_off : Config.ofText endlessText = .ok endlessConfig ∧
    nextDesk.now.IsReading ∧
    endlessConfig.engine.timeout.map nextDesk.now.add? = some none ∧
    Starts sampleLaunch endlessConfig.engine sampleCase (.ofText "out/vault.md") nextDesk ∧
    (generateCase sampleLaunch endlessConfig.engine sampleCase (.ofText "out/vault.md") nextDesk).1 =
      .brokenOff overflowText ∧
    Waiting.start endlessConfig.engine.timeout nextDesk.now =
      .finished ⟨.brokenOff overflowText, .left⟩ := by
  have hstaged : (staged? (afterSetup sampleLaunch sampleCase nextDesk).world
      (.ofText "out/vault.md")).map Prod.fst = some sampleStaging := by rfl
  obtain ⟨⟨staging, w⟩, hmade, -⟩ := Option.map_eq_some_iff.1 hstaged
  have hstarts : Starts sampleLaunch endlessConfig.engine sampleCase (.ofText "out/vault.md") nextDesk :=
    ⟨⟨by rfl, nofun, by rfl⟩, staging, w, hmade, fun _ => nofun⟩
  exact ⟨ofText_endlessText, ⟨by decide, by decide, by decide⟩, by decide, hstarts, by rfl, by rfl⟩

end GoldenCheck
