import GoldenCheck.Engine.Waiting
import GoldenCheck.Proofs.Engine.AllOrNothing

/-!
# What becomes of an engine that was started

A wait that does not break off knows what has become of the engine: it has ended and was waited for, or it was
killed (`Settled`). That is kept by each round (`Waiting.IsWithin.step`), and so by the whole wait. With a time
limit the wait comes to its end, because the clock goes on between the rounds (`Waiting.limited_ends`).

What a run makes of the result of a program (`answer`) is what the wait says about it
(`answer_eq_afterWait`).
-/

namespace GoldenCheck

/-! ### Readings of the clock -/

/-- All nanoseconds of a length of time. -/
def Duration.nanos (d : Duration) : Nat := d.seconds * nanosPerSecond + d.nanoseconds

namespace Instant

variable {now later deadline : Instant} {d : Duration}

/-- All nanoseconds of a reading. -/
def nanos (i : Instant) : Int := i.seconds * Duration.nanosPerSecond + i.nanoseconds

/-- A reading that the clock can show, not before its beginning. -/
structure IsReading (i : Instant) : Prop where
  nonneg : 0 ≤ i.seconds
  shown : i.seconds ≤ lastSecond
  nanoseconds : i.nanoseconds < Duration.nanosPerSecond

theorem reaches_iff (hnow : now.nanoseconds < Duration.nanosPerSecond)
    (hdeadline : deadline.nanoseconds < Duration.nanosPerSecond) :
    now.reaches deadline = true ↔ deadline.nanos ≤ now.nanos := by
  simp only [reaches, nanos, Bool.or_eq_true, Bool.and_eq_true, decide_eq_true_eq, beq_iff_eq,
    Duration.nanosPerSecond] at *
  omega

theorem nanos_of_add? (h : now.add? d = some later) :
    later.nanos = now.nanos + d.nanos ∧ later.nanoseconds < Duration.nanosPerSecond := by
  unfold add? at h
  simp only at h
  split at h
  · cases h
    simp only [nanos, Duration.nanos, Duration.nanosPerSecond]
    omega
  · cases h

/-- **The sum overflows** when the seconds are past the last one, for whole seconds. -/
theorem add?_eq_none_iff (hnow : now.nanoseconds < Duration.nanosPerSecond) (hd : d.nanoseconds = 0) :
    now.add? d = none ↔ lastSecond < now.seconds + d.seconds := by
  unfold add?
  simp only
  split <;> rename_i hshown <;> simp only [Duration.nanosPerSecond] at hnow hshown
  · simp only [reduceCtorEq, false_iff]
    omega
  · simp only [true_iff]
    omega

end Instant

namespace Engine

variable {engine : EngineSettings} {limit : Option Duration} {now deadline : Instant} {w : Waited}
  {s : Waiting} {rounds : List Round} {result : ProcessResult} {message : Option String}

/-! ### Waits that do not break off -/

/-- A wait that did not break off, by its time limit: each answer with what has become of the engine. -/
inductive Settled : Option Duration → Waited → Prop where
  | ended (limit : Option Duration) (how : ProcessEnd) : Settled limit ⟨.done how, .waitedFor⟩
  | outOfTime (limit : Duration) : Settled (some limit) ⟨.failed (.timeout limit), .killed⟩
  | unpolled (limit : Duration) (cause : SystemError) :
    Settled (some limit) ⟨.failed (.analysisFailure (pollText cause)), .killed⟩
  | unwaited (cause : SystemError) :
    Settled none ⟨.failed (.analysisFailure (waitText cause)), .left⟩

namespace Waiting

/-- A wait under a time limit that did not break off. -/
def IsWithin (limit : Option Duration) : Waiting → Prop
  | .unlimited => limit = none
  | .limited l _ => limit = some l
  | .finished w => Settled limit w

theorem after_cons (s : Waiting) (r : Round) (rounds : List Round) :
    s.after (r :: rounds) = (s.step r).after rounds := rfl

/-- A round does not make a wait break off. -/
theorem IsWithin.step (h : s.IsWithin limit) (r : Round) : (s.step r).IsWithin limit := by
  cases s with
  | finished w => exact h
  | unlimited =>
    obtain rfl : limit = none := h
    unfold Waiting.step
    cases r.look with
    | ended how => exact .ended _ how
    | running => rfl
    | unreadable cause => exact .unwaited cause
  | limited l deadline =>
    obtain rfl : limit = some l := h
    simp only [Waiting.step]
    cases r.look with
    | ended how => exact .ended _ how
    | running =>
      simp only
      split
      · exact .outOfTime l
      · rfl
    | unreadable cause => exact .unpolled l cause

/-- Nor do all of them. -/
theorem IsWithin.after (h : s.IsWithin limit) (rounds : List Round) : (s.after rounds).IsWithin limit := by
  induction rounds generalizing s with
  | nil => exact h
  | cons r rounds ih =>
    rw [after_cons]
    exact ih (h.step r)

/-- A wait that is over stays so. -/
theorem after_finished (w : Waited) (rounds : List Round) : (finished w).after rounds = .finished w := by
  induction rounds with
  | nil => rfl
  | cons r rounds ih => exact ih

/-- A wait whose deadline the clock can show does not break off. -/
theorem start_isWithin (h : ∀ l, limit = some l → now.add? l ≠ none) :
    (start limit now).IsWithin limit := by
  unfold start
  cases limit with
  | none => rfl
  | some l =>
    cases hadd : now.add? l with
    | none => exact absurd hadd (h l rfl)
    | some deadline => simp [hadd, IsWithin]

/-- A wait whose deadline the clock cannot show breaks off. -/
theorem start_eq_finished {l : Duration} (hadd : now.add? l = none) :
    start (some l) now = .finished ⟨.brokenOff overflowText, .left⟩ := by
  simp [start, hadd]

/-! ### The end of a wait -/

/-- A look at an engine that does not run any more ends the wait. -/
theorem exists_step_of_look {r : Round} (h : r.look ≠ .running) (s : Waiting) :
    ∃ w, s.step r = .finished w := by
  unfold Waiting.step
  cases s with
  | finished w => exact ⟨w, rfl⟩
  | unlimited | limited =>
    cases hlook : r.look with
    | running => exact absurd hlook h
    | ended | unreadable => exact ⟨_, rfl⟩

theorem ends_of_look (h : ∃ r ∈ rounds, r.look ≠ .running) : ∃ w, s.after rounds = .finished w := by
  induction rounds generalizing s with
  | nil => simp at h
  | cons r rounds ih =>
    by_cases hlook : r.look = .running
    · exact ih (by simpa [hlook] using h)
    · obtain ⟨w, hfinished⟩ := exists_step_of_look hlook s
      exact ⟨w, by rw [after_cons, hfinished, after_finished]⟩

/-- Rounds of which the first is not before a time, each with the clock further on by `pollInterval`. -/
def IsPaced : Int → List Round → Prop
  | _, [] => True
  | earliest, r :: rounds =>
    r.now.nanoseconds < Duration.nanosPerSecond ∧ earliest ≤ r.now.nanos ∧
      IsPaced (r.now.nanos + pollInterval.nanos) rounds

/-- **A wait under a time limit comes to its end**, after so many rounds as fill the time that is left. -/
theorem limited_ends {l : Duration} {earliest : Int}
    (hdeadline : deadline.nanoseconds < Duration.nanosPerSecond)
    (hpaced : IsPaced earliest rounds) (hearly : earliest < deadline.nanos + pollInterval.nanos)
    (hlong : deadline.nanos + pollInterval.nanos ≤ earliest + rounds.length * pollInterval.nanos) :
    ∃ w, (limited l deadline).after rounds = .finished w := by
  induction rounds generalizing earliest with
  | nil =>
    simp only [List.length_nil] at hlong
    omega
  | cons r rounds ih =>
    obtain ⟨hr, hreading, hrest⟩ := hpaced
    by_cases hlook : r.look = .running
    · by_cases hreached : r.now.reaches deadline = true
      · have hstep : (limited l deadline).step r = .finished ⟨.failed (.timeout l), .killed⟩ := by
          simp [Waiting.step, hlook, hreached]
        exact ⟨_, by rw [after_cons, hstep, after_finished]⟩
      · have hstep : (limited l deadline).step r = .limited l deadline := by
          simp [Waiting.step, hlook, hreached]
        have hbefore : r.now.nanos < deadline.nanos := by
          rw [Instant.reaches_iff hr hdeadline] at hreached
          omega
        have hleft : deadline.nanos + pollInterval.nanos ≤
            r.now.nanos + pollInterval.nanos + rounds.length * pollInterval.nanos := by
          simp only [List.length_cons] at hlong
          push_cast at hlong
          rw [Int.add_mul] at hlong
          omega
        obtain ⟨w, hw⟩ := ih hrest (by omega) hleft
        exact ⟨w, by rw [after_cons, hstep, hw]⟩
    · exact ends_of_look ⟨r, List.mem_cons_self, hlook⟩

end Waiting

/-- What is known of a wait that is over, for an engine with a deadline. -/
theorem IsInTime.settled (h : IsInTime engine now)
    (hwait : (Waiting.start engine.timeout now).after rounds = .finished w) : Settled engine.timeout w := by
  have hwithin := (Waiting.start_isWithin h).after rounds
  rwa [hwait] at hwithin

/-! ### What a run makes of it -/

/-- What is told of a program by the wait for it. A wait that broke off tells nothing of a program that was
started. -/
inductive Waited.Reports : Waited → ProcessResult → Prop where
  | ended (how : ProcessEnd) (output errors : Bytes) :
    Reports ⟨.done how, .waitedFor⟩ (.ended how output errors)
  | outOfTime (limit : Duration) : Reports ⟨.failed (.timeout limit), .killed⟩ .outOfTime
  | brokenOff {result : ProcessResult} (message : Option String)
    (started : ∀ cause, result ≠ .notStarted cause) : Reports ⟨.brokenOff message, .left⟩ result

/-- The deadline is past what the clock can show when an engine has a limit, and adding it has no result. -/
theorem map_add?_eq_some_none_iff : engine.timeout.map now.add? = some none ↔ ¬ IsInTime engine now := by
  simp [IsInTime, Option.map_eq_some_iff]

/-- **What a run makes of the result of an engine** is what the wait for the engine says about it. -/
theorem answer_eq_afterWait (hwait : (Waiting.start engine.timeout now).after rounds = .finished w)
    (hreports : w.Reports result) :
    answer engine now result = afterWait engine (said result).2 w.answer := by
  by_cases hclock : IsInTime engine now
  · have hnone : ¬ engine.timeout.map now.add? = some none := fun h =>
      map_add?_eq_some_none_iff.1 h hclock
    have hsettled := hclock.settled hwait
    generalize hlimit : engine.timeout = timeout at hsettled
    cases hreports with
    | ended how output errors => exact if_neg hnone
    | outOfTime limit =>
      cases hsettled
      exact (if_neg hnone).trans (by rw [hlimit]; rfl)
    | brokenOff message started => cases hsettled
  · have hsome := map_add?_eq_some_none_iff.2 hclock
    obtain ⟨limit, hlimit, hadd⟩ := Option.map_eq_some_iff.1 hsome
    rw [hlimit, Waiting.start_eq_finished hadd, Waiting.after_finished] at hwait
    cases hwait
    cases hreports with
    | brokenOff message started =>
      cases result with
      | notStarted cause => exact absurd rfl (started cause)
      | ended | outOfTime => simp [answer, hsome, afterWait]

end Engine

end GoldenCheck
