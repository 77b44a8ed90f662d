import GoldenCheck.Clock
import GoldenCheck.Proofs.CommandLine.Loading
import GoldenCheck.Proofs.Toml.Integers

/-!
# The time limit of an accepted table

The time limit is written as a number of seconds. The integers of a document have 64 bits (`Toml.parse?_fits`),
and what is read of a document fits as its parts do (`exists_of_optionalField`), so that a number that is not
negative has 63 (`le_of_asCount`). No rule bounds it further: what an accepted table can ask for goes as far as
the seconds of the clock (`Config.timeout_le`).
-/

namespace GoldenCheck

section

variable {members : Toml.Table} {name : String} {v : Toml}

theorem Toml.Table.fits_of_get? (h : ∀ m ∈ members, m.2.Fits) (hfound : members.get? name = some v) :
    v.Fits := by
  obtain ⟨before, after, rfl, -⟩ := List.lookup_eq_some_iff.1 hfound
  exact h (name, v) (by simp)

/-- The members of a record fit when its value does. -/
theorem RecordShape.fits_of_members {shape : RecordShape} (h : v.Fits)
    (hmembers : shape.members v = .ok members) : ∀ m ∈ members, m.2.Fits := by
  unfold RecordShape.members at hmembers
  split at hmembers
  · cases hmembers
    cases h with
    | table h => exact h
  · cases hmembers
    cases h with
    | array h => exact fun m hm => h m.2 (List.of_mem_zip hm).2
  · cases hmembers
    exact List.forall_mem_singleton.2 (.text _)
  · cases hmembers

/-- A field that was read comes from a value that fits. -/
theorem exists_of_optionalField {α : Type} {read : ValueReader α} {x : α} (h : ∀ m ∈ members, m.2.Fits)
    (hread : optionalField members name read = .ok (some x)) : ∃ v, v.Fits ∧ read v = .ok x := by
  unfold optionalField at hread
  cases hfound : members.get? name with
  | none => simp [hfound, pure, Except.pure] at hread
  | some v =>
    refine ⟨v, Toml.Table.fits_of_get? h hfound, ?_⟩
    cases hv : read v with
    | error e => simp [hfound, hv, Functor.map, Except.map] at hread
    | ok y => simpa [hfound, hv, Functor.map, Except.map] using hread

/-- A count that was read has 63 bits. -/
theorem le_of_asCount {kind : String} {n : Nat} (h : v.Fits) (hread : asCount kind v = .ok n) :
    (n : Int) ≤ Instant.lastSecond := by
  unfold asCount at hread
  split at hread
  · split at hread
    · cases hread
      cases h with
      | integer h =>
        simp only [Toml.isInt64, Bool.and_eq_true, decide_eq_true_eq] at h
        rw [Instant.lastSecond]
        omega
    · cases hread
  · cases hread

theorem RawEngine.timeoutSecs_le {e : RawEngine} {n : Nat} (h : v.Fits) (hread : RawEngine.ofValue v = .ok e)
    (hn : e.timeoutSecs = some n) : (n : Int) ≤ Instant.lastSecond := by
  unfold RawEngine.ofValue at hread
  obtain ⟨members, hmembers, hread⟩ := bind_eq_ok_iff.1 hread
  obtain ⟨-, -, hread⟩ := bind_eq_ok_iff.1 hread
  obtain ⟨program, -, hread⟩ := bind_eq_ok_iff.1 hread
  cases program with
  | none => exact absurd hread throw_ne_ok
  | some program =>
    obtain ⟨args, -, hread⟩ := bind_eq_ok_iff.1 hread
    obtain ⟨outputFlag, -, hread⟩ := bind_eq_ok_iff.1 hread
    obtain ⟨timeoutSecs, htimeout, hread⟩ := bind_eq_ok_iff.1 hread
    cases pure_eq_ok_iff.1 hread
    obtain rfl : timeoutSecs = some n := hn
    obtain ⟨v', hv', hcount⟩ := exists_of_optionalField (RecordShape.fits_of_members h hmembers) htimeout
    exact le_of_asCount hv' hcount

theorem RawConfig.timeoutSecs_le {raw : RawConfig} {n : Nat} (h : ∀ m ∈ members, m.2.Fits)
    (hread : RawConfig.ofTable members = .ok raw) (hn : raw.engine.timeoutSecs = some n) :
    (n : Int) ≤ Instant.lastSecond := by
  unfold RawConfig.ofTable at hread
  obtain ⟨-, -, hread⟩ := bind_eq_ok_iff.1 hread
  obtain ⟨engine, hengine, hread⟩ := bind_eq_ok_iff.1 hread
  cases engine with
  | none => exact absurd hread throw_ne_ok
  | some engine =>
    obtain ⟨harness, -, hread⟩ := bind_eq_ok_iff.1 hread
    obtain ⟨cases, -, hread⟩ := bind_eq_ok_iff.1 hread
    cases pure_eq_ok_iff.1 hread
    obtain ⟨v, hv, hread⟩ := exists_of_optionalField h hengine
    exact RawEngine.timeoutSecs_le hv hread hn

end

/-- **A time limit of an accepted table** is a number of whole seconds that the clock can show. -/
theorem Config.timeout_le {text : String} {config : Config} {limit : Duration}
    (h : Config.ofText text = .ok config) (hlimit : config.engine.timeout = some limit) :
    limit.nanoseconds = 0 ∧ (limit.seconds : Int) ≤ Instant.lastSecond := by
  obtain ⟨table, raw, hparse, hraw, hresolve⟩ := Config.ofText_eq_ok_iff.1 h
  obtain ⟨hengine, -⟩ := resolve_eq_ok_iff.1 hresolve
  unfold resolveEngine at hengine
  split at hengine
  · cases hengine
  · obtain ⟨secs, hsecs, rfl⟩ : ∃ secs, raw.engine.timeoutSecs = some secs ∧
        (⟨secs, 0⟩ : Duration) = limit := by
      rw [← Except.ok.inj hengine] at hlimit
      exact Option.map_eq_some_iff.1 hlimit
    exact ⟨rfl, RawConfig.timeoutSecs_le (Toml.parse?_fits hparse) hraw hsecs⟩

end GoldenCheck
