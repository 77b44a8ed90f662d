import GoldenCheck.Config.Raw
import GoldenCheck.Proofs.Except
import Mathlib.Data.List.Forall2

/-!
# What is read of a record

The lemmas say of each kind of value which document it is read from, and of each record from which values of
which keys it is read (`RawEngine.ofValue_eq_ok_iff` and the like): its members are all checked, and then each
field is read by its key. What is checked of a member is that its key is declared and that its value can be
read (`RecordShape.check_eq_ok_iff`).
-/

namespace GoldenCheck

variable {α β : Type} {v : Toml} {read : ValueReader α}

/-! ### Single values -/

theorem asText_eq_ok_iff {s : String} : asText v = .ok s ↔ v = .text s := by
  cases v <;> simp [asText]

theorem asPath_eq_ok_iff {p : Path} : asPath v = .ok p ↔ ∃ s, v = .text s ∧ p = .ofText s := by
  cases v <;> simp [asPath, eq_comm]

theorem asFlag_eq_ok_iff {b : Bool} : asFlag v = .ok b ↔ v = .boolean b := by
  cases v <;> simp [asFlag]

theorem asCount_eq_ok_iff {kind : String} {n : Nat} : asCount kind v = .ok n ↔ v = .integer n := by
  cases v with
  | integer k =>
    simp only [asCount, Toml.integer.injEq]
    split_ifs with hk
    · rw [Except.ok.injEq]
      omega
    · exact iff_of_false nofun (by omega)
  | _ => simp [asCount]

/-! ### Arrays and tables of values -/

/-- Many are read when each is. -/
theorem mapM_eq_ok_iff {ε : Type} {f : α → Except ε β} {xs : List α} {ys : List β} :
    xs.mapM f = .ok ys ↔ List.Forall₂ (fun x y => f x = .ok y) xs ys := by
  induction xs generalizing ys with
  | nil => rw [List.mapM_nil, pure_eq_ok_iff, List.forall₂_nil_left_iff, eq_comm]
  | cons x xs ih =>
    simp only [List.mapM_cons, bind_eq_ok_iff, pure_eq_ok_iff, ih, List.forall₂_cons_left_iff]
    constructor
    · rintro ⟨y, hy, ys, hys, rfl⟩
      exact ⟨y, ys, hy, hys, rfl⟩
    · rintro ⟨y, ys, hy, hys, rfl⟩
      exact ⟨y, hy, ys, hys, rfl⟩

theorem forall₂_eq_map_iff {f : β → α} {xs : List α} {ys : List β} :
    List.Forall₂ (fun x y => x = f y) xs ys ↔ xs = ys.map f := by
  rw [← List.forall₂_map_right_iff (R := (· = ·)), List.forall₂_eq_eq_eq]

theorem asItems_eq_ok_iff {xs : List α} :
    asItems read v = .ok xs ↔ ∃ vs, v = .array vs ∧ List.Forall₂ (fun v x => read v = .ok x) vs xs := by
  cases v <;> simp [asItems, mapM_eq_ok_iff]

/-- Texts are read from the array of these texts. -/
theorem asItems_asText_eq_ok_iff {xs : List String} :
    asItems asText v = .ok xs ↔ v = .array (xs.map .text) := by
  simp [asItems_eq_ok_iff, asText_eq_ok_iff, forall₂_eq_map_iff]

/-- Named texts are read from the table of these texts, or from a moment, which is a table of one text. -/
theorem asTexts_eq_ok_iff {xs : List (String × String)} :
    asTexts v = .ok xs ↔ v = .table (xs.map fun x => (x.1, .text x.2)) ∨
      ∃ written, v = .moment written ∧ xs = [(momentKey, written)] := by
  have hmember : ∀ (m : String × Toml) x,
      (do return (m.1, ← asText m.2) : Except ShapeError _) = .ok x ↔ m = (x.1, .text x.2) := by
    rintro ⟨key, v⟩ ⟨key', s⟩
    simp only [bind_eq_ok_iff, pure_eq_ok_iff, asText_eq_ok_iff]
    constructor
    · rintro ⟨_, rfl, ⟨⟩⟩
      rfl
    · rintro ⟨⟩
      exact ⟨s, rfl, rfl⟩
  cases v with
  | table ms =>
    rw [asTexts, mapM_eq_ok_iff]
    simp only [hmember, forall₂_eq_map_iff]
    simp
  | moment written => simp [asTexts, eq_comm]
  | _ => simp [asTexts]

/-! ### Members of a record -/

theorem optionalField_eq_ok_iff {ms : Toml.Table} {key : String} {o : Option α} :
    optionalField ms key read = .ok o ↔
      (ms.get? key = none ∧ o = none) ∨ ∃ v x, ms.get? key = some v ∧ read v = .ok x ∧ o = some x := by
  unfold optionalField
  cases ms.get? key with
  | none => rw [Option.mapM_none, pure_eq_ok_iff]; simp [eq_comm]
  | some v =>
    cases hv : read v with
    | error e => simp [hv, Functor.map, Except.map]
    | ok x => simp [hv, Functor.map, Except.map, eq_comm]

theorem optionalField_eq_some_iff {ms : Toml.Table} {key : String} {x : α} :
    optionalField ms key read = .ok (some x) ↔ ∃ v, ms.get? key = some v ∧ read v = .ok x := by
  simp [optionalField_eq_ok_iff]

theorem checked_eq_ok_iff : checked read v = .ok () ↔ ∃ x, read v = .ok x := by
  cases h : read v <;> simp [checked, h, discard, Functor.discard, Functor.mapConst, Except.map]

/-- **The members of a record** are right when their keys are declared and their values can be read. -/
theorem RecordShape.check_eq_ok_iff {shape : RecordShape} {ms : Toml.Table} :
    shape.check ms = .ok () ↔
      ∀ m ∈ ms, ∃ check, shape.fields.lookup m.1 = some check ∧ check m.2 = .ok () := by
  have hmember : ∀ m, shape.checkMember m = .ok () ↔
      ∃ check, shape.fields.lookup m.1 = some check ∧ check m.2 = .ok () := by
    intro m
    unfold RecordShape.checkMember
    cases shape.fields.lookup m.1 <;> simp
  unfold RecordShape.check
  induction ms with
  | nil => exact iff_of_true rfl (by simp)
  | cons m ms ih =>
    rw [List.forall_mem_cons, ← hmember]
    refine bind_eq_ok_iff.trans ⟨?_, fun h => ⟨(), h.1, ih.2 h.2⟩⟩
    rintro ⟨⟨⟩, h, hrest⟩
    exact ⟨h, ih.1 hrest⟩

/-! ### Records -/

/-- **What is read of the engine.** -/
theorem RawEngine.ofValue_eq_ok_iff {e : RawEngine} :
    RawEngine.ofValue v = .ok e ↔
      ∃ ms, RawEngine.shape.members v = .ok ms ∧ RawEngine.shape.check ms = .ok () ∧
      optionalField ms "program" asText = .ok (some e.program) ∧
      (∃ args, optionalField ms "args" (asItems asText) = .ok args ∧ e.args = args.getD []) ∧
      optionalField ms "output_flag" asText = .ok e.outputFlag ∧
      optionalField ms "timeout_secs" (asCount "u64") = .ok e.timeoutSecs := by
  unfold RawEngine.ofValue
  rw [bind_eq_ok_iff]
  refine exists_congr fun ms => and_congr_right fun _ => ?_
  constructor
  · intro h
    obtain ⟨⟨⟩, hcheck, h⟩ := bind_eq_ok_iff.1 h
    obtain ⟨_ | program, hprogram, h⟩ := bind_eq_ok_iff.1 h
    · exact absurd h throw_ne_ok
    obtain ⟨args, hargs, h⟩ := bind_eq_ok_iff.1 h
    obtain ⟨outputFlag, houtputFlag, h⟩ := bind_eq_ok_iff.1 h
    obtain ⟨timeoutSecs, htimeoutSecs, h⟩ := bind_eq_ok_iff.1 h
    cases pure_eq_ok_iff.1 h
    exact ⟨hcheck, hprogram, ⟨args, hargs, rfl⟩, houtputFlag, htimeoutSecs⟩
  · obtain ⟨program, args, outputFlag, timeoutSecs⟩ := e
    rintro ⟨hcheck, hprogram, ⟨args, hargs, rfl⟩, houtputFlag, htimeoutSecs⟩
    simp only at hprogram houtputFlag htimeoutSecs
    rw [hcheck, hprogram, hargs, houtputFlag, htimeoutSecs]
    rfl

/-- **What is read of the harness.** -/
theorem RawHarness.ofValue_eq_ok_iff {h : RawHarness} :
    RawHarness.ofValue v = .ok h ↔ ∃ ms, RawHarness.shape.members v = .ok ms ∧
      RawHarness.shape.check ms = .ok () ∧
      optionalField ms "output_dir" asPath = .ok h.outputDir ∧
      optionalField ms "suffix" asText = .ok h.suffix ∧
      optionalField ms "expect" asText = .ok h.expect ∧
      optionalField ms "comparator" asText = .ok h.comparator ∧
      optionalField ms "diff_program" asText = .ok h.diffProgram ∧
      optionalField ms "diff_args" (asItems asText) = .ok h.diffArgs ∧
      (∃ parallel, optionalField ms "parallel" asFlag = .ok parallel ∧ h.parallel = parallel.getD false) ∧
      optionalField ms "jobs" (asCount "usize") = .ok h.jobs := by
  unfold RawHarness.ofValue
  rw [bind_eq_ok_iff]
  refine exists_congr fun ms => and_congr_right fun _ => ?_
  constructor
  · intro h
    obtain ⟨⟨⟩, hcheck, h⟩ := bind_eq_ok_iff.1 h
    obtain ⟨outputDir, houtputDir, h⟩ := bind_eq_ok_iff.1 h
    obtain ⟨suffix, hsuffix, h⟩ := bind_eq_ok_iff.1 h
    obtain ⟨expect, hexpect, h⟩ := bind_eq_ok_iff.1 h
    obtain ⟨comparator, hcomparator, h⟩ := bind_eq_ok_iff.1 h
    obtain ⟨diffProgram, hdiffProgram, h⟩ := bind_eq_ok_iff.1 h
    obtain ⟨diffArgs, hdiffArgs, h⟩ := bind_eq_ok_iff.1 h
    obtain ⟨parallel, hparallel, h⟩ := bind_eq_ok_iff.1 h
    obtain ⟨jobs, hjobs, h⟩ := bind_eq_ok_iff.1 h
    cases pure_eq_ok_iff.1 h
    exact ⟨hcheck, houtputDir, hsuffix, hexpect, hcomparator, hdiffProgram, hdiffArgs,
      ⟨parallel, hparallel, rfl⟩, hjobs⟩
  · obtain ⟨outputDir, suffix, expect, comparator, diffProgram, diffArgs, parallel, jobs⟩ := h
    rintro ⟨hcheck, houtputDir, hsuffix, hexpect, hcomparator, hdiffProgram, hdiffArgs,
      ⟨parallel, hparallel, rfl⟩, hjobs⟩
    simp only at houtputDir hsuffix hexpect hcomparator hdiffProgram hdiffArgs hjobs
    rw [hcheck, houtputDir, hsuffix, hexpect, hcomparator, hdiffProgram, hdiffArgs, hparallel, hjobs]
    rfl

/-- **What is read of a case.** -/
theorem RawCase.ofValue_eq_ok_iff {c : RawCase} :
    RawCase.ofValue v = .ok c ↔ ∃ ms, RawCase.shape.members v = .ok ms ∧ RawCase.shape.check ms = .ok () ∧
      optionalField ms "name" asText = .ok (some c.name) ∧
      (∃ description, optionalField ms "description" asText = .ok description ∧
        c.description = description.getD "") ∧
      optionalField ms "root" asPath = .ok (some c.root) ∧
      optionalField ms "reference" asPath = .ok (some c.reference) ∧
      (∃ args, optionalField ms "args" (asItems asText) = .ok args ∧ c.args = args.getD []) ∧
      (∃ env, optionalField ms "env" asTexts = .ok env ∧ c.env = .ofList (env.getD [])) ∧
      optionalField ms "setup" (asItems asText) = .ok c.setup ∧
      optionalField ms "expect" asText = .ok c.expect := by
  unfold RawCase.ofValue
  rw [bind_eq_ok_iff]
  refine exists_congr fun ms => and_congr_right fun _ => ?_
  constructor
  · intro h
    obtain ⟨⟨⟩, hcheck, h⟩ := bind_eq_ok_iff.1 h
    obtain ⟨_ | name, hname, h⟩ := bind_eq_ok_iff.1 h
    · exact absurd h throw_ne_ok
    obtain ⟨description, hdescription, h⟩ := bind_eq_ok_iff.1 h
    obtain ⟨_ | root, hroot, h⟩ := bind_eq_ok_iff.1 h
    · exact absurd h throw_ne_ok
    obtain ⟨_ | reference, hreference, h⟩ := bind_eq_ok_iff.1 h
    · exact absurd h throw_ne_ok
    obtain ⟨args, hargs, h⟩ := bind_eq_ok_iff.1 h
    obtain ⟨env, henv, h⟩ := bind_eq_ok_iff.1 h
    obtain ⟨setup, hsetup, h⟩ := bind_eq_ok_iff.1 h
    obtain ⟨expect, hexpect, h⟩ := bind_eq_ok_iff.1 h
    cases pure_eq_ok_iff.1 h
    exact ⟨hcheck, hname, ⟨description, hdescription, rfl⟩, hroot, hreference, ⟨args, hargs, rfl⟩,
      ⟨env, henv, rfl⟩, hsetup, hexpect⟩
  · obtain ⟨name, description, root, reference, args, env, setup, expect⟩ := c
    rintro ⟨hcheck, hname, ⟨description, hdescription, rfl⟩, hroot, hreference, ⟨args, hargs, rfl⟩,
      ⟨env, henv, rfl⟩, hsetup, hexpect⟩
    simp only at hname hroot hreference hsetup hexpect
    rw [hcheck, hname, hdescription, hroot, hreference, hargs, henv, hsetup, hexpect]
    rfl

/-- **What is read of the whole table.** -/
theorem RawConfig.ofTable_eq_ok_iff {table : Toml.Table} {raw : RawConfig} :
    RawConfig.ofTable table = .ok raw ↔ RawConfig.shape.check table = .ok () ∧
      optionalField table "engine" RawEngine.ofValue = .ok (some raw.engine) ∧
      (∃ harness, optionalField table "harness" RawHarness.ofValue = .ok harness ∧
        raw.harness = harness.getD .unset) ∧
      ∃ cases, optionalField table "cases" (asItems RawCase.ofValue) = .ok cases ∧
        raw.cases = cases.getD [] := by
  unfold RawConfig.ofTable
  constructor
  · intro h
    obtain ⟨⟨⟩, hcheck, h⟩ := bind_eq_ok_iff.1 h
    obtain ⟨_ | engine, hengine, h⟩ := bind_eq_ok_iff.1 h
    · exact absurd h throw_ne_ok
    obtain ⟨harness, hharness, h⟩ := bind_eq_ok_iff.1 h
    obtain ⟨cases, hcases, h⟩ := bind_eq_ok_iff.1 h
    cases pure_eq_ok_iff.1 h
    exact ⟨hcheck, hengine, ⟨harness, hharness, rfl⟩, cases, hcases, rfl⟩
  · obtain ⟨engine, harness, cases⟩ := raw
    rintro ⟨hcheck, hengine, ⟨harness, hharness, rfl⟩, cases, hcases, rfl⟩
    simp only at hengine
    rw [hcheck, hengine, hharness, hcases]
    rfl

end GoldenCheck
