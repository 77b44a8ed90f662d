import GoldenCheck.Proofs.Config.Environment
import GoldenCheck.Proofs.Config.Fields
import GoldenCheck.Proofs.Toml.Reordering
import Mathlib.Data.List.Perm.Basic

/-!
# The order of keys does not matter

What is read of a value is also read of the value with its keys in another order (`ReadsAlike`). Single values
have no keys. A record is asked for its members by their keys, and each member is read of a value that is
reordered at most (`optionalField_reordered`); the check of all members finds the same members
(`RecordShape.check_reordered`). The variables of a case are put into an order of their own. So the whole
table is read as before (`RawConfig.ofTable_reordered`).
-/

namespace GoldenCheck

open Toml

/-- What `f` tells of the result is the same for the value with its keys in another order. -/
def ReadsAlike {α β : Type} (read : ValueReader α) (f : α → β) : Prop :=
  ∀ ⦃v w x⦄, KeysOnce v → Reordered v w → read v = .ok x → ∃ y, read w = .ok y ∧ f y = f x

variable {α β : Type} {read : ValueReader α} {f : α → β} {v w : Toml} {ms ns : Table} {shape : RecordShape}

/-! ### Single values -/

/-- A value without keys is not reordered. -/
theorem Toml.Reordered.eq_of_single (h : Reordered v w) (harray : ∀ items, v ≠ .array items)
    (htable : ∀ ms, v ≠ .table ms) : w = v := by
  cases h with
  | refl => rfl
  | here | member => exact absurd rfl (htable _)
  | item => exact absurd rfl (harray _)

theorem readsAlike_asText : ReadsAlike asText id := by
  rintro v w s - h hread
  obtain rfl := asText_eq_ok_iff.1 hread
  obtain rfl := h.eq_of_single nofun nofun
  exact ⟨s, hread, rfl⟩

theorem readsAlike_asPath : ReadsAlike asPath id := by
  rintro v w p - h hread
  obtain ⟨s, rfl, -⟩ := asPath_eq_ok_iff.1 hread
  obtain rfl := h.eq_of_single nofun nofun
  exact ⟨p, hread, rfl⟩

theorem readsAlike_asFlag : ReadsAlike asFlag id := by
  rintro v w b - h hread
  obtain rfl := asFlag_eq_ok_iff.1 hread
  obtain rfl := h.eq_of_single nofun nofun
  exact ⟨b, hread, rfl⟩

theorem readsAlike_asCount (kind : String) : ReadsAlike (asCount kind) id := by
  rintro v w n - h hread
  obtain rfl := asCount_eq_ok_iff.1 hread
  obtain rfl := h.eq_of_single nofun nofun
  exact ⟨n, hread, rfl⟩

/-! ### Arrays and tables of values -/

theorem readsAlike_asItems (hitem : ReadsAlike read id) : ReadsAlike (asItems read) id := by
  intro v w xs once h hread
  obtain ⟨vs, rfl, hvs⟩ := asItems_eq_ok_iff.1 hread
  obtain ⟨ws, rfl, hws⟩ := h.array_cases
  rw [keysOnce_array_iff] at once
  refine ⟨xs, asItems_eq_ok_iff.2 ⟨ws, rfl, ?_⟩, rfl⟩
  clear h hread
  induction hvs generalizing ws with
  | nil =>
    rw [List.forall₂_nil_left_iff] at hws
    exact hws ▸ .nil
  | @cons v x vs xs hv _ ih =>
    obtain ⟨w, ws, hw, hrest, rfl⟩ := List.forall₂_cons_left_iff.1 hws
    obtain ⟨_, hread, rfl⟩ := hitem (once v (by simp)) hw hv
    exact .cons hread (ih (fun v hv => once v (List.mem_cons_of_mem _ hv)) ws hrest)

/-- A table of texts can only be reordered as such. -/
theorem Toml.Table.Reordered.exists_perm {xs : List (String × String)}
    (h : Table.Reordered (xs.map fun x => (x.1, .text x.2)) ns) (once : (xs.map Prod.fst).Nodup) :
    ∃ ys : List (String × String), ys.Perm xs ∧ ns = ys.map fun x => (x.1, .text x.2) := by
  have hsub : ns ⊆ xs.map fun x => (x.1, .text x.2) := by
    intro n hn
    obtain ⟨m, hm, hkey, hvalue⟩ := h.values n hn
    obtain ⟨x, -, rfl⟩ := List.mem_map.1 hm
    have hsame : n = (x.1, .text x.2) := Prod.ext hkey.symm (hvalue.eq_of_single nofun nofun)
    exact hsame ▸ hm
  have hkeys : (xs.map Prod.fst).Perm (ns.map Prod.fst) := by simpa [Function.comp_def] using h.keys
  have hnodup : ns.Nodup := (hkeys.nodup_iff.1 once).of_map _
  have hperm : ns.Perm (xs.map fun x => (x.1, .text x.2)) :=
    (List.subperm_of_subset hnodup hsub).perm_of_length_le (by simpa using hkeys.length_eq.le)
  obtain ⟨ys, hns, hys⟩ := (congrFun₂ (List.eq_map_comp_perm _) ns xs).mpr hperm
  exact ⟨ys, hys, hns⟩

/-- Named texts make the same variables. -/
theorem readsAlike_asTexts : ReadsAlike asTexts Environment.ofList := by
  intro v w xs once h hread
  rcases asTexts_eq_ok_iff.1 hread with rfl | ⟨written, rfl, rfl⟩
  · obtain ⟨ns, rfl, hns⟩ := h.table_cases
    have hnodup : (xs.map Prod.fst).Nodup := by simpa [Function.comp_def] using (keysOnce_table_iff.1 once).1
    obtain ⟨ys, hperm, rfl⟩ := hns.exists_perm hnodup
    refine ⟨ys, asTexts_eq_ok_iff.2 (Or.inl rfl), ?_⟩
    exact (Environment.ofList_perm hnodup hperm.symm).symm
  · obtain rfl := h.eq_of_single nofun nofun
    exact ⟨_, hread, rfl⟩

/-! ### Members of a record -/

theorem Toml.Table.reordered_of_forall₂
    (h : List.Forall₂ (fun m n => m.1 = n.1 ∧ Toml.Reordered m.2 n.2) ms ns) : ms.Reordered ns := by
  induction h with
  | nil => exact ⟨.nil, by simp⟩
  | @cons m n ms ns hfirst _ ih =>
    refine ⟨?_, List.forall_mem_cons.2 ⟨⟨m, by simp, hfirst⟩, fun n' hn' => ?_⟩⟩
    · rw [List.map_cons, List.map_cons, hfirst.1]
      exact ih.keys.cons _
    · obtain ⟨m', hm', hsame⟩ := ih.values n' hn'
      exact ⟨m', List.mem_cons_of_mem _ hm', hsame⟩

/-- Names are paired with the items of an array, and with the items reordered. -/
theorem zip_reordered {items items' : List Toml} (h : List.Forall₂ Reordered items items')
    (names : List String) : Table.Reordered (names.zip items) (names.zip items') := by
  refine Table.reordered_of_forall₂ ?_
  induction h generalizing names with
  | nil => simp
  | cons hv _ ih =>
    cases names with
    | nil => simp
    | cons name names => exact .cons ⟨rfl, hv⟩ (ih names)

theorem nodup_keys_zip {names : List String} (hnames : names.Nodup) (items : List Toml) :
    ((names.zip items).map Prod.fst).Nodup := by
  induction names generalizing items with
  | nil => simp
  | cons name names ih =>
    rw [List.nodup_cons] at hnames
    cases items with
    | nil => simp
    | cons v items =>
      refine List.nodup_cons.2 ⟨fun hmem => hnames.1 ?_, ih hnames.2 items⟩
      obtain ⟨m, hm, rfl⟩ := List.mem_map.1 hmem
      exact (List.of_mem_zip hm).1

/-- The members of a record have their keys once. -/
theorem RecordShape.keysOnce_members (hnames : shape.names.Nodup) (once : KeysOnce v)
    (hms : shape.members v = .ok ms) : KeysOnce (.table ms) := by
  cases v with
  | table ms =>
    cases hms
    exact once
  | array items =>
    cases hms
    refine .table (nodup_keys_zip hnames items) fun m hm => ?_
    exact keysOnce_array_iff.1 once m.2 (List.of_mem_zip hm).2
  | moment written =>
    cases hms
    exact .table (by simp) (by simpa using .text _)
  | _ => cases hms

theorem RecordShape.members_reordered (h : Reordered v w) (hms : shape.members v = .ok ms) :
    ∃ ns, shape.members w = .ok ns ∧ ms.Reordered ns := by
  cases v with
  | table ms =>
    cases hms
    obtain ⟨ns, rfl, hns⟩ := h.table_cases
    exact ⟨ns, rfl, hns⟩
  | array items =>
    cases hms
    obtain ⟨items', rfl, hitems⟩ := h.array_cases
    exact ⟨_, rfl, zip_reordered hitems _⟩
  | moment written =>
    cases hms
    obtain rfl := h.eq_of_single nofun nofun
    exact ⟨_, rfl, .refl _, fun n hn => ⟨n, hn, rfl, .refl _⟩⟩
  | _ => cases hms

theorem optionalField_reordered {key : String} {o : Option α} (once : KeysOnce (.table ms))
    (h : ms.Reordered ns) (hread : ReadsAlike read f) (ho : optionalField ms key read = .ok o) :
    ∃ o', optionalField ns key read = .ok o' ∧ o'.map f = o.map f := by
  rw [keysOnce_table_iff] at once
  rcases h.get?_cases once.1 key with ⟨hms, hns⟩ | ⟨v, w, hv, hw, hinside⟩
  · rcases optionalField_eq_ok_iff.1 ho with ⟨-, rfl⟩ | ⟨v, -, hv, -⟩
    · exact ⟨none, optionalField_eq_ok_iff.2 (Or.inl ⟨hns, rfl⟩), rfl⟩
    · cases hms.symm.trans hv
  · rcases optionalField_eq_ok_iff.1 ho with ⟨hms, -⟩ | ⟨_, x, hv', hx, rfl⟩
    · cases hms.symm.trans hv
    · cases hv.symm.trans hv'
      obtain ⟨y, hy, hsame⟩ := hread (once.2 _ (Table.mem_of_get? hv)) hinside hx
      exact ⟨some y, optionalField_eq_ok_iff.2 (Or.inr ⟨w, y, hw, hy, rfl⟩), congrArg some hsame⟩

/-- A field that is read alike has the same value. -/
theorem optionalField_eq_of_reordered {key : String} {o : Option α} (once : KeysOnce (.table ms))
    (h : ms.Reordered ns) (hread : ReadsAlike read id) (ho : optionalField ms key read = .ok o) :
    optionalField ns key read = .ok o := by
  obtain ⟨o', ho', hsame⟩ := optionalField_reordered once h hread ho
  simp only [Option.map_id, id] at hsame
  exact hsame ▸ ho'

/-- Members are checked alike when each key's value is. -/
theorem RecordShape.check_reordered (once : KeysOnce (.table ms)) (h : ms.Reordered ns)
    (hfields : ∀ field ∈ shape.fields, ReadsAlike field.2 id) (hcheck : shape.check ms = .ok ()) :
    shape.check ns = .ok () := by
  rw [keysOnce_table_iff] at once
  rw [check_eq_ok_iff] at hcheck ⊢
  intro n hn
  obtain ⟨m, hm, hkey, hinside⟩ := h.values n hn
  obtain ⟨check, hfound, hread⟩ := hcheck m hm
  have hfield : (m.1, check) ∈ shape.fields := by
    obtain ⟨before, after, hsplit, -⟩ := List.lookup_eq_some_iff.1 hfound
    simp [hsplit]
  obtain ⟨y, hy, -⟩ := hfields _ hfield (once.2 m hm) hinside hread
  exact ⟨check, hkey ▸ hfound, hy⟩

theorem readsAlike_checked (hread : ReadsAlike read f) : ReadsAlike (checked read) id := by
  intro v w _ once h hv
  obtain ⟨x, hx⟩ := checked_eq_ok_iff.1 hv
  obtain ⟨y, hy, -⟩ := hread once h hx
  exact ⟨(), checked_eq_ok_iff.2 ⟨y, hy⟩, rfl⟩

/-! ### Records -/

theorem readsAlike_engine : ReadsAlike RawEngine.ofValue id := by
  intro v w e once h hread
  obtain ⟨ms, hms, hcheck, hprogram, ⟨args, hargs, heq⟩, houtputFlag, htimeoutSecs⟩ :=
    RawEngine.ofValue_eq_ok_iff.1 hread
  obtain ⟨ns, hns, h⟩ := RecordShape.members_reordered h hms
  have once := RecordShape.keysOnce_members (by decide) once hms
  have htext := readsAlike_asText
  have htexts := readsAlike_asItems htext
  have hcount := readsAlike_asCount "u64"
  have hfields : ∀ field ∈ RawEngine.shape.fields, ReadsAlike field.2 id := by
    simp only [RawEngine.shape, List.forall_mem_cons]
    exact ⟨readsAlike_checked htext, readsAlike_checked htexts, readsAlike_checked htext,
      readsAlike_checked hcount, List.forall_mem_nil _⟩
  refine ⟨e, RawEngine.ofValue_eq_ok_iff.2 ⟨ns, hns, RecordShape.check_reordered once h hfields hcheck, ?_,
    ⟨args, ?_, heq⟩, ?_, ?_⟩, rfl⟩
  · exact optionalField_eq_of_reordered once h htext hprogram
  · exact optionalField_eq_of_reordered once h htexts hargs
  · exact optionalField_eq_of_reordered once h htext houtputFlag
  · exact optionalField_eq_of_reordered once h hcount htimeoutSecs

theorem readsAlike_harness : ReadsAlike RawHarness.ofValue id := by
  intro v w r once h hread
  obtain ⟨ms, hms, hcheck, houtputDir, hsuffix, hexpect, hcomparator, hdiffProgram, hdiffArgs,
    ⟨parallel, hparallel, heq⟩, hjobs⟩ := RawHarness.ofValue_eq_ok_iff.1 hread
  obtain ⟨ns, hns, h⟩ := RecordShape.members_reordered h hms
  have once := RecordShape.keysOnce_members (by decide) once hms
  have htext := readsAlike_asText
  have htexts := readsAlike_asItems htext
  have hcount := readsAlike_asCount "usize"
  have hfields : ∀ field ∈ RawHarness.shape.fields, ReadsAlike field.2 id := by
    simp only [RawHarness.shape, List.forall_mem_cons]
    exact ⟨readsAlike_checked readsAlike_asPath, readsAlike_checked htext, readsAlike_checked htext,
      readsAlike_checked htext, readsAlike_checked htext, readsAlike_checked htexts,
      readsAlike_checked readsAlike_asFlag, readsAlike_checked hcount, List.forall_mem_nil _⟩
  refine ⟨r, RawHarness.ofValue_eq_ok_iff.2 ⟨ns, hns, RecordShape.check_reordered once h hfields hcheck, ?_,
    ?_, ?_, ?_, ?_, ?_, ⟨parallel, ?_, heq⟩, ?_⟩, rfl⟩
  · exact optionalField_eq_of_reordered once h readsAlike_asPath houtputDir
  · exact optionalField_eq_of_reordered once h htext hsuffix
  · exact optionalField_eq_of_reordered once h htext hexpect
  · exact optionalField_eq_of_reordered once h htext hcomparator
  · exact optionalField_eq_of_reordered once h htext hdiffProgram
  · exact optionalField_eq_of_reordered once h htexts hdiffArgs
  · exact optionalField_eq_of_reordered once h readsAlike_asFlag hparallel
  · exact optionalField_eq_of_reordered once h hcount hjobs

theorem readsAlike_case : ReadsAlike RawCase.ofValue id := by
  intro v w c once h hread
  obtain ⟨ms, hms, hcheck, hname, ⟨description, hdescription, heqDescription⟩, hroot, hreference,
    ⟨args, hargs, heqArgs⟩, ⟨env, henv, heqEnv⟩, hsetup, hexpect⟩ := RawCase.ofValue_eq_ok_iff.1 hread
  obtain ⟨ns, hns, h⟩ := RecordShape.members_reordered h hms
  have once := RecordShape.keysOnce_members (by decide) once hms
  have htext := readsAlike_asText
  have htexts := readsAlike_asItems htext
  have hpath := readsAlike_asPath
  have hfields : ∀ field ∈ RawCase.shape.fields, ReadsAlike field.2 id := by
    simp only [RawCase.shape, List.forall_mem_cons]
    exact ⟨readsAlike_checked htext, readsAlike_checked htext, readsAlike_checked hpath,
      readsAlike_checked hpath, readsAlike_checked htexts, readsAlike_checked readsAlike_asTexts,
      readsAlike_checked htexts, readsAlike_checked htext, List.forall_mem_nil _⟩
  -- The settings of the variables may be read in another order.
  obtain ⟨env', henv', hsame⟩ := optionalField_reordered once h readsAlike_asTexts henv
  have heqEnv' : c.env = .ofList (env'.getD []) := by
    rw [heqEnv]
    cases env <;> cases env' <;> simp_all
  refine ⟨c, RawCase.ofValue_eq_ok_iff.2 ⟨ns, hns, RecordShape.check_reordered once h hfields hcheck, ?_,
    ⟨description, ?_, heqDescription⟩, ?_, ?_, ⟨args, ?_, heqArgs⟩, ⟨env', henv', heqEnv'⟩, ?_, ?_⟩, rfl⟩
  · exact optionalField_eq_of_reordered once h htext hname
  · exact optionalField_eq_of_reordered once h htext hdescription
  · exact optionalField_eq_of_reordered once h hpath hroot
  · exact optionalField_eq_of_reordered once h hpath hreference
  · exact optionalField_eq_of_reordered once h htexts hargs
  · exact optionalField_eq_of_reordered once h htexts hsetup
  · exact optionalField_eq_of_reordered once h htext hexpect

/-- **The whole table** is read as before. -/
theorem RawConfig.ofTable_reordered {raw : RawConfig} (once : KeysOnce (.table ms)) (h : ms.Reordered ns)
    (hread : RawConfig.ofTable ms = .ok raw) : RawConfig.ofTable ns = .ok raw := by
  obtain ⟨hcheck, hengine, ⟨harness, hharness, heqHarness⟩, cases, hcases, heqCases⟩ :=
    RawConfig.ofTable_eq_ok_iff.1 hread
  have hitems := readsAlike_asItems readsAlike_case
  have hfields : ∀ field ∈ RawConfig.shape.fields, ReadsAlike field.2 id := by
    simp only [RawConfig.shape, List.forall_mem_cons]
    exact ⟨readsAlike_checked readsAlike_engine, readsAlike_checked readsAlike_harness,
      readsAlike_checked hitems, List.forall_mem_nil _⟩
  refine RawConfig.ofTable_eq_ok_iff.2 ⟨RecordShape.check_reordered once h hfields hcheck, ?_,
    ⟨harness, ?_, heqHarness⟩, cases, ?_, heqCases⟩
  · exact optionalField_eq_of_reordered once h readsAlike_engine hengine
  · exact optionalField_eq_of_reordered once h readsAlike_harness hharness
  · exact optionalField_eq_of_reordered once h hitems hcases

end GoldenCheck
