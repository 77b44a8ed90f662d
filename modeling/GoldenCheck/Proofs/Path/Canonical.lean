import GoldenCheck.Proofs.Files.Above

/-!
# One normal form for a place

From a directory a path leads to a location (`Path.leadsTo`), as a walk does in a tree where the way is
there (`World.placeOf_eq_leadsTo`). Its normal form leads to the same location (`Path.leadsTo_normalize`).
A relative path goes up past names that it does not know, and then down the names that are left of it
(`Path.leadsTo_of_relative`). The names are told by where it leads from the top, and how often it goes up by
where it leads from a directory that is deep enough. So the normal form of a relative path is known from where
the path leads (`Path.normalize_eq_iff_leadsTo`), and `normal_form_is_canonical` puts this together.
-/

namespace GoldenCheck

open Path

/-- Each name can be shown as one segment of a path. -/
def Location.IsProper (dir : Location) : Prop := ∀ n ∈ dir, (Component.name n).IsStep

namespace Path

/-- Where a path leads from a directory: a name goes down, `..` takes back the last name and stays at the
top, and an absolute path starts at the top. -/
def leadsTo (p : Path) (dir : Location) : Location :=
  p.components.foldl pushName (if p.isAbsolute then [] else dir)

variable {p q : Path}

/-! ### Normal forms -/

theorem steps_normalize (p : Path) : p.normalize.steps = p.steps :=
  normal_eq_iff_steps.1 (normal_eq_iff.2 p.normalize_normalize)

theorem isAbsolute_normalize (p : Path) : p.normalize.isAbsolute = p.isAbsolute := by
  rw [Bool.eq_iff_iff, isAbsolute_iff_root_mem_steps, isAbsolute_iff_root_mem_steps, steps_normalize]

/-- On a settled stack there is no `..` on a name. -/
theorem IsSettled.not_up_name_infix {parts : List Component} (h : IsSettled parts) (n : Bytes) :
    ¬ [.up, .name n] <:+: parts := by
  induction parts with
  | nil => simp
  | cons c parts ih =>
    rw [List.infix_cons_iff, not_or]
    refine ⟨?_, ih h.tail⟩
    rintro ⟨below, hparts⟩
    rw [← hparts] at h
    exact h.elim

/-- In the steps of a normal form no `..` comes right after a name. -/
theorem not_name_up_infix_steps (p : Path) (n : Bytes) : ¬ [.name n, .up] <:+: p.steps := by
  have hsettled : IsSettled (p.components.foldl pushPart []) :=
    IsSettled.foldl (show IsSettled [] from trivial) _
  rw [steps_eq, normalParts, ← List.reverse_infix, List.reverse_reverse]
  exact hsettled.not_up_name_infix n

/-- The normal form is `.`, or it is made of steps. -/
theorem normalize_eq_dot_or (p : Path) :
    p.normalize = ⟨[dot]⟩ ∨ p.normalize.components = p.steps := by
  by_cases h : p.steps = []
  · left
    rw [normalize, (steps_eq p).symm.trans h]
  · exact Or.inr (components_normalize_of_steps h)

end Path

/-! ### Where a path leads -/

/-- A walk from the current directory is such a way. -/
theorem World.placeOf_eq_leadsTo (w : World) (p : Path) : w.placeOf p = p.leadsTo w.cwd :=
  w.placeOf_eq_foldl_components p

namespace Path

variable {p q : Path}

theorem leadsTo_eq_foldl_steps (p : Path) (dir : Location) :
    p.leadsTo dir = p.steps.foldl pushName (if p.isAbsolute then [] else dir) :=
  (World.placeOf_eq_leadsTo ⟨.empty, dir⟩ p).symm.trans (World.placeOf_eq_foldl_steps ⟨.empty, dir⟩ p)

/-- **A path and its normal form lead to the same location.** -/
theorem leadsTo_normalize (p : Path) (dir : Location) : p.normalize.leadsTo dir = p.leadsTo dir := by
  rw [leadsTo_eq_foldl_steps, leadsTo_eq_foldl_steps, steps_normalize, isAbsolute_normalize]

/-- Going up so often takes back as many names. -/
theorem foldl_pushName_ups (k : Nat) (dir : Location) :
    (List.replicate k Component.up).foldl pushName dir = dir.drop k := by
  induction k generalizing dir with
  | zero => rfl
  | succ k ih => rw [List.replicate_succ, List.foldl_cons, ih, pushName, List.drop_tail]

/-- Nothing but `..` and names is in the steps of a relative path. -/
theorem isStep_of_mem_steps (h : p.isAbsolute = false) : ∀ c ∈ p.steps, c.IsStep := by
  have hplain := isPlain_normalParts p
  have hroot : Component.root ∉ p.steps := by simp [← isAbsolute_iff_root_mem_steps, h]
  rw [← steps_eq] at hplain
  cases hsteps : p.steps with
  | nil => simp
  | cons c cs =>
    rw [hsteps] at hplain hroot
    cases c with
    | root => exact absurd List.mem_cons_self hroot
    | here | up | name => exact hplain

/-- **The steps of a relative path** are each `..` that finds no name, and then the names. -/
theorem steps_of_relative (h : p.isAbsolute = false) :
    p.steps = List.replicate p.excess .up ++ p.rootNames.reverse.map .name := by
  obtain ⟨ground, hsteps, hground⟩ := steps_eq_append_rootNames p
  exact eq_ups_append_names (isStep_of_mem_steps h) hsteps hground

/-- **A relative path leads up and then down**: past so many names of the directory, and then down the
names that are left of the path. -/
theorem leadsTo_of_relative (h : p.isAbsolute = false) (dir : Location) :
    p.leadsTo dir = p.rootNames ++ dir.drop p.excess := by
  rw [leadsTo_eq_foldl_steps, steps_of_relative h, List.foldl_append, foldl_pushName_ups,
    foldl_pushName_names, List.reverse_reverse, h]
  rfl

theorem normalize_eq_iff_of_relative (hp : p.isAbsolute = false) (hq : q.isAbsolute = false) :
    p.normalize = q.normalize ↔ p.rootNames = q.rootNames ∧ p.excess = q.excess := by
  rw [← normal_eq_iff, normal_eq_iff_steps]
  constructor
  · intro h
    have hexcess : p.excess = q.excess := by rw [excess, excess, h]
    rw [steps_of_relative hp, steps_of_relative hq, hexcess] at h
    have hinj : Function.Injective Component.name := fun _ _ => Component.name.inj
    exact ⟨List.reverse_injective (List.map_injective_iff.2 hinj (List.append_cancel_left h)), hexcess⟩
  · rintro ⟨hnames, hexcess⟩
    rw [steps_of_relative hp, steps_of_relative hq, hnames, hexcess]

/-- A directory that is so deep. -/
def deepDirectory (depth : Nat) : Location := List.replicate depth [0x61]

theorem isProper_deepDirectory (depth : Nat) : (deepDirectory depth).IsProper := by
  intro n hn
  obtain rfl := List.eq_of_mem_replicate hn
  simp [Component.IsStep, dot, slash]

/-- **Relative paths have one normal form** exactly when they lead to the same location from every
directory. -/
theorem normalize_eq_iff_leadsTo (hp : p.isAbsolute = false) (hq : q.isAbsolute = false) :
    p.normalize = q.normalize ↔
      ∀ dir : Location, dir.IsProper → p.leadsTo dir = q.leadsTo dir := by
  constructor
  · intro h dir _
    rw [← leadsTo_normalize p, ← leadsTo_normalize q, h]
  · intro h
    simp only [leadsTo_of_relative hp, leadsTo_of_relative hq] at h
    have hnames : p.rootNames = q.rootNames := by
      simpa using h [] (by simp [Location.IsProper])
    have hdeep := h (deepDirectory (p.excess + q.excess)) (isProper_deepDirectory _)
    have hlength := congrArg List.length hdeep
    simp only [hnames, deepDirectory, List.length_append, List.length_drop, List.length_replicate]
      at hlength
    exact (normalize_eq_iff_of_relative hp hq).2 ⟨hnames, by omega⟩

end Path

/-- **The normal form is canonical.** From every directory a path and its normal form lead to the same
location. The normal form of a normal form is the same path. It is `.`, or it has no `.` and no `..` right
after a name, and it is absolute when the path is. Two relative paths have one normal form exactly when they
lead to the same location from every directory. -/
theorem normal_form_is_canonical (p : Path) :
    (∀ dir : Location, p.normalize.leadsTo dir = p.leadsTo dir) ∧
    p.normalize.normalize = p.normalize ∧
    (p.normalize = ⟨[dot]⟩ ∨ Component.here ∉ p.normalize.components ∧
      ∀ n, ¬ [.name n, .up] <:+: p.normalize.components) ∧
    p.normalize.isAbsolute = p.isAbsolute ∧
    ∀ q : Path, p.isAbsolute = false → q.isAbsolute = false →
      (p.normalize = q.normalize ↔
        ∀ dir : Location, dir.IsProper → p.leadsTo dir = q.leadsTo dir) := by
  refine ⟨leadsTo_normalize p, normalize_normalize p, (normalize_eq_dot_or p).imp_right fun h => ?_,
    isAbsolute_normalize p, fun q => normalize_eq_iff_leadsTo⟩
  rw [h]
  exact ⟨here_notMem_steps p, not_name_up_infix_steps p⟩

/-- Two spellings that go up once and then down to one place. -/
theorem respelled_paths_lead_alike :
    (Path.ofText "a/../../b/./c").isAbsolute = false ∧ (Path.ofText "../b//c").isAbsolute = false ∧
      ∀ dir : Location, dir.IsProper →
        (Path.ofText "a/../../b/./c").leadsTo dir = (Path.ofText "../b//c").leadsTo dir :=
  have hp : (Path.ofText "a/../../b/./c").isAbsolute = false := by decide
  have hq : (Path.ofText "../b//c").isAbsolute = false := by decide
  ⟨hp, hq, ((normal_form_is_canonical (.ofText "a/../../b/./c")).2.2.2.2 (.ofText "../b//c") hp hq).1
    (by decide)⟩

end GoldenCheck
