import GoldenCheck.Proofs.Files.Spelling

/-!
# Paths above paths

A path is above another when the normal form of the other begins with its own and goes on
(`Path.IsAbove`). After a name no step of a normal form goes up, so a path that ends with a name spells a
location above that of any path it is above, wherever the current directory is
(`World.placeOf_above`). A path that stays below what it is joined onto leads just its names
further down (`World.placeOf_join`).
-/

namespace GoldenCheck

open Path

namespace Path

/-- The components of the normal form of `p` are those that the normal form of `q` begins with, and not
all of them. -/
def IsAbove (p q : Path) : Prop :=
  p.normalize.components <+: q.normalize.components ∧
    p.normalize.components ≠ q.normalize.components

instance (p q : Path) : Decidable (p.IsAbove q) := inferInstanceAs (Decidable (_ ∧ _))

variable {p q : Path} {n : Bytes}

/-- What is left of a path in normal form is its steps, if there are any. -/
theorem components_normalize_of_steps (h : p.steps ≠ []) : p.normalize.components = p.steps := by
  rw [steps_eq] at h ⊢
  exact components_normalize h

theorem here_notMem_steps (p : Path) : Component.here ∉ p.steps := by
  rw [steps_eq]
  exact here_notMem_normalParts p

/-- Only steps count, when there are any. -/
theorem isAbove_iff_steps (hp : p.steps ≠ []) :
    p.IsAbove q ↔ p.steps <+: q.steps ∧ p.steps ≠ q.steps := by
  rw [IsAbove, components_normalize_of_steps hp]
  by_cases hq : q.steps = []
  · have hdot : q.normalize.components = [.here] := by
      rw [normalize, show normalParts q.components = [] from (steps_eq q).symm.trans hq]
      rfl
    rw [hdot, hq, List.prefix_nil]
    constructor
    · rintro ⟨hbegins, -⟩
      -- The steps of `p` would be a `.`.
      cases hsteps : p.steps with
      | nil => exact absurd hsteps hp
      | cons c cs =>
        rw [hsteps, List.cons_prefix_cons] at hbegins
        have hmem : c ∈ p.steps := by
          rw [hsteps]
          exact List.mem_cons_self
        exact absurd (hbegins.1 ▸ hmem) (here_notMem_steps p)
    · rintro ⟨hnil, -⟩
      exact absurd hnil hp
  · rw [components_normalize_of_steps hq]

/-- After a name there are only names. -/
theorem exists_names_of_steps {rest : List Component} (h : q.steps = p.steps ++ rest)
    (hlast : p.steps.getLast? = some (.name n)) :
    ∃ names : List Bytes, rest = names.map .name := by
  obtain ⟨ground, hsteps, hground⟩ := steps_eq_append_rootNames q
  rcases List.append_eq_append_iff.1 (h.symm.trans hsteps) with ⟨more, hmore, -⟩ | ⟨names, -, hnames⟩
  · -- The last step of `p` would be one that is no name.
    have hmem : Component.name n ∈ ground := by
      rw [hmore]
      exact List.mem_append_left _ (List.mem_of_getLast? hlast)
    exact absurd ⟨n, rfl⟩ (hground _ hmem)
  · obtain ⟨before, after, -, -, hafter⟩ := List.map_eq_append_iff.1 hnames
    exact ⟨after, hafter.symm⟩

theorem component?_ne_root (s : Bytes) : component? s ≠ some .root := by
  unfold component?
  split_ifs <;> simp

theorem root_notMem_components (h : p.isAbsolute = false) : Component.root ∉ p.components := by
  intro hroot
  rw [components, if_neg (by simp [h])] at hroot
  cases hcut : p.segments with
  | nil => simp [hcut] at hroot
  | cons first rest =>
    rw [hcut] at hroot
    rcases List.mem_append.1 hroot with hfirst | hrest
    · split_ifs at hfirst
      · simp at hfirst
      · exact component?_ne_root _ (Option.mem_toList.1 hfirst)
    · obtain ⟨s, -, hs⟩ := List.mem_filterMap.1 hrest
      exact component?_ne_root s hs

/-- An absolute path has the root among its steps. -/
theorem isAbsolute_iff_root_mem_steps : p.isAbsolute = true ↔ Component.root ∈ p.steps := by
  constructor
  · intro h
    obtain ⟨rest, hsteps, -⟩ := exists_steps_of_isAbsolute h
    rw [hsteps]
    exact List.mem_cons_self
  · intro hroot
    by_contra h
    rw [steps_eq] at hroot
    rcases mem_foldl_pushPart (List.mem_reverse.1 hroot) with hmem | hmem
    · cases hmem
    · exact root_notMem_components (Bool.not_eq_true _ ▸ h) hmem

theorem exists_names_of_named {cs : List Component} (h : ∀ c ∈ cs, c.IsNamed) :
    ∃ names : List Bytes, cs = names.map .name := by
  induction cs with
  | nil => exact ⟨[], rfl⟩
  | cons c cs ih =>
    obtain ⟨n, rfl⟩ := h c List.mem_cons_self
    obtain ⟨names, rfl⟩ := ih fun d hd => h d (List.mem_cons_of_mem _ hd)
    exact ⟨n :: names, rfl⟩

/-- The components of a path that stays below are its names. -/
theorem StaysBelow.components_eq (h : q.StaysBelow) :
    q.components = q.rootNames.reverse.map .name := by
  obtain ⟨names, hnames⟩ := exists_names_of_named h.named
  rw [rootNames, hnames, foldl_pushName_names, List.append_nil, List.reverse_reverse]

end Path

namespace World

variable {w : World} {p q : Path} {n : Bytes}

/-- **A path that is above another** is above it in every tree, when it ends with a name. -/
theorem placeOf_above (w : World) (hlast : p.steps.getLast? = some (.name n)) (h : p.IsAbove q) :
    w.placeOf p <:+ w.placeOf q ∧ w.placeOf p ≠ w.placeOf q := by
  have hp : p.steps ≠ [] := fun hnil => by simp [hnil] at hlast
  obtain ⟨⟨rest, hrest⟩, hne⟩ := (isAbove_iff_steps hp).1 h
  obtain ⟨names, rfl⟩ := exists_names_of_steps hrest.symm hlast
  have hstart : w.start p = w.start q := by
    have hiff : p.isAbsolute = true ↔ q.isAbsolute = true := by
      rw [isAbsolute_iff_root_mem_steps, isAbsolute_iff_root_mem_steps, ← hrest]
      simp
    simp [start, hiff]
  have hplace : w.placeOf q = names.reverse ++ w.placeOf p := by
    rw [placeOf_eq_foldl_steps, placeOf_eq_foldl_steps, ← hrest, List.foldl_append,
      foldl_pushName_names, hstart]
  refine ⟨⟨_, hplace.symm⟩, fun heq => hne ?_⟩
  have hnil : names.reverse = [] := List.append_left_eq_self.1 (hplace.symm.trans heq.symm)
  rw [← hrest, List.reverse_eq_nil_iff.1 hnil, List.map_nil, List.append_nil]

/-- A path that stays below what it is joined onto leads its names further down. -/
theorem placeOf_join (w : World) (p : Path) (h : q.StaysBelow) :
    w.placeOf (p.join q) = q.rootNames ++ w.placeOf p := by
  have hstart : w.start (p.join q) = w.start p := by
    have hiff : (p.join q).isAbsolute = true ↔ p.isAbsolute = true := by
      rw [isAbsolute_iff_root_mem_steps, isAbsolute_iff_root_mem_steps, h.steps_join,
        h.components_eq]
      simp
    simp [start, hiff]
  rw [placeOf_eq_foldl_steps, h.steps_join, h.components_eq, List.foldl_append,
    foldl_pushName_names, List.reverse_reverse, hstart, ← placeOf_eq_foldl_steps]

end World

end GoldenCheck
