import GoldenCheck.Path.Derived
import GoldenCheck.Proofs.Path.Joining

/-!
# The names that are left of a path

Where each `..` takes back the name before it, and does nothing where there is none, the names of a path
are left (`Path.rootNames`). The normal form of the path ends with the same names, but it keeps every
`..` that finds no name (`Path.steps_eq_append_rootNames`). The normal form of an absolute path is known
from its names and from how many such `..` there are (`Path.excess`), and both are known from it
(`Path.normal_eq_iff_of_isAbsolute`).
-/

namespace GoldenCheck

namespace Path

variable {p q : Path}

/-- Names are all put on the stack. -/
theorem foldl_pushName_names (names before : List Bytes) :
    (names.map Component.name).foldl pushName before = names.reverse ++ before := by
  induction names generalizing before with
  | nil => rfl
  | cons n names ih => rw [List.map_cons, List.foldl_cons, ih, pushName, List.reverse_cons,
      List.append_assoc, List.singleton_append]

/-- One more step keeps the names on top of the stack, above all that is no name. -/
theorem exists_ground_pushPart {c : Component} (hc : c.IsStep) (names : List Bytes)
    {ground : List Component} (hground : ∀ d ∈ ground, ¬ d.IsNamed) : ∃ ground',
      pushPart (names.map .name ++ ground) c = (pushName names c).map .name ++ ground' ∧
        ∀ d ∈ ground', ¬ d.IsNamed := by
  cases c with
  | root | here => exact hc.elim
  | name n => exact ⟨ground, by simp [pushPart, pushName], hground⟩
  | up =>
    cases names with
    | cons n names => exact ⟨ground, by simp [pushPart, pushName], hground⟩
    | nil =>
      refine ⟨.up :: ground, ?_, ?_⟩
      · cases ground with
        | nil => rfl
        | cons d ground =>
          cases d with
          | name n => exact absurd ⟨n, rfl⟩ (hground _ List.mem_cons_self)
          | root | here | up => rfl
      · intro d hd
        rcases List.mem_cons.1 hd with rfl | hd
        · rintro ⟨n, hn⟩
          cases hn
        · exact hground d hd

theorem exists_ground_foldl {cs : List Component} (hcs : ∀ c ∈ cs, c.IsStep) (names : List Bytes)
    {ground : List Component} (hground : ∀ d ∈ ground, ¬ d.IsNamed) : ∃ ground',
      cs.foldl pushPart (names.map .name ++ ground) = (cs.foldl pushName names).map .name ++ ground' ∧
        ∀ d ∈ ground', ¬ d.IsNamed := by
  induction cs generalizing names ground with
  | nil => exact ⟨ground, rfl, hground⟩
  | cons c cs ih =>
    obtain ⟨ground', hstep, hground'⟩ :=
      exists_ground_pushPart (hcs c List.mem_cons_self) names hground
    rw [List.foldl_cons, List.foldl_cons, hstep]
    exact ih (fun d hd => hcs d (List.mem_cons_of_mem _ hd)) _ hground'

/-- **The steps of a root** are its names, after steps that are no names. -/
theorem steps_eq_append_rootNames (root : Path) : ∃ ground,
    root.steps = ground ++ root.rootNames.reverse.map .name ∧ ∀ c ∈ ground, ¬ c.IsNamed := by
  have hstack : ∃ ground, root.components.foldl pushPart [] = root.rootNames.map .name ++ ground ∧
      ∀ c ∈ ground, ¬ c.IsNamed := by
    obtain ⟨cs, hcs, hroot | hhere | hplain⟩ := components_cases root
    · have hground : ∀ c ∈ [Component.root], ¬ c.IsNamed := by
        rintro c hc ⟨n, rfl⟩
        simp at hc
      rw [rootNames, hroot]
      exact exists_ground_foldl hcs [] hground
    · rw [rootNames, hhere]
      exact exists_ground_foldl hcs [] (by simp)
    · rw [rootNames, hplain]
      exact exists_ground_foldl hcs [] (by simp)
  obtain ⟨ground, heq, hground⟩ := hstack
  refine ⟨ground.reverse, ?_, fun c hc => hground c (List.mem_reverse.1 hc)⟩
  rw [steps_eq, normalParts, heq, List.reverse_append, List.map_reverse]

/-- A root that ends with a name has this as its last name. -/
theorem head?_rootNames_of_steps {root : Path} {n : Bytes}
    (h : root.steps.getLast? = some (.name n)) : root.rootNames.head? = some n := by
  obtain ⟨ground, hsteps, hground⟩ := steps_eq_append_rootNames root
  rw [hsteps] at h
  cases hnames : root.rootNames with
  | nil =>
    rw [hnames, List.reverse_nil, List.map_nil, List.append_nil] at h
    exact absurd ⟨n, rfl⟩ (hground _ (List.mem_of_getLast? h))
  | cons last before =>
    rw [hnames] at h
    simpa using h

/-- Steps that end with all their names begin with nothing but `..`. -/
theorem eq_ups_append_names {cs ground : List Component} {names : List Bytes}
    (hcs : ∀ c ∈ cs, c.IsStep) (h : cs = ground ++ names.map .name)
    (hground : ∀ c ∈ ground, ¬ c.IsNamed) :
    cs = List.replicate (cs.count .up) .up ++ names.map .name := by
  have hups : ground = List.replicate ground.length .up := by
    refine List.eq_replicate_of_mem fun c hc => ?_
    have hstep : c.IsStep := hcs c (h ▸ List.mem_append_left _ hc)
    cases c with
    | up => rfl
    | name n => exact absurd ⟨n, rfl⟩ (hground _ hc)
    | root | here => exact hstep.elim
  have hnames : (names.map Component.name).count .up = 0 := by
    simp [List.count_eq_zero]
  have hcount : cs.count .up = ground.length := by
    rw [h, List.count_append, hnames, hups]
    simp
  rw [hcount, ← hups, h]

/-! ### Absolute paths -/

/-- How many `..` of a path find no name to take back. -/
def excess (p : Path) : Nat := p.steps.count .up

/-- The steps of an absolute path begin at the root, and go on without it. -/
theorem exists_steps_of_isAbsolute (h : p.isAbsolute = true) :
    ∃ rest, p.steps = .root :: rest ∧ ∀ c ∈ rest, c.IsStep := by
  have hplain := isPlain_normalParts p
  have hparts : normalParts p.components =
      .root :: ((p.segments.filterMap component?).foldl pushPart []).reverse := by
    have hroot := foldl_pushPart_root [] (p.segments.filterMap component?)
    rw [components_of_isAbsolute h, normalParts, List.foldl_cons,
      show pushPart [] .root = [] ++ [.root] from rfl, hroot]
    simp
  rw [hparts] at hplain
  exact ⟨_, (steps_eq p).trans hparts, hplain⟩

/-- **The steps of an absolute path** are the root, each `..` that finds no name, and the names. -/
theorem steps_of_isAbsolute (h : p.isAbsolute = true) :
    p.steps = .root :: (List.replicate p.excess .up ++ p.rootNames.reverse.map .name) := by
  obtain ⟨rest, hsteps, hrest⟩ := exists_steps_of_isAbsolute h
  obtain ⟨ground, hground, hunnamed⟩ := steps_eq_append_rootNames p
  cases ground with
  | nil =>
    have hmem : Component.root ∈ p.rootNames.reverse.map Component.name := by
      rw [← List.nil_append (p.rootNames.reverse.map _), ← hground, hsteps]
      exact List.mem_cons_self
    simp at hmem
  | cons first ground =>
    obtain ⟨rfl, hsplit⟩ : first = .root ∧
        ground ++ p.rootNames.reverse.map .name = rest := by
      simpa using hground.symm.trans hsteps
    have hunnamed' : ∀ c ∈ ground, ¬ c.IsNamed := fun c hc => hunnamed c (List.mem_cons_of_mem _ hc)
    have hups := eq_ups_append_names hrest hsplit.symm hunnamed'
    have hcount : p.excess = rest.count .up := by
      rw [excess, hsteps, List.count_cons_of_ne (by simp)]
    rw [hsteps, hcount, ← hups]

/-- **Absolute paths have one normal form** when they are left with the same names and go past the top
equally often. -/
theorem normal_eq_iff_of_isAbsolute (hp : p.isAbsolute = true) (hq : q.isAbsolute = true) :
    p.normal = q.normal ↔ p.rootNames = q.rootNames ∧ p.excess = q.excess := by
  rw [normal_eq_iff_steps]
  constructor
  · intro h
    have hexcess : p.excess = q.excess := by rw [excess, excess, h]
    rw [steps_of_isAbsolute hp, steps_of_isAbsolute hq, hexcess] at h
    have hnames := List.append_cancel_left (List.cons.inj h).2
    have hinj : Function.Injective Component.name := fun _ _ => Component.name.inj
    exact ⟨List.reverse_injective (List.map_injective_iff.2 hinj hnames), hexcess⟩
  · rintro ⟨hnames, hexcess⟩
    rw [steps_of_isAbsolute hp, steps_of_isAbsolute hq, hnames, hexcess]

end Path

end GoldenCheck
