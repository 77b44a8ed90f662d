import GoldenCheck.Proofs.Files.Parent

/-!
# Making the way to a directory

Whether or not a directory can be made in the end: making it with all that is missing on the way
changes nothing except that directories come to lie where nothing lay, and these are on the way
(`makeAllDirectories_grown`). A path that does not go up leads where it led when the way to its own
directory is made (`Grown.lookup_eq`).

A path that goes up can be in its own way (`IsInItsOwnWay`): the directory of `x/../x` is `x/..`, and
making that makes `x`. At the place of no other path something comes to lie (`Grown.get?_placeOf`). A path that
goes up can also come to lead to what lay at its place all along, out of sight (`IsOutOfSight`): `x/../y` leads
nowhere while there is no `x`. All others lead where they led, or still nowhere (`Grown.lookup_eq_of_insight`).
-/

namespace GoldenCheck

open Relation

namespace World

/-- What lies at a location is what lay there, unless it is a new directory, named on the way to a
path. -/
def KeptAt (way : Path) (w w' : World) (l : Location) : Prop :=
  w'.tree.get? l = w.tree.get? l ∨
    w.tree.get? l = none ∧ w'.tree.get? l = some .directory ∧
      ∃ q, way.OnTheWay q ∧ q.IsNamed ∧ w.placeOf q = l

/-- Nothing lies at the place of a path, and the way to its directory leads through there. -/
def IsInItsOwnWay (w : World) (p : Path) : Prop :=
  w.tree.get? (w.placeOf p) = none ∧
    ∃ q, (Staging.directoryOf p).OnTheWay q ∧ q.IsNamed ∧ w.placeOf q = w.placeOf p

/-- Something lies at the place of a path, but the path does not lead there. -/
def IsOutOfSight (w : World) (p : Path) : Prop :=
  w.tree.get? (w.placeOf p) ≠ none ∧ ∀ found, w.lookup p ≠ .ok found

/-- Nothing has changed but that directories on the way to a path have come to exist. -/
structure Grown (way : Path) (w w' : World) : Prop where
  cwd : w'.cwd = w.cwd
  entries : ∀ l, KeptAt way w w' l

variable {w w' w'' : World} {p : Path} {l : Location}

theorem placeOf_congr (h : w'.cwd = w.cwd) (p : Path) : w'.placeOf p = w.placeOf p := by
  rw [placeOf, placeOf, start, start, h]

/-- What lay there still does. -/
theorem KeptAt.get?_eq {e : Entry} (h : KeptAt p w w' l) (he : w.tree.get? l = some e) :
    w'.tree.get? l = some e := by
  rcases h with h | ⟨hnone, -⟩
  · rw [h, he]
  · rw [hnone] at he
    cases he

theorem KeptAt.content?_eq (h : KeptAt p w w' l) : w'.tree.content? l = w.tree.content? l := by
  rcases h with h | ⟨hnone, hdir, -⟩
  · rw [FileTree.content?, FileTree.content?, h]
  · rw [FileTree.content?, FileTree.content?, hnone, hdir]

theorem KeptAt.congr (h : KeptAt p w w' l) (heq : w''.tree.get? l = w'.tree.get? l) :
    KeptAt p w w'' l := by
  rw [KeptAt, heq]
  exact h

namespace Grown

theorem refl (p : Path) (w : World) : Grown p w w where
  cwd := rfl
  entries _ := Or.inl rfl

theorem trans (h : Grown p w w') (h' : Grown p w' w'') : Grown p w w'' where
  cwd := h'.cwd.trans h.cwd
  entries l := by
    rcases h.entries l with heq | ⟨hnone, hdir, hway⟩
    · rcases h'.entries l with heq' | ⟨hnone', hdir', q, hq, hnamed, hplace⟩
      · exact Or.inl (heq'.trans heq)
      · exact Or.inr ⟨heq ▸ hnone', hdir', q, hq, hnamed, placeOf_congr h.cwd q ▸ hplace⟩
    · exact Or.inr ⟨hnone, (h'.entries l).get?_eq hdir, hway⟩

/-- Directories on the way to the parent are on the way. -/
theorem of_parent {parent : Path} (hp : p.parent? = some parent) (h : Grown parent w w') :
    Grown p w w' where
  cwd := h.cwd
  entries l := by
    rcases h.entries l with heq | ⟨hnone, hdir, q, hq, hplace⟩
    · exact Or.inl heq
    · exact Or.inr ⟨hnone, hdir, q, ReflTransGen.head hp hq, hplace⟩

end Grown

/-- A directory can be made where nothing lies. -/
theorem makeDirectory_eq_ok (h : w.makeDirectory p = .ok w') :
    p.IsNamed ∧ w.tree.get? (w.placeOf p) = none ∧
      w' = { w with tree := w.tree.insert (w.placeOf p) .directory } := by
  unfold makeDirectory at h
  obtain ⟨target, htarget, h⟩ := bind_eq_ok_iff.1 h
  split at h
  · exact (throw_ne_ok h).elim
  · obtain ⟨before, silent, hsegments, hsilent, -, -, -, -, hname, -⟩ := target_eq_child htarget
    have hnamed : p.IsNamed :=
      ⟨before, _, silent, hsegments, hname, fun s hs => by rw [hsilent s hs]; rfl⟩
    rw [place_of_target htarget]
    split_ifs at h with hsome
    · cases pure_eq_ok_iff.1 h
      exact ⟨hnamed, by simpa using hsome, rfl⟩

theorem makeDirectory_grown (h : w.makeDirectory p = .ok w') : Grown p w w' := by
  obtain ⟨hnamed, hnone, rfl⟩ := makeDirectory_eq_ok h
  refine ⟨rfl, fun l => ?_⟩
  by_cases hl : l = w.placeOf p
  · subst hl
    have hne : w.placeOf p ≠ [] := fun htop => by simp [htop] at hnone
    exact Or.inr ⟨hnone, FileTree.get?_insert_self _ _ hne, p, ReflTransGen.refl, hnamed, rfl⟩
  · exact Or.inl (FileTree.get?_insert_of_ne _ _ hl)

/-- **Directories that are missing on the way come to exist, and nothing else changes.** -/
theorem makeDirectories_grown (fuel : Nat) (p : Path) (w : World) :
    Grown p w (w.makeDirectories fuel p).2 := by
  induction fuel generalizing p w with
  | zero => exact Grown.refl p w
  | succ fuel ih =>
    unfold makeDirectories
    extract_lets settle
    -- The last directory is made, or was there, or cannot be made.
    have hlast : ∀ v, Grown p v (settle v).2 := by
      intro v
      simp only [settle]
      split
      · rename_i v' hv
        exact makeDirectory_grown hv
      · split <;> exact Grown.refl p v
    split
    · exact Grown.refl p w
    · split
      · rename_i parent hmissing hparent
        have hway := Grown.of_parent hparent (ih parent w)
        split
        · rename_i v hv
          rw [hv] at hway
          exact hway.trans (hlast v)
        · rename_i cause v hv
          rw [hv] at hway
          exact hway
      · exact hlast w

theorem makeAllDirectories_grown {result : Except SystemError Unit}
    (h : w.makeAllDirectories p = (result, w')) : Grown p w w' := by
  have hgrown := makeDirectories_grown (p.bytes.length + 1) p w
  rw [makeAllDirectories] at h
  rwa [h] at hgrown

/-- A path that does not go up is not in its own way. -/
theorem not_isInItsOwnWay (hup : p.NeverUp) : ¬ w.IsInItsOwnWay p := by
  rintro ⟨-, q, hq, hnamed, hplace⟩
  exact placeOf_ne_of_onTheWay hq hup hnamed w hplace

/-- What a path leads to it leads to still. -/
theorem Grown.lookup_eq_ok {way : Path} {found : Location × Entry} (h : Grown way w w')
    (hl : w.lookup p = .ok found) : w'.lookup p = .ok found :=
  lookup_of_lookup hl h.cwd (fun m => (h.entries m).get?_eq)
    ((h.entries found.1).get?_eq (lookup_eq_ok_iff.1 hl).2.2)

/-- At the place of a path that is not in its own way, nothing changes when the way to its directory is
made. -/
theorem Grown.get?_placeOf (h : Grown (Staging.directoryOf p) w w') (hway : ¬ w.IsInItsOwnWay p) :
    w'.tree.get? (w.placeOf p) = w.tree.get? (w.placeOf p) := by
  rcases h.entries (w.placeOf p) with heq | ⟨hnone, -, hthrough⟩
  · exact heq
  · exact absurd ⟨hnone, hthrough⟩ hway

/-- What such a path leads to then lay at its place before. -/
theorem Grown.get?_of_lookup {found : Location × Entry} (h : Grown (Staging.directoryOf p) w w')
    (hway : ¬ w.IsInItsOwnWay p) (hl : w'.lookup p = .ok found) :
    w.tree.get? (w.placeOf p) = some found.2 := by
  have hentry := (lookup_eq_ok_iff.1 hl).2.2
  rwa [← place_of_lookup hl, placeOf_congr h.cwd, h.get?_placeOf hway] at hentry

/-- A path leads where it led, or still nowhere, unless it is in its own way or something was out of its sight. -/
theorem Grown.lookup_eq_of_insight (h : Grown (Staging.directoryOf p) w w') (hway : ¬ w.IsInItsOwnWay p)
    (hsight : ¬ w.IsOutOfSight p) : (w'.lookup p).toOption = (w.lookup p).toOption := by
  cases hl : w.lookup p with
  | ok found => rw [h.lookup_eq_ok hl]
  | error cause =>
    cases hl' : w'.lookup p with
    | error cause' => rfl
    | ok found =>
      refine absurd ⟨?_, fun found hfound => by cases hl.symm.trans hfound⟩ hsight
      rw [h.get?_of_lookup hway hl']
      exact Option.some_ne_none _

/-! ### What paths lead to

New directories can bring something in sight only by a way that goes up again, or when it lay where
there was no directory for it. -/

/-- Everything lies in a directory. -/
def IsClosed (w : World) : Prop :=
  ∀ n l, (w.tree.get? (n :: l)).isSome = true → w.tree.get? l = some .directory

/-- Above everything there are directories. -/
theorem IsClosed.directory_of_suffix (hclosed : w.IsClosed) {m : Location}
    (hl : (w.tree.get? l).isSome = true) (hm : m <:+ l) (hne : m ≠ l) :
    w.tree.get? m = some .directory := by
  induction l with
  | nil => exact absurd (List.suffix_nil.1 hm) hne
  | cons n l ih =>
    have hdir := hclosed n l hl
    rcases List.suffix_cons_iff.1 hm with heq | hm
    · exact absurd heq hne
    · by_cases hml : m = l
      · rw [hml, hdir]
      · exact ih (by rw [hdir]; rfl) hm hml

/-- A walk that never goes up was possible before, if what is at its end was there. -/
theorem IsClosed.walk (hclosed : w.IsClosed) (hl : (w.tree.get? l).isSome = true)
    (hsame : w'.tree.get? l = w.tree.get? l) {segments : List Bytes} {m : Location}
    (hup : [Path.dot, Path.dot] ∉ segments) (hwalk : segments.foldlM w'.step m = .ok l) :
    segments.foldlM w.step m = .ok l ∧ m <:+ l := by
  induction segments generalizing m with
  | nil => exact ⟨hwalk, (pure_eq_ok_iff.1 hwalk) ▸ List.suffix_refl _⟩
  | cons segment segments ih =>
    rw [List.foldlM_cons, bind_eq_ok_iff] at hwalk ⊢
    obtain ⟨k, hk, hrest⟩ := hwalk
    rw [List.mem_cons, not_or] at hup
    obtain ⟨hrest', hkl⟩ := ih hup.2 hrest
    obtain ⟨hm, hspelled, hname⟩ := step_eq_ok_iff.1 hk
    have hmk : m <:+ k := by
      rw [hspelled, spelledStep, if_neg (Ne.symm hup.1)]
      split
      · exact List.suffix_refl _
      · exact List.suffix_cons _ _
    refine ⟨⟨k, step_eq_ok_iff.2 ⟨?_, hspelled, fun hn => ⟨(hname hn).1, ?_⟩⟩, hrest'⟩,
      hmk.trans hkl⟩
    · by_cases hml : m = l
      · rw [hml, ← hsame, ← hml, hm]
      · exact hclosed.directory_of_suffix hl (hmk.trans hkl) hml
    · by_cases hne : k = l
      · rw [hne, hl]
      · rw [hclosed.directory_of_suffix hl hkl hne]
        rfl

/-- **A path that does not go up leads where it led**, or still nowhere, when the way to its directory
is made. -/
theorem Grown.lookup_eq (h : Grown (Staging.directoryOf p) w w') (hclosed : w.IsClosed)
    (hup : p.NeverUp) : (w'.lookup p).toOption = (w.lookup p).toOption := by
  have hsame := h.get?_placeOf (not_isInItsOwnWay hup)
  have hiff : ∀ l e, w'.lookup p = .ok (l, e) ↔ w.lookup p = .ok (l, e) := by
    intro l e
    constructor
    · intro hl
      have hplace : w.placeOf p = l := (placeOf_congr h.cwd p).symm.trans (place_of_lookup hl)
      obtain ⟨hcheck, hwalk, he⟩ := lookup_eq_ok_iff.1 hl
      rw [hplace] at hsame
      have he' : w.tree.get? l = some e := hsame.symm.trans he
      rw [start, h.cwd] at hwalk
      exact lookup_eq_ok_iff.2
        ⟨hcheck, (hclosed.walk (by rw [he']; rfl) hsame hup hwalk).1, he'⟩
    · exact h.lookup_eq_ok
  cases hw : w.lookup p with
  | ok found => rw [(hiff found.1 found.2).2 hw]
  | error cause =>
    cases hw' : w'.lookup p with
    | ok found => simp [(hiff found.1 found.2).1 hw'] at hw
    | error cause' => rfl

end World

end GoldenCheck
