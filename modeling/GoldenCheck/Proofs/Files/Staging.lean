import GoldenCheck.Proofs.Files.Directories
import GoldenCheck.Staging

/-!
# Staging files come and go

What making a staging file, removing it and moving it to a path do to what lies at each location. A
staging file is made where nothing lies (`Staging.make_eq_ok`). A file that is moved to a path is
found there afterwards, and nowhere else (`World.moveTo_eq_ok`).
-/

namespace GoldenCheck

@[simp] theorem FileTree.get?_setTime (t : FileTree) (l k : Location) (time : Int) :
    (t.setTime l time).get? k = t.get? k := by
  cases k <;> rfl

namespace Staging

variable {w w' : World} {output : Path} {staging : Location}

/-- A free name is free. -/
theorem get?_of_freshName? {tree : FileTree} {directory : Location} {name : Bytes}
    (h : freshName? tree directory output = some name) : tree.get? (name :: directory) = none := by
  simpa using List.find?_some h

/-- A staging file is made where nothing lies. -/
theorem make_eq_ok (h : make w output = .ok (staging, w')) :
    staging ≠ [] ∧ w.tree.get? staging = none ∧
      w' = { w with tree := w.tree.insert staging (.file []) } := by
  unfold make at h
  obtain ⟨⟨directory, entry⟩, -, h⟩ := bind_eq_ok_iff.1 h
  simp only at h
  split_ifs at h
  · exact (throw_bind_ne_ok h).elim
  · split at h
    · exact (throw_ne_ok h).elim
    · rename_i name hname
      split_ifs at h
      · exact (throw_bind_ne_ok h).elim
      · cases pure_eq_ok_iff.1 h
        exact ⟨List.cons_ne_nil _ _, get?_of_freshName? hname, rfl⟩

/-- A staging file is made in a directory that is there. -/
theorem exists_lookup_of_make (h : make w output = .ok (staging, w')) :
    ∃ l, w.lookup (directoryOf output) = .ok (l, .directory) := by
  unfold make at h
  obtain ⟨⟨directory, entry⟩, hlookup, h⟩ := bind_eq_ok_iff.1 h
  simp only at h
  split_ifs at h with hdirectory
  · exact (throw_bind_ne_ok h).elim
  · obtain rfl : entry = .directory := by cases entry <;> simp [Entry.isDirectory] at hdirectory ⊢
    exact ⟨directory, hlookup⟩

/-- A staging file that is no directory is removed, and nothing else. -/
theorem remove_eq (hne : staging ≠ []) (hfile : w.tree.get? staging ≠ some .directory) :
    (remove w staging).cwd = w.cwd ∧ (remove w staging).tree.get? staging = none ∧
      ∀ l, l ≠ staging → (remove w staging).tree.get? l = w.tree.get? l := by
  have heq : remove w staging = { w with tree := w.tree.erase staging } := by
    unfold remove
    split
    · rename_i hdir
      exact absurd hdir hfile
    · rfl
  rw [heq]
  exact ⟨rfl, FileTree.get?_erase_self _ hne, fun l hl => FileTree.get?_erase_of_ne _ hl⟩

end Staging

namespace World

variable {w w' : World} {l : Location} {p : Path}

/-- What there must be to move something to a path, and what becomes of the files. -/
theorem moveTo_eq_ok (h : w.moveTo l p = .ok w') :
    ∃ parent name e, w.target p = .ok (.child parent name false) ∧
      w.tree.get? (name :: parent) ≠ some .directory ∧ w.tree.get? l = some e ∧
      w' = { w with
        tree := ((w.tree.erase l).insert (name :: parent) e).setTime (name :: parent)
          (w.tree.timeOf l) } := by
  unfold moveTo at h
  split_ifs at h
  · exact (throw_bind_ne_ok h).elim
  · obtain ⟨target, htarget, h⟩ := bind_eq_ok_iff.1 h
    split at h
    · exact (throw_ne_ok h).elim
    · rename_i parent name slashed
      split_ifs at h with hslashed
      · exact (throw_bind_ne_ok h).elim
      · rw [Bool.not_eq_true] at hslashed
        subst hslashed
        split at h
        · exact (throw_ne_ok h).elim
        · exact (throw_ne_ok h).elim
        · rename_i e he hdir
          exact ⟨parent, name, e, htarget, hdir, he, (pure_eq_ok_iff.1 h).symm⟩

/-- **A file that is moved to a path** is found there, has left its own place, and all else stays. -/
theorem moveTo_spec {content : Bytes} (h : w.moveTo l p = .ok w')
    (hl : w.tree.get? l = some (.file content)) :
    w'.lookup p = .ok (w.placeOf p, .file content) ∧ w'.cwd = w.cwd ∧
      (l ≠ w.placeOf p → w'.tree.get? l = none) ∧
      ∀ k, k ≠ w.placeOf p → k ≠ l → w'.tree.get? k = w.tree.get? k := by
  obtain ⟨parent, name, e, htarget, hdir, he, rfl⟩ := moveTo_eq_ok h
  obtain rfl : e = .file content := Option.some.inj (he.symm.trans hl)
  have hplace := place_of_target htarget
  have hne : l ≠ [] := fun htop => by simp [htop] at hl
  have hothers : ∀ k, k ≠ name :: parent → k ≠ l →
      ((w.tree.erase l).insert (name :: parent) (.file content)).get? k = w.tree.get? k :=
    fun k hk hkl => by rw [FileTree.get?_insert_of_ne _ _ hk, FileTree.get?_erase_of_ne _ hkl]
  rw [hplace]
  refine ⟨lookup_of_target htarget rfl (fun m hm => ?_) ?_, rfl, fun hlp => ?_, fun k hk hkl => ?_⟩
  · -- Neither place was a directory, so directories are where they were.
    have hm₁ : m ≠ name :: parent := fun heq => hdir (heq ▸ hm)
    have hm₂ : m ≠ l := fun heq => by
      rw [heq, hl] at hm
      cases hm
    simpa [hothers m hm₁ hm₂] using hm
  · simp [FileTree.get?_insert_self]
  · rw [FileTree.get?_setTime, FileTree.get?_insert_of_ne _ _ hlp, FileTree.get?_erase_self _ hne]
  · rw [FileTree.get?_setTime, hothers k hk hkl]

end World

end GoldenCheck
