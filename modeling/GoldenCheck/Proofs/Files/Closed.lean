import GoldenCheck.Proofs.Files.Staging
import Mathlib.Data.List.Infix

/-!
# Files lie in directories

Every entry lies in a directory (`World.IsClosed`), and it stays so when directories are made, when a
staging file is made, removed or moved to a path. All of this changes what lies at one location at a time
(`IsClosed.of_eq_off`).

Files can lie at any locations, none of which is above another (`FileTree.isClosed_holding`).
-/

namespace GoldenCheck

namespace World

variable {w w' : World} {p : Path} {l parent : Location} {name : Bytes}

/-- **One location at a time**: everything still lies in a directory when a change at one location puts
something there only if that is in a directory, and does not put something else in place of a directory. -/
theorem IsClosed.of_eq_off (hclosed : w.IsClosed)
    (hothers : ∀ l, l ≠ name :: parent → w'.tree.get? l = w.tree.get? l)
    (hparent : (w'.tree.get? (name :: parent)).isSome = true → w.tree.get? parent = some .directory)
    (hdir : w.tree.get? (name :: parent) = some .directory →
      w'.tree.get? (name :: parent) = some .directory) : w'.IsClosed := by
  intro n l hl
  -- Above the location nothing changes, and right below it there is something only in a directory.
  have habove : ∀ k, w.tree.get? k = some .directory → w'.tree.get? k = some .directory := by
    intro k hk
    by_cases heq : k = name :: parent
    · rw [heq]
      exact hdir (heq ▸ hk)
    · rw [hothers k heq, hk]
  by_cases heq : n :: l = name :: parent
  · obtain ⟨-, rfl⟩ := List.cons.inj heq
    exact habove l (hparent (heq ▸ hl))
  · rw [hothers _ heq] at hl
    exact habove l (hclosed n l hl)

/-- What does not lie at the top, and is not a directory, can be taken away. -/
theorem IsClosed.of_gone (hclosed : w.IsClosed) (hfile : w.tree.get? l ≠ some .directory)
    (hgone : w'.tree.get? l = none) (hothers : ∀ k, k ≠ l → w'.tree.get? k = w.tree.get? k) :
    w'.IsClosed := by
  cases l with
  | nil => exact absurd rfl hfile
  | cons name parent =>
    exact hclosed.of_eq_off hothers (fun h => by simp [hgone] at h) (fun h => absurd h hfile)

/-! ### Operations -/

theorem IsClosed.makeDirectory (hclosed : w.IsClosed) (h : w.makeDirectory p = .ok w') :
    w'.IsClosed := by
  unfold World.makeDirectory at h
  obtain ⟨target, htarget, h⟩ := bind_eq_ok_iff.1 h
  split at h
  · exact (throw_ne_ok h).elim
  · rename_i parent name slashed
    obtain ⟨-, -, -, -, -, -, -, hparent, -, -⟩ := target_eq_child htarget
    split_ifs at h
    cases pure_eq_ok_iff.1 h
    refine hclosed.of_eq_off (fun l hl => FileTree.get?_insert_of_ne _ _ hl) (fun _ => hparent)
      fun _ => ?_
    exact FileTree.get?_insert_self _ _ (List.cons_ne_nil _ _)

theorem IsClosed.makeDirectories (hclosed : w.IsClosed) (fuel : Nat) (p : Path) :
    (w.makeDirectories fuel p).2.IsClosed := by
  induction fuel generalizing p w with
  | zero => exact hclosed
  | succ fuel ih =>
    unfold World.makeDirectories
    extract_lets settle
    have hlast : ∀ v : World, v.IsClosed → (settle v).2.IsClosed := by
      intro v hv
      simp only [settle]
      split
      · rename_i v' hmade
        exact hv.makeDirectory hmade
      · split <;> exact hv
    split
    · exact hclosed
    · split
      · rename_i parent hmissing hparent
        have hway := ih hclosed parent
        split
        · rename_i v hv
          exact hlast v (by simpa [hv] using hway)
        · rename_i cause v hv
          simpa [hv] using hway
      · exact hlast w hclosed

theorem IsClosed.makeAllDirectories {result : Except SystemError Unit} (hclosed : w.IsClosed)
    (h : w.makeAllDirectories p = (result, w')) : w'.IsClosed := by
  have hmade := hclosed.makeDirectories (p.bytes.length + 1) p
  rw [World.makeAllDirectories] at h
  rwa [h] at hmade

/-- A staging file is made in a directory. -/
theorem IsClosed.makeStaging {output : Path} {staging : Location} (hclosed : w.IsClosed)
    (h : Staging.make w output = .ok (staging, w')) : w'.IsClosed := by
  obtain ⟨-, hfree, -⟩ := Staging.make_eq_ok h
  unfold Staging.make at h
  obtain ⟨⟨directory, entry⟩, hlookup, h⟩ := bind_eq_ok_iff.1 h
  have hentry := (lookup_eq_ok_iff.1 hlookup).2.2
  simp only at h
  split_ifs at h with hdir
  · exact (throw_bind_ne_ok h).elim
  · have hparent : w.tree.get? directory = some .directory := by
      rw [hentry]
      cases entry <;> simp [Entry.isDirectory] at hdir ⊢
    split at h
    · exact (throw_ne_ok h).elim
    · split_ifs at h
      · exact (throw_bind_ne_ok h).elim
      · cases pure_eq_ok_iff.1 h
        refine hclosed.of_eq_off (fun l hl => FileTree.get?_insert_of_ne _ _ hl) (fun _ => hparent)
          fun hdir => ?_
        rw [hfree] at hdir
        cases hdir

theorem IsClosed.removeStaging {staging : Location} (hclosed : w.IsClosed)
    (hfile : w.tree.get? staging ≠ some .directory) : (Staging.remove w staging).IsClosed := by
  have hne : staging ≠ [] := fun htop => hfile (by rw [htop]; rfl)
  obtain ⟨-, hgone, hothers⟩ := Staging.remove_eq hne hfile
  exact hclosed.of_gone hfile hgone hothers

/-- What is moved leaves its own place first, and comes to lie in a directory then. -/
theorem IsClosed.moveTo (hclosed : w.IsClosed) (hfile : w.tree.get? l ≠ some .directory)
    (h : w.moveTo l p = .ok w') : w'.IsClosed := by
  obtain ⟨parent, name, e, htarget, hdir, -, rfl⟩ := moveTo_eq_ok h
  obtain ⟨-, -, -, -, -, -, -, hparent, -, -⟩ := target_eq_child htarget
  have hne : l ≠ [] := fun htop => hfile (by rw [htop]; rfl)
  have herased : World.IsClosed { w with tree := w.tree.erase l } :=
    hclosed.of_gone hfile (FileTree.get?_erase_self _ hne)
      fun k hk => FileTree.get?_erase_of_ne _ hk
  refine herased.of_eq_off (fun k (hk : k ≠ name :: parent) => ?_) (fun _ => ?_) fun hlast => ?_
  · rw [FileTree.get?_setTime]
    exact FileTree.get?_insert_of_ne _ _ hk
  · have hapart : parent ≠ l := fun heq => hfile (heq ▸ hparent)
    exact (FileTree.get?_erase_of_ne _ hapart).trans hparent
  · by_cases heq : name :: parent = l
    · rw [heq] at hlast
      simp [FileTree.get?_erase_self _ hne] at hlast
    · rw [FileTree.get?_erase_of_ne _ heq] at hlast
      exact absurd hlast hdir

end World

/-! ### Files side by side -/

namespace FileTree

/-- The tree with files at the given places, and the directories that they lie in. -/
def holding (places : List Location) (content : Location → Bytes) : FileTree where
  entries := (places.map fun l => (l, .file (content l))) ++
    ((places.flatMap fun l => l.tail.tails).map fun l => (l, .directory))

variable {places : List Location} {content : Location → Bytes} {l : Location}

theorem lookup_map_key (keys : List Location) (f : Location → Entry) (k : Location) :
    (keys.map fun l => (l, f l)).lookup k = if k ∈ keys then some (f k) else none := by
  induction keys with
  | nil => rfl
  | cons key keys ih =>
    rw [List.map_cons, List.lookup_cons, ih]
    by_cases hk : k = key
    · simp [hk]
    · have hb : (k == key) = false := by simpa using hk
      simp [hk, hb]

/-- What lies where. -/
theorem get?_holding (hl : l ≠ []) : (holding places content).get? l =
    if l ∈ places then some (.file (content l))
    else if ∃ p ∈ places, l <:+ p.tail then some .directory else none := by
  rw [get?_of_ne_nil _ hl, holding, List.lookup_append, lookup_map_key, lookup_map_key]
  simp only [List.mem_flatMap, List.mem_tails]
  split <;> simp

/-- **Files fit side by side** when none is above another. -/
theorem isClosed_holding (hapart : ∀ p ∈ places, ∀ q ∈ places, p <:+ q → p = q) (cwd : Location) :
    World.IsClosed ⟨holding places content, cwd⟩ := by
  intro n l hl
  obtain ⟨p, hp, hlp⟩ : ∃ p ∈ places, l <:+ p.tail := by
    simp only [get?_holding (List.cons_ne_nil n l)] at hl
    split_ifs at hl with hplace hdir
    · exact ⟨n :: l, hplace, List.suffix_refl l⟩
    · obtain ⟨p, hp, hsuffix⟩ := hdir
      exact ⟨p, hp, (List.suffix_cons n l).trans hsuffix⟩
    · cases hl
  by_cases htop : l = []
  · rw [htop, get?_nil]
  · have hnone : l ∉ places := fun hmem => by
      obtain rfl := hapart l hmem p hp (hlp.trans (List.tail_suffix p))
      have hlen := hlp.length_le
      have hpos := List.length_pos_iff.2 htop
      rw [List.length_tail] at hlen
      omega
    rw [get?_holding htop, if_neg hnone, if_pos ⟨p, hp, hlp⟩]

end FileTree

end GoldenCheck
