import GoldenCheck.TestCase
import Mathlib.Data.List.Nodup
import Mathlib.Data.String.Basic

/-!
# The variables of a case

The variables of a case stand in the order of their names, each name once (`Environment.IsOrdered`), whatever
the order is in which they are set. Such variables are known from which settings there are
(`IsOrdered.eq_of_perm`), so that settings of different names can be made in any order (`ofList_perm`).
-/

namespace GoldenCheck

namespace Environment

/-- The names stand in order, each once. -/
def IsOrdered (env : Environment) : Prop := env.bindings.Pairwise fun b c => b.1 < c.1

variable {env env' : Environment} {bindings settings settings' : List (String × String)}
  {name value : String} {b : String × String}

/-- One binding of the name is there afterwards, and the bindings of other names are as before. -/
theorem mem_insertSorted (h : bindings.Pairwise fun b c => b.1 < c.1) :
    b ∈ insertSorted name value bindings ↔ b = (name, value) ∨ (b ∈ bindings ∧ b.1 ≠ name) := by
  induction bindings with
  | nil => simp [insertSorted]
  | cons c bindings ih =>
    obtain ⟨n, v⟩ := c
    rw [List.pairwise_cons] at h
    have hafter : ∀ b ∈ bindings, n < b.1 := h.1
    unfold insertSorted
    split_ifs with heq hlt
    · -- Only the first binding has the name.
      subst heq
      have hothers : ∀ b ∈ bindings, b.1 ≠ name := fun b hb => (hafter b hb).ne'
      grind
    · -- The name comes before all that are there.
      have hothers : ∀ b ∈ bindings, b.1 ≠ name := fun b hb => (hlt.trans (hafter b hb)).ne'
      grind
    · grind

theorem isOrdered_insert (h : env.IsOrdered) (name value : String) : (env.insert name value).IsOrdered := by
  obtain ⟨bindings⟩ := env
  simp only [IsOrdered, insert] at h ⊢
  induction bindings with
  | nil => simp [insertSorted]
  | cons c bindings ih =>
    obtain ⟨n, v⟩ := c
    have hrest := h
    rw [List.pairwise_cons] at h
    unfold insertSorted
    split_ifs with heq hlt
    · subst heq
      exact List.pairwise_cons.2 h
    · refine List.pairwise_cons.2 ⟨fun b hb => ?_, hrest⟩
      rcases List.mem_cons.1 hb with rfl | hb
      · exact hlt
      · exact hlt.trans (h.1 b hb)
    · refine List.pairwise_cons.2 ⟨fun b hb => ?_, ih h.2⟩
      rcases (mem_insertSorted h.2).1 hb with rfl | hb
      · exact lt_of_le_of_ne (not_lt.1 hlt) (Ne.symm heq)
      · exact h.1 b hb.1

theorem isOrdered_ofList (settings : List (String × String)) : (ofList settings).IsOrdered := by
  suffices hall : ∀ env : Environment, env.IsOrdered →
      (settings.foldl (fun env s => env.insert s.1 s.2) env).IsOrdered from
    hall _ List.Pairwise.nil
  induction settings with
  | nil => exact fun env h => h
  | cons s settings ih => exact fun env h => ih _ (isOrdered_insert h s.1 s.2)

/-- **The variables are those that are set**, when no name is set twice. -/
theorem mem_ofList (once : (settings.map Prod.fst).Nodup) :
    b ∈ (ofList settings).bindings ↔ b ∈ settings := by
  suffices hall : ∀ env : Environment, env.IsOrdered →
      (b ∈ (settings.foldl (fun env s => env.insert s.1 s.2) env).bindings ↔
        b ∈ settings ∨ b ∈ env.bindings ∧ b.1 ∉ settings.map Prod.fst) by
    rw [ofList, hall empty List.Pairwise.nil]
    simp [empty]
  induction settings with
  | nil => simp
  | cons s settings ih =>
    intro env h
    rw [List.map_cons, List.nodup_cons] at once
    rw [List.foldl_cons, ih once.2 _ (isOrdered_insert h s.1 s.2), insert, mem_insertSorted h]
    have hfirst : b = s → b.1 ∉ settings.map Prod.fst := fun hb => hb ▸ once.1
    simp only [List.map_cons, List.mem_cons]
    tauto

theorem IsOrdered.nodup (h : env.IsOrdered) : env.bindings.Nodup :=
  h.imp fun hlt heq => absurd (congrArg Prod.fst heq) hlt.ne

theorem perm_ofList (once : (settings.map Prod.fst).Nodup) : settings.Perm (ofList settings).bindings :=
  (List.perm_ext_iff_of_nodup (List.Nodup.of_map _ once) (isOrdered_ofList settings).nodup).2 fun _ =>
    (mem_ofList once).symm

/-- Ordered variables are known from their bindings. -/
theorem IsOrdered.eq_of_perm (h : env.IsOrdered) (h' : env'.IsOrdered)
    (hperm : env.bindings.Perm env'.bindings) :
    env = env' := by
  obtain ⟨bindings⟩ := env
  obtain ⟨bindings'⟩ := env'
  exact congrArg mk (hperm.eq_of_pairwise (fun b c _ _ hbc hcb => absurd hcb hbc.not_gt) h h')

/-- **Settings of different names can be made in any order.** -/
theorem ofList_perm (once : (settings.map Prod.fst).Nodup) (hperm : settings.Perm settings') :
    ofList settings = ofList settings' := by
  have once' : (settings'.map Prod.fst).Nodup := (hperm.map _).nodup_iff.1 once
  refine (isOrdered_ofList settings).eq_of_perm (isOrdered_ofList settings') ?_
  exact (perm_ofList once).symm.trans (hperm.trans (perm_ofList once'))

end Environment

end GoldenCheck
