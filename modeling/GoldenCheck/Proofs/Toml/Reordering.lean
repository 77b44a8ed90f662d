import GoldenCheck.Proofs.Toml.Building
import Mathlib.Data.List.Forall2
import Mathlib.Data.List.Nodup
import Mathlib.Logic.Relation

/-!
# Documents with their keys in another order

A document is a tree of tables and arrays, in which a table has each of its keys once (`Toml.KeysOnce`); so it is
read from any text (`Toml.parse?_keysOnce`). Such a tree can have the keys of one of its tables in another order
(`Toml.Reordered`), and so of any of them, one after the other. A reordered table has the same keys, each with its value, or with the value reordered
(`Table.Reordered.get?_cases`), so that what is asked of a table by its keys does not notice. The keys are still
there once (`Reordered.keysOnce`).
-/

namespace GoldenCheck

namespace Toml

/-- No table in the value has a key twice. -/
inductive KeysOnce : Toml → Prop where
  | text (s : String) : KeysOnce (.text s)
  | integer (n : Int) : KeysOnce (.integer n)
  | floating (x : Floating) : KeysOnce (.floating x)
  | boolean (b : Bool) : KeysOnce (.boolean b)
  | moment (written : String) : KeysOnce (.moment written)
  | array {items : List Toml} (h : ∀ v ∈ items, KeysOnce v) : KeysOnce (.array items)
  | table {members : Table} (once : (members.map Prod.fst).Nodup) (h : ∀ m ∈ members, KeysOnce m.2) :
    KeysOnce (.table members)

/-- The same value, but for the order of the keys in one of its tables. -/
inductive Reordered : Toml → Toml → Prop where
  /-- The order is the same. -/
  | refl (v : Toml) : Reordered v v
  /-- The keys of the table itself are reordered. -/
  | here {ms ns : Table} (perm : ms.Perm ns) : Reordered (.table ms) (.table ns)
  /-- Those of a table in an item of the array. -/
  | item {before after : List Toml} {v w : Toml} (inside : Reordered v w) :
    Reordered (.array (before ++ v :: after)) (.array (before ++ w :: after))
  /-- Those of a table in the value of a key. -/
  | member {before after : Table} {key : String} {v w : Toml} (inside : Reordered v w) :
    Reordered (.table (before ++ (key, v) :: after)) (.table (before ++ (key, w) :: after))

variable {ms ns : Table} {items : List Toml} {key : String} {v w : Toml}

/-! ### Keys that are there once -/

theorem keysOnce_array_iff : KeysOnce (.array items) ↔ ∀ v ∈ items, KeysOnce v := by
  refine ⟨fun h => ?_, .array⟩
  cases h with
  | array h => exact h

theorem keysOnce_table_iff :
    KeysOnce (.table ms) ↔ (ms.map Prod.fst).Nodup ∧ ∀ m ∈ ms, KeysOnce m.2 := by
  refine ⟨fun h => ?_, fun h => .table h.1 h.2⟩
  cases h with
  | table once h => exact ⟨once, h⟩

theorem isBuilt_keysOnce : IsBuilt KeysOnce where
  text := .text
  integer _ := .integer _
  floating := .floating
  boolean := .boolean
  moment := .moment
  array := .array
  table := .table

/-- **A document that is read** has each of its keys once. -/
theorem parse?_keysOnce {text : String} {table : Table} (h : parse? text = some table) :
    KeysOnce (.table table) :=
  parse?_of_isBuilt isBuilt_keysOnce h

theorem Table.mem_of_get? (h : ms.get? key = some v) : (key, v) ∈ ms := by
  obtain ⟨before, after, rfl, -⟩ := List.lookup_eq_some_iff.1 h
  simp

theorem Table.get?_eq_none_iff : ms.get? key = none ↔ ∀ m ∈ ms, m.1 ≠ key := by
  rw [get?, List.lookup_eq_none_iff]
  exact forall₂_congr fun m _ => bne_iff_ne.trans ne_comm

/-- A key that is there once has the one value. -/
theorem Table.get?_eq_some_iff (once : (ms.map Prod.fst).Nodup) :
    ms.get? key = some v ↔ (key, v) ∈ ms := by
  refine ⟨mem_of_get?, fun h => ?_⟩
  obtain ⟨before, after, rfl⟩ := List.append_of_mem h
  rw [List.map_append, List.map_cons, List.nodup_append] at once
  refine List.lookup_eq_some_iff.2 ⟨before, after, rfl, fun p hp => bne_iff_ne.2 fun heq => ?_⟩
  exact once.2.2 p.1 (List.mem_map_of_mem hp) key (by simp) heq.symm

/-! ### What a reordering can do -/

/-- An array is reordered item by item. -/
theorem Reordered.array_cases (h : Reordered (.array items) w) :
    ∃ items', w = .array items' ∧ List.Forall₂ Reordered items items' := by
  generalize hv : Toml.array items = v at h
  cases h with
  | refl =>
    subst hv
    exact ⟨items, rfl, List.forall₂_same.2 fun v _ => .refl v⟩
  | here | member => cases hv
  | @item before after v w inside =>
    cases hv
    refine ⟨_, rfl, ?_⟩
    exact List.rel_append (List.forall₂_same.2 fun v _ => .refl v)
      (.cons inside (List.forall₂_same.2 fun v _ => .refl v))

/-- The keys of `ns` are those of `ms`, and each has its value or the value reordered. -/
structure Table.Reordered (ms ns : Table) : Prop where
  keys : (ms.map Prod.fst).Perm (ns.map Prod.fst)
  values : ∀ n ∈ ns, ∃ m ∈ ms, m.1 = n.1 ∧ Toml.Reordered m.2 n.2

/-- A table is reordered as such, or value by value. -/
theorem Reordered.table_cases (h : Reordered (.table ms) w) : ∃ ns, w = .table ns ∧ ms.Reordered ns := by
  generalize hv : Toml.table ms = v at h
  cases h with
  | refl =>
    subst hv
    exact ⟨ms, rfl, .refl _, fun n hn => ⟨n, hn, rfl, .refl _⟩⟩
  | item => cases hv
  | here perm =>
    cases hv
    exact ⟨_, rfl, perm.map _, fun n hn => ⟨n, perm.mem_iff.2 hn, rfl, .refl _⟩⟩
  | @member before after key v w inside =>
    cases hv
    refine ⟨_, rfl, by simp, fun n hn => ?_⟩
    simp only [List.mem_append, List.mem_cons] at hn
    rcases hn with hn | rfl | hn
    · exact ⟨n, by simp [hn], rfl, .refl _⟩
    · exact ⟨(key, v), by simp, rfl, inside⟩
    · exact ⟨n, by simp [hn], rfl, .refl _⟩

/-- **What is asked of a table by a key**, before and after it is reordered. -/
theorem Table.Reordered.get?_cases (h : ms.Reordered ns) (once : (ms.map Prod.fst).Nodup) (key : String) :
    (ms.get? key = none ∧ ns.get? key = none) ∨
      ∃ v w, ms.get? key = some v ∧ ns.get? key = some w ∧ Toml.Reordered v w := by
  cases hfound : ns.get? key with
  | none =>
    refine Or.inl ⟨Table.get?_eq_none_iff.2 fun m hm heq => ?_, rfl⟩
    obtain ⟨n, hn, hkey⟩ := List.mem_map.1 (h.keys.mem_iff.1 (List.mem_map_of_mem hm))
    exact Table.get?_eq_none_iff.1 hfound n hn (hkey.trans heq)
  | some w =>
    obtain ⟨m, hm, rfl, hinside⟩ := h.values _ (Table.mem_of_get? hfound)
    exact Or.inr ⟨m.2, w, (Table.get?_eq_some_iff once).2 hm, rfl, hinside⟩

/-- A reordered value has its keys once when the value has. -/
theorem Reordered.keysOnce (h : Reordered v w) (once : KeysOnce v) : KeysOnce w := by
  induction h with
  | refl => exact once
  | here perm =>
    rw [keysOnce_table_iff] at once ⊢
    exact ⟨(perm.map _).nodup_iff.1 once.1, fun m hm => once.2 m (perm.mem_iff.2 hm)⟩
  | item inside ih =>
    rw [keysOnce_array_iff] at once ⊢
    simp only [List.mem_append, List.mem_cons] at once ⊢
    rintro u (hu | rfl | hu)
    · exact once u (Or.inl hu)
    · exact ih (once _ (Or.inr (Or.inl rfl)))
    · exact once u (Or.inr (Or.inr hu))
  | member inside ih =>
    rw [keysOnce_table_iff] at once ⊢
    refine ⟨by simpa using once.1, ?_⟩
    have hall := once.2
    simp only [List.mem_append, List.mem_cons] at hall ⊢
    rintro u (hu | rfl | hu)
    · exact hall u (Or.inl hu)
    · exact ih (hall _ (Or.inr (Or.inl rfl)))
    · exact hall u (Or.inr (Or.inr hu))

end Toml

end GoldenCheck
