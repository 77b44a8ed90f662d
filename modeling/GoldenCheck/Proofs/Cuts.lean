import Mathlib.Data.List.Basic

/-!
# Lists cut at a separator

`List.splitOn` cuts a list at each separator. A list without the separator is one part, and the first
separator of any other list has such a part before it (`cut_induction`). So no part has the separator in it
(`notMem_of_mem_splitOn`), parts that are each ended by the separator are cut apart again
(`splitOn_flatMap_ended`), and a way of reading lists that keeps separators reads the parts one by one
(`splitOn_read`).
-/

namespace GoldenCheck

variable {α β : Type} [DecidableEq α] [DecidableEq β] {a x : α} {b : β}

/-- Lists are taken apart at their first separator. -/
theorem cut_induction {motive : List α → Prop} (a : α) (whole : ∀ xs, a ∉ xs → motive xs)
    (cut : ∀ xs ys, a ∉ xs → motive ys → motive (xs ++ a :: ys)) (xs : List α) : motive xs := by
  -- What was passed without a separator is kept in front.
  suffices h : ∀ front, a ∉ front → motive (front ++ xs) from h [] List.not_mem_nil
  induction xs with
  | nil => simpa using whole
  | cons x xs ih =>
    intro front hfront
    by_cases hx : x = a
    · exact hx ▸ cut front xs hfront (ih [] List.not_mem_nil)
    · have hlonger : a ∉ front ++ [x] := by simp [hfront, Ne.symm hx]
      simpa using ih (front ++ [x]) hlonger

theorem mem_of_mem_splitOn {xs part : List α} (h : part ∈ xs.splitOn a) (hx : x ∈ part) : x ∈ xs := by
  induction xs using cut_induction a with
  | whole xs hxs =>
    rw [List.splitOn_eq_singleton hxs, List.mem_singleton] at h
    exact h ▸ hx
  | cut front back hfront ih =>
    rw [List.splitOn_append_cons_self_of_not_mem hfront] at h
    rcases List.mem_cons.1 h with rfl | h
    · exact List.mem_append_left _ hx
    · exact List.mem_append_right _ (List.mem_cons_of_mem _ (ih h))

/-- No part has the separator in it. -/
theorem notMem_of_mem_splitOn {xs part : List α} (h : part ∈ xs.splitOn a) : a ∉ part := by
  induction xs using cut_induction a with
  | whole xs hxs =>
    rw [List.splitOn_eq_singleton hxs, List.mem_singleton] at h
    exact h ▸ hxs
  | cut front back hfront ih =>
    rw [List.splitOn_append_cons_self_of_not_mem hfront] at h
    rcases List.mem_cons.1 h with rfl | h
    · exact hfront
    · exact ih h

/-- Parts that are each ended by the separator are cut apart again. -/
theorem splitOn_flatMap_ended {parts : List (List α)} (h : ∀ part ∈ parts, a ∉ part) (rest : List α) :
    (parts.flatMap (· ++ [a]) ++ rest).splitOn a = parts ++ rest.splitOn a := by
  induction parts with
  | nil => rfl
  | cons part parts ih =>
    rw [List.forall_mem_cons] at h
    rw [List.flatMap_cons, List.append_assoc, List.append_assoc, List.singleton_append,
      List.splitOn_append_cons_self_of_not_mem h.1, ih h.2, List.cons_append]

/-- **Reading and cutting**: when each separator is read as one, the parts of what is read are what the parts
are read as. -/
theorem splitOn_read {read : List α → List β}
    (hcut : ∀ xs ys, read (xs ++ a :: ys) = read xs ++ b :: read ys)
    (hwhole : ∀ xs, a ∉ xs → b ∉ read xs) (xs : List α) :
    (read xs).splitOn b = (xs.splitOn a).map read := by
  induction xs using cut_induction a with
  | whole xs hxs => rw [List.splitOn_eq_singleton hxs, List.splitOn_eq_singleton (hwhole xs hxs)]; rfl
  | cut front back hfront ih =>
    rw [hcut, List.splitOn_append_cons_self_of_not_mem (hwhole front hfront), ih,
      List.splitOn_append_cons_self_of_not_mem hfront, List.map_cons]

end GoldenCheck
