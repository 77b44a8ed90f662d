import GoldenCheck.Proofs.Difference.Positions
import GoldenCheck.Proofs.Text.Lines
import Mathlib.Data.List.TakeWhile

/-!
# The rows of a rendered difference

A rendered difference is made of rows (`DiffRow`), and perhaps a note of how many changes are not shown. A
change has a row for the line of the reference and then one for the line of the report, as far as there are
such lines (`LineChange.rows`). `renderDiff_eq` says which rows are rendered. No line has a line feed in it,
so the rows are read back one by one (`DiffRow.readAll_renderDiff`), whatever the lines look like. Only texts
with the same lines have an empty rendering (`renderDiff_eq_empty_iff`).
-/

namespace GoldenCheck

/-- The text that a row shows a line of. -/
inductive DiffSide where
  /-- The reference. -/
  | reference
  /-- The report. -/
  | report
  deriving DecidableEq, Repr

/-- The character that a row begins with. -/
def DiffSide.sign : DiffSide → Char
  | .reference => '-'
  | .report => '+'

/-- The text that a row of this sign shows a line of. -/
def DiffSide.ofSign? : Char → Option DiffSide
  | '-' => some .reference
  | '+' => some .report
  | _ => none

/-- A row of a rendered difference. -/
structure DiffRow where
  /-- The text that has the line. -/
  side : DiffSide
  /-- The number of the line, from 1. -/
  line : ℕ
  /-- The line. -/
  body : String
  deriving DecidableEq, Repr

/-- The row as it is rendered. -/
def DiffRow.text (r : DiffRow) : String := diffRow r.side.sign r.line r.body

/-- The rows of a change: the line of the reference if there is one, then that of the report if there is
one. -/
def LineChange.rows (c : LineChange) : List DiffRow :=
  (c.expected.map (DiffRow.mk .reference c.line)).toList
    ++ (c.actual.map (DiffRow.mk .report c.line)).toList

/-- The line that one of the texts has at a change. -/
def LineChange.lineOf (c : LineChange) : DiffSide → Option String
  | .reference => c.expected
  | .report => c.actual

/-- The changes at the least positions that differ, as many as may be shown. -/
def shownChanges (expected actual : String) (limit : ℕ) : List LineChange :=
  ((differingPositions expected actual).sort.take limit).map
    (changeAt (linesOf expected) (linesOf actual))

/-- The rows of these changes. -/
def shownRows (expected actual : String) (limit : ℕ) : List DiffRow :=
  (shownChanges expected actual limit).flatMap LineChange.rows

/-- The note of how many changes are not shown, if there are any. -/
def omissionNote (omitted : ℕ) : String :=
  if 0 < omitted then s!"... {omitted} more differing line(s)\n" else ""

variable {expected actual : String} {limit : ℕ} {r : DiffRow}

/-! ### What is rendered -/

theorem LineChange.render_eq (c : LineChange) : c.render = String.join (c.rows.map DiffRow.text) := by
  obtain ⟨line, expected, actual⟩ := c
  cases expected <;> cases actual <;> simp [LineChange.render, LineChange.rows, DiffRow.text, DiffSide.sign]

/-- **A rendered difference** is the rows of the changes that are shown, and then the note of how many are
not. -/
theorem renderDiff_eq (expected actual : String) (limit : ℕ) : renderDiff expected actual limit =
    String.join ((shownRows expected actual limit).map DiffRow.text) ++
      omissionNote ((differingPositions expected actual).card - limit) := by
  have hshown : (lineDifferences expected actual).take limit = shownChanges expected actual limit := by
    rw [lineDifferences_eq, shownChanges, List.map_take]
  have hrows : ∀ changes : List LineChange, String.join (changes.map LineChange.render) =
      String.join ((changes.flatMap LineChange.rows).map DiffRow.text) := by
    intro changes
    induction changes with
    | nil => rfl
    | cons c changes ih => simp [ih, LineChange.render_eq]
  simp only [renderDiff, length_lineDifferences, hshown, hrows, shownRows, omissionNote, gt_iff_lt]

theorem LineChange.mem_rows {c : LineChange} :
    r ∈ c.rows ↔ r.line = c.line ∧ c.lineOf r.side = some r.body := by
  obtain ⟨line, expected, actual⟩ := c
  obtain ⟨side, number, body⟩ := r
  cases side <;> cases expected <;> cases actual <;>
    simp [LineChange.rows, LineChange.lineOf, eq_comm, and_comm]

/-- There is a row for each line that a text has at a position that is shown. -/
theorem mem_shownRows : r ∈ shownRows expected actual limit ↔
    ∃ i ∈ (differingPositions expected actual).sort.take limit, r.line = i + 1 ∧
      (changeAt (linesOf expected) (linesOf actual) i).lineOf r.side = some r.body := by
  simp only [shownRows, shownChanges, List.mem_flatMap, List.mem_map, exists_exists_and_eq_and,
    LineChange.mem_rows]
  rfl

/-- With room for all of them, every position that differs is shown. -/
theorem take_sort_of_card_le (h : (differingPositions expected actual).card ≤ limit) :
    (differingPositions expected actual).sort.take limit = (differingPositions expected actual).sort :=
  List.take_of_length_le (by rwa [Finset.length_sort])

/-! ### Reading rows -/

/-- What stands after the number of a row. -/
def afterMark? : List Char → Option (List Char)
  | ' ' :: '|' :: ' ' :: body => some body
  | _ => none

/-- Read a row without the line feed at its end: a sign, a number behind blanks, a mark, and the line. -/
def DiffRow.read? : List Char → Option DiffRow
  | [] => none
  | sign :: cs => do
    let side ← DiffSide.ofSign? sign
    let numeral := cs.dropWhile (· = ' ')
    let body ← afterMark? (numeral.dropWhile Char.isDigit)
    return ⟨side, Nat.ofDigitChars 10 (numeral.takeWhile Char.isDigit) 0, String.ofList body⟩

/-- The rows of a rendered difference, read one by one. -/
def DiffRow.readAll (text : String) : List DiffRow := (text.toList.splitOn '\n').filterMap DiffRow.read?

/-- The row as it is rendered, without the line feed at its end. -/
def DiffRow.chars (r : DiffRow) : List Char :=
  r.side.sign :: (List.replicate (4 - (Nat.toDigits 10 r.line).length) ' ' ++ (Nat.toDigits 10 r.line ++
    (' ' :: '|' :: ' ' :: r.body.toList)))

theorem toList_paddedNumber (n : ℕ) : (paddedNumber n).toList =
    List.replicate (4 - (Nat.toDigits 10 n).length) ' ' ++ Nat.toDigits 10 n := by
  rw [paddedNumber, Nat.toString_eq_ofList_toDigits, String.toList_append, String.toList_ofList,
    String.toList_ofList, String.length_ofList]

theorem DiffRow.toList_text (r : DiffRow) : r.text.toList = r.chars ++ ['\n'] := by
  simp [DiffRow.text, diffRow, toList_paddedNumber, DiffRow.chars]

theorem isDigit_of_mem_toDigits {n : ℕ} {c : Char} (h : c ∈ Nat.toDigits 10 n) : c.isDigit = true :=
  Nat.isDigit_of_mem_toDigits (by decide) le_rfl h

/-- Blanks before a number are passed over. -/
theorem dropWhile_padded (k n : ℕ) (rest : List Char) :
    (List.replicate k ' ' ++ (Nat.toDigits 10 n ++ rest)).dropWhile (· = ' ') =
      Nat.toDigits 10 n ++ rest := by
  rw [List.dropWhile_append_of_pos fun c hc => by simpa using List.eq_of_mem_replicate hc]
  cases hdigits : Nat.toDigits 10 n with
  | nil => exact absurd hdigits Nat.toDigits_ne_nil
  | cons d ds =>
    have hd : d ≠ ' ' := by
      rintro rfl
      exact absurd (isDigit_of_mem_toDigits (n := n) (hdigits ▸ List.mem_cons_self)) (by decide)
    rw [List.cons_append, List.dropWhile_cons_of_neg (by simpa using hd)]

/-- **A row is read back.** -/
theorem DiffRow.read?_chars (r : DiffRow) : DiffRow.read? r.chars = some r := by
  have hall : ∀ c ∈ Nat.toDigits 10 r.line, c.isDigit = true := fun c => isDigit_of_mem_toDigits
  have hside : DiffSide.ofSign? r.side.sign = some r.side := by cases r.side <;> rfl
  simp only [DiffRow.chars, DiffRow.read?, hside, dropWhile_padded, List.dropWhile_append_of_pos hall,
    List.takeWhile_append_of_pos hall]
  simp [afterMark?, Nat.ofDigitChars_ten_toDigits]

/-- A row has no line feed in it when its line has none. -/
theorem DiffRow.newline_notMem_chars (h : '\n' ∉ r.body.toList) : '\n' ∉ r.chars := by
  have hdigits : '\n' ∉ Nat.toDigits 10 r.line := fun hmem =>
    absurd (isDigit_of_mem_toDigits hmem) (by decide)
  have hsign : '\n' ≠ r.side.sign := by cases r.side <;> decide
  simp [DiffRow.chars, hsign, hdigits, h, List.mem_replicate]

/-- The lines that are shown are lines of the texts. -/
theorem newline_notMem_of_mem_shownRows (h : r ∈ shownRows expected actual limit) :
    '\n' ∉ r.body.toList := by
  obtain ⟨i, -, -, hline⟩ := mem_shownRows.1 h
  cases hside : r.side <;> rw [hside] at hline <;>
    exact notMem_of_mem_linesOf (List.mem_of_getElem? hline)

theorem toList_omissionNote {omitted : ℕ} (h : 0 < omitted) : (omissionNote omitted).toList =
    '.' :: ".. ".toList ++ Nat.toDigits 10 omitted ++ " more differing line(s)".toList ++ ['\n'] := by
  rw [omissionNote, if_pos h]
  change ("... " ++ toString omitted ++ " more differing line(s)\n").toList = _
  simp

/-- The note of what is not shown is no row. -/
theorem DiffRow.readAll_omissionNote (omitted : ℕ) : DiffRow.readAll (omissionNote omitted) = [] := by
  by_cases h : 0 < omitted
  · have hdigits : '\n' ∉ Nat.toDigits 10 omitted := fun hmem =>
      absurd (isDigit_of_mem_toDigits hmem) (by decide)
    rw [DiffRow.readAll, toList_omissionNote h,
      List.splitOn_append_cons_self_of_not_mem (by simp [hdigits])]
    rfl
  · rw [omissionNote, if_neg h]
    rfl

/-- **The rows of a rendered difference are read back.** -/
theorem DiffRow.readAll_renderDiff (expected actual : String) (limit : ℕ) :
    DiffRow.readAll (renderDiff expected actual limit) = shownRows expected actual limit := by
  have hended : ∀ part ∈ (shownRows expected actual limit).map DiffRow.chars, '\n' ∉ part := by
    intro part hpart
    obtain ⟨r, hr, rfl⟩ := List.mem_map.1 hpart
    exact DiffRow.newline_notMem_chars (newline_notMem_of_mem_shownRows hr)
  have hjoin : (String.join ((shownRows expected actual limit).map DiffRow.text)).toList =
      ((shownRows expected actual limit).map DiffRow.chars).flatMap (· ++ ['\n']) := by
    rw [String.toList_join, List.flatMap_map, List.flatMap_map]
    exact List.flatMap_congr fun r _ => r.toList_text
  have hread : ∀ rows : List DiffRow, (rows.map DiffRow.chars).filterMap DiffRow.read? = rows := by
    intro rows
    rw [List.filterMap_map]
    exact (List.filterMap_congr fun r _ => r.read?_chars).trans List.filterMap_some
  have hnote := DiffRow.readAll_omissionNote ((differingPositions expected actual).card - limit)
  rw [DiffRow.readAll] at hnote
  rw [DiffRow.readAll, renderDiff_eq, String.toList_append, hjoin, splitOn_flatMap_ended hended,
    List.filterMap_append, hread, hnote, List.append_nil]

example : DiffRow.readAll (renderDiff "a\nb\n" "a\n+   2 | c\nd\n" 1) =
    [⟨.reference, 2, "b"⟩, ⟨.report, 2, "+   2 | c"⟩] := by decide +kernel

/-! ### How much is shown -/

theorem LineChange.rows_ne_nil {c : LineChange} (h : c.expected ≠ none ∨ c.actual ≠ none) :
    c.rows ≠ [] := by
  obtain ⟨line, expected, actual⟩ := c
  cases expected <;> cases actual <;> simp [LineChange.rows] at h ⊢

theorem length_shownChanges (expected actual : String) (limit : ℕ) :
    (shownChanges expected actual limit).length =
      min limit (differingPositions expected actual).card := by
  rw [shownChanges, List.length_map, List.length_take, Finset.length_sort]

/-- Between swapped texts the same changes are shown, with their sides exchanged. -/
theorem shownChanges_comm (expected actual : String) (limit : ℕ) :
    shownChanges actual expected limit =
      (shownChanges expected actual limit).map LineChange.swapped := by
  rw [shownChanges, shownChanges, List.map_map, differingPositions_comm]
  rfl

/-- With room for one change, the first row has the number of the first position that differs. -/
theorem exists_head?_shownRows (h : (differingPositions expected actual).Nonempty) (hlimit : 0 < limit) :
    ∃ row, (shownRows expected actual limit).head? = some row ∧
      row.line = (differingPositions expected actual).min' h + 1 := by
  obtain ⟨rest, hrest⟩ := exists_sort_eq_cons h
  obtain ⟨room, rfl⟩ := Nat.exists_eq_add_of_lt hlimit
  set c := changeAt (linesOf expected) (linesOf actual) ((differingPositions expected actual).min' h)
  have hshown : shownRows expected actual (0 + room + 1) =
      c.rows ++ ((rest.take (0 + room)).map (changeAt (linesOf expected) (linesOf actual))).flatMap
        LineChange.rows := by
    rw [shownRows, shownChanges, hrest, List.take_succ_cons, List.map_cons, List.flatMap_cons]
  obtain ⟨row, rows, hrows⟩ := List.exists_cons_of_ne_nil
    (LineChange.rows_ne_nil (c := c) (ne_none_of_mem (Finset.min'_mem _ h)))
  have hmem : row ∈ c.rows := hrows ▸ List.mem_cons_self
  exact ⟨row, by rw [hshown, hrows]; rfl, (LineChange.mem_rows.1 hmem).1⟩

theorem omissionNote_eq_empty_iff {omitted : ℕ} : omissionNote omitted = "" ↔ omitted = 0 := by
  constructor
  · intro h
    by_contra hne
    have hnote := toList_omissionNote (Nat.pos_of_ne_zero hne)
    rw [h] at hnote
    simp at hnote
  · rintro rfl
    rfl

/-- Only nothing is rendered as nothing. -/
theorem renderDiff_eq_empty_iff :
    renderDiff expected actual limit = "" ↔ differingPositions expected actual = ∅ := by
  constructor
  · intro h
    by_contra hne
    have hne := Finset.nonempty_iff_ne_empty.2 hne
    rcases Nat.eq_zero_or_pos limit with rfl | hlimit
    · -- No row is shown, so all of the positions are counted.
      have hnote := (String.append_eq_empty_iff.1 (renderDiff_eq expected actual 0 ▸ h)).2
      rw [omissionNote_eq_empty_iff, Nat.sub_zero, Finset.card_eq_zero] at hnote
      exact hne.ne_empty hnote
    · obtain ⟨row, hrow, -⟩ := exists_head?_shownRows hne hlimit
      rw [← DiffRow.readAll_renderDiff, h] at hrow
      simp [DiffRow.readAll, DiffRow.read?] at hrow
  · intro h
    rw [renderDiff_eq, shownRows, shownChanges, h]
    simp [omissionNote]

end GoldenCheck
