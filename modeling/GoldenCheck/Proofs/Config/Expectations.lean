import GoldenCheck.Policy
import Mathlib.Data.List.Forall2
import Mathlib.Data.List.TakeWhile

/-!
# How expectations are spelled

An expectation is spelled by its word, in ASCII letters of either case, between runs of white space
(`Expectation.IsSpelling`). Reading accepts these spellings and nothing else
(`parse_accepts_exactly_the_spellings`), for two reasons. Trimming takes away the white space around a text and
nothing more (`trimBlanks_eq_iff`). And two characters have the same lower case only if they are the same, or
one ASCII letter in its two cases (`toLower_eq_toLower_iff`), so that no other character passes for a letter of
a word.
-/

namespace GoldenCheck

/-! ### White space around a text -/

/-- Neither end is white space. -/
def IsTrimmed (cs : List Char) : Prop :=
  (∀ c ∈ cs.head?, isBlank c = false) ∧ ∀ c ∈ cs.getLast?, isBlank c = false

variable {before after cs core : List Char} {c d : Char}

theorem trimBlanks_append (hafter : ∀ c ∈ after, isBlank c = true) :
    trimBlanks (cs ++ after) = trimBlanks cs := by
  have hback : ∀ front : List Char, (front ++ after).reverse.dropWhile isBlank =
      front.reverse.dropWhile isBlank := fun front => by
    rw [List.reverse_append, List.dropWhile_append_of_pos (by simpa using hafter)]
  unfold trimBlanks
  rw [List.dropWhile_append]
  split_ifs with hnone
  · rw [List.isEmpty_iff.1 hnone, List.dropWhile_eq_nil_iff.2 hafter]
  · rw [hback]

/-- **White space around a text** makes no difference once it is trimmed. -/
theorem trimBlanks_padded (hbefore : ∀ c ∈ before, isBlank c = true)
    (hafter : ∀ c ∈ after, isBlank c = true) :
    trimBlanks (before ++ cs ++ after) = trimBlanks cs := by
  rw [trimBlanks_append hafter, trimBlanks, List.dropWhile_append_of_pos hbefore, trimBlanks]

theorem trimBlanks_of_isTrimmed (h : IsTrimmed cs) : trimBlanks cs = cs := by
  have hkept : ∀ l : List Char, (∀ c ∈ l.head?, isBlank c = false) → l.dropWhile isBlank = l := by
    intro l hl
    cases l with
    | nil => rfl
    | cons c l => exact List.dropWhile_cons_of_neg (by simp [hl c rfl])
  rw [trimBlanks, hkept cs h.1, hkept cs.reverse (by simpa using h.2), List.reverse_reverse]

/-- What is trimmed stands between two runs of white space. -/
theorem exists_padding (cs : List Char) : ∃ before after, cs = before ++ trimBlanks cs ++ after ∧
    (∀ c ∈ before, isBlank c = true) ∧ ∀ c ∈ after, isBlank c = true := by
  refine ⟨cs.takeWhile isBlank, ((cs.dropWhile isBlank).reverse.takeWhile isBlank).reverse, ?_, ?_, ?_⟩
  · rw [trimBlanks, List.append_assoc, ← List.reverse_append, List.takeWhile_append_dropWhile,
      List.reverse_reverse, List.takeWhile_append_dropWhile]
  · exact fun c => List.mem_takeWhile_imp
  · exact fun c hc => List.mem_takeWhile_imp (List.mem_reverse.1 hc)

/-- **Trimming takes away white space and nothing more.** -/
theorem trimBlanks_eq_iff (h : IsTrimmed core) : trimBlanks cs = core ↔
    ∃ before after, cs = before ++ core ++ after ∧ (∀ c ∈ before, isBlank c = true) ∧
      ∀ c ∈ after, isBlank c = true := by
  constructor
  · rintro rfl
    exact exists_padding cs
  · rintro ⟨before, after, rfl, hbefore, hafter⟩
    rw [trimBlanks_padded hbefore hafter, trimBlanks_of_isTrimmed h]

/-! ### Letters of either case -/

/-- The same character, or one ASCII letter in its two cases. -/
def IsSameLetter (c d : Char) : Prop :=
  c = d ∨ ('A' ≤ c ∧ c ≤ 'Z' ∧ d.toNat = c.toNat + 32) ∨ ('A' ≤ d ∧ d ≤ 'Z' ∧ c.toNat = d.toNat + 32)

/-- The same text but for the case of ASCII letters. -/
def IsSameButCase (s t : String) : Prop := List.Forall₂ IsSameLetter s.toList t.toList

theorem isCapital_iff : 'A' ≤ c ∧ c ≤ 'Z' ↔ 65 ≤ c.toNat ∧ c.toNat ≤ 90 := by
  simp only [Char.le_def, UInt32.le_iff_toNat_le, Char.toNat_val]
  rfl

theorem toNat_toLower (c : Char) :
    c.toLower.toNat = if 65 ≤ c.toNat ∧ c.toNat ≤ 90 then c.toNat + 32 else c.toNat := by
  rw [← if_congr isCapital_iff rfl rfl]
  unfold Char.toLower
  simp only [Char.le_def, ge_iff_le]
  split_ifs with h
  · have hgap : ('a'.val - 'A'.val).toNat = 32 := rfl
    have hle : c.val.toNat ≤ 90 := UInt32.le_iff_toNat_le.1 h.2
    rw [← Char.toNat_val, ← Char.toNat_val, UInt32.toNat_add, hgap]
    omega
  · rfl

/-- **Two characters have the same lower case** when they are the same, or one ASCII letter in its two
cases. -/
theorem toLower_eq_toLower_iff : c.toLower = d.toLower ↔ IsSameLetter c d := by
  rw [IsSameLetter, ← and_assoc, ← and_assoc, isCapital_iff, isCapital_iff, ← Char.toNat_inj,
    ← Char.toNat_inj, toNat_toLower, toNat_toLower]
  split_ifs <;> omega

theorem map_toLower_eq_iff {cs ds : List Char} :
    cs.map Char.toLower = ds.map Char.toLower ↔ List.Forall₂ IsSameLetter cs ds := by
  rw [← List.forall₂_eq_eq_eq, List.forall₂_map_left_iff, List.forall₂_map_right_iff]
  simp only [toLower_eq_toLower_iff]

/-- White space is the same in either case. -/
theorem isBlank_toLower (c : Char) : isBlank c.toLower = isBlank c := by
  rw [Bool.eq_iff_iff]
  simp only [isBlank, blankRanges, toNat_toLower, List.any_cons, List.any_nil, Bool.or_eq_true,
    Bool.and_eq_true, decide_eq_true_eq, Bool.or_false]
  split_ifs <;> omega

theorem trimBlanks_map_toLower (cs : List Char) :
    trimBlanks (cs.map Char.toLower) = (trimBlanks cs).map Char.toLower := by
  have hblank : isBlank ∘ Char.toLower = isBlank := funext isBlank_toLower
  simp only [trimBlanks, List.dropWhile_map, ← List.map_reverse, hblank]

/-! ### Spellings -/

namespace Expectation

variable {s t before after : String} {x y : Expectation}

/-- The text is the word of the expectation in letters of either case, with white space around it. -/
def IsSpelling (x : Expectation) (s : String) : Prop :=
  ∃ before word after : String, s = before ++ word ++ after ∧ isBlankText before = true ∧
    IsSameButCase word x.word ∧ isBlankText after = true

/-- What a text is read by: its letters in lower case, without the white space around them. -/
def written (s : String) : List Char := (trimBlanks s.toList).map Char.toLower

theorem parse_eq (s : String) : parse s =
    if written s = identical.word.toList then .ok .identical
    else if written s = different.word.toList then .ok .different
    else .error ⟨s⟩ := rfl

/-- Words differ, so that at most one of them is written. -/
theorem word_injective : Function.Injective word := by
  intro x y h
  cases x <;> cases y <;> simp [word] at h ⊢

theorem parse_eq_ok_iff_written : parse s = .ok x ↔ written s = x.word.toList := by
  have hwords : identical.word.toList ≠ different.word.toList := by decide
  rw [parse_eq]
  cases x <;> split_ifs <;> simp_all

theorem parse_eq_error_iff_written {e : UnknownExpectation} :
    parse s = .error e ↔ e = ⟨s⟩ ∧ ∀ x : Expectation, written s ≠ x.word.toList := by
  have hall : (∀ x : Expectation, written s ≠ x.word.toList) ↔
      written s ≠ identical.word.toList ∧ written s ≠ different.word.toList :=
    ⟨fun h => ⟨h _, h _⟩, fun h x => by cases x <;> simp only [h.1, h.2, ne_eq, not_false_iff]⟩
  rw [parse_eq, hall]
  split_ifs <;> simp_all [eq_comm]

/-- A word has no capital letter and no white space. -/
theorem toLower_and_isBlank_of_mem_word {c : Char} (h : c ∈ x.word.toList) :
    c.toLower = c ∧ isBlank c = false := by
  have hall : x.word.toList.all (fun c => c.toLower = c ∧ isBlank c = false) = true := by
    cases x <;> decide
  exact of_decide_eq_true (List.all_eq_true.1 hall c h)

theorem map_toLower_word (x : Expectation) : x.word.toList.map Char.toLower = x.word.toList :=
  (List.map_congr_left fun _ hc => (toLower_and_isBlank_of_mem_word hc).1).trans (List.map_id _)

/-- A text that is a word but for the case of its letters has no white space in it. -/
theorem isTrimmed_of_isSameButCase (h : IsSameButCase s x.word) : IsTrimmed s.toList := by
  have hnone : ∀ c ∈ s.toList, isBlank c = false := by
    intro c hc
    have hmem : c.toLower ∈ x.word.toList := by
      rw [← map_toLower_word, ← map_toLower_eq_iff.2 h]
      exact List.mem_map_of_mem hc
    rw [← isBlank_toLower, (toLower_and_isBlank_of_mem_word hmem).2]
  exact ⟨fun c hc => hnone c (List.mem_of_head? hc), fun c hc => hnone c (List.mem_of_getLast? hc)⟩

/-- **What is written is a word** exactly when the text spells it. -/
theorem written_eq_word_iff : written s = x.word.toList ↔ x.IsSpelling s := by
  rw [written, ← map_toLower_word, map_toLower_eq_iff]
  constructor
  · intro h
    obtain ⟨before, after, hs, hbefore, hafter⟩ := exists_padding s.toList
    generalize trimBlanks s.toList = core at h hs
    refine ⟨.ofList before, .ofList core, .ofList after, ?_, ?_, ?_, ?_⟩
    · rw [← String.toList_inj, hs]
      simp
    · simpa [isBlankText] using hbefore
    · simpa [IsSameButCase] using h
    · simpa [isBlankText] using hafter
  · rintro ⟨before, word, after, rfl, hbefore, hword, hafter⟩
    rw [String.toList_append, String.toList_append,
      (trimBlanks_eq_iff (isTrimmed_of_isSameButCase hword)).2 ⟨_, _, rfl, ?_, ?_⟩]
    · exact hword
    · simpa [isBlankText] using hbefore
    · simpa [isBlankText] using hafter

/-- White space around a text does not change what is written. -/
theorem written_padded (hbefore : isBlankText before = true) (hafter : isBlankText after = true) :
    written (before ++ s ++ after) = written s := by
  rw [written, String.toList_append, String.toList_append,
    trimBlanks_padded (by simpa [isBlankText] using hbefore) (by simpa [isBlankText] using hafter), written]

/-- Nor does the case of letters. -/
theorem written_congr (h : IsSameButCase s t) : written s = written t := by
  rw [written, written, ← trimBlanks_map_toLower, ← trimBlanks_map_toLower, map_toLower_eq_iff.2 h]

theorem isSpelling_word (x : Expectation) : x.IsSpelling x.word :=
  ⟨"", x.word, "", by simp, rfl, List.forall₂_same.2 fun _ _ => Or.inl rfl, rfl⟩

/-- **Reading accepts exactly the spellings**, and refuses every other text as it is given. So the word of an
expectation is read back, white space around a text and the case of its letters decide nothing, and no text
spells two expectations. -/
theorem parse_accepts_exactly_the_spellings :
    (∀ s x, parse s = .ok x ↔ x.IsSpelling s) ∧
    (∀ s e, parse s = .error e ↔ e = ⟨s⟩ ∧ ∀ x : Expectation, ¬ x.IsSpelling s) ∧
    (∀ x, parse x.word = .ok x) ∧
    (∀ s before after, isBlankText before = true → isBlankText after = true →
      ∀ x, parse (before ++ s ++ after) = .ok x ↔ parse s = .ok x) ∧
    (∀ s t, IsSameButCase s t → ∀ x, parse s = .ok x ↔ parse t = .ok x) ∧
    ∀ (s : String) (x y : Expectation), x.IsSpelling s → y.IsSpelling s → x = y := by
  refine ⟨fun s x => ?_, fun s e => ?_, fun x => ?_, fun s before after hbefore hafter x => ?_,
    fun s t h x => ?_, fun s x y hx hy => ?_⟩
  · rw [parse_eq_ok_iff_written, written_eq_word_iff]
  · simp only [parse_eq_error_iff_written, ne_eq, written_eq_word_iff]
  · rw [parse_eq_ok_iff_written, written_eq_word_iff]
    exact isSpelling_word x
  · rw [parse_eq_ok_iff_written, parse_eq_ok_iff_written, written_padded hbefore hafter]
  · rw [parse_eq_ok_iff_written, parse_eq_ok_iff_written, written_congr h]
  · rw [← written_eq_word_iff] at hx hy
    exact word_injective (String.toList_inj.1 (hx.symm.trans hy))

/-- Capital letters between an ideographic space and a line feed. -/
theorem capitals_between_blanks_are_read :
    (isBlankText "\u3000" = true ∧ isBlankText "\n" = true ∧ IsSameButCase "DiffErent" "different") ∧
      parse "\u3000DiffErent\n" = .ok .different := by
  obtain ⟨-, -, hword, hpadded, hcase, -⟩ := parse_accepts_exactly_the_spellings
  have hblank : isBlankText "\u3000" = true ∧ isBlankText "\n" = true := by decide
  have hsame : IsSameButCase "DiffErent" "different" := by
    rw [IsSameButCase, ← map_toLower_eq_iff]
    decide
  refine ⟨⟨hblank.1, hblank.2, hsame⟩, ?_⟩
  have hpad := hpadded "DiffErent" "\u3000" "\n" hblank.1 hblank.2 .different
  exact hpad.2 ((hcase _ _ hsame .different).2 (hword .different))

/-- A capital letter with a dot is no letter of a word, although `i` is its lower case without the dot. -/
example : parse "\u0130dentical" = .error ⟨"\u0130dentical"⟩ := by decide

end Expectation

end GoldenCheck
