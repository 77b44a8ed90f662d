import GoldenCheck.Proofs.Path.Derivation
import GoldenCheck.Proofs.Text.Encoding

/-!
# The format that a path asks for

An engine picks by the extension of a path how it writes a report: the extension is the format that the
path asks for (`Path.format?`). A name is cut at its last dot, unless that is its first byte
(`Path.splitName_append_dot`, `Path.splitName_eq_none_iff`). So the derived path of a report has the format
of the reference where this has one (`Path.format?_derive_of_some`). Where it has none, the derived path
has none only if stem and suffix bring no dot along (`Path.format?_derive_eq_none_iff`).
-/

namespace GoldenCheck

open Utf8

namespace Utf8

/-- An ASCII byte is among those that a text is written with when its character is in the text. -/
theorem mem_encode_iff {b : UInt8} (hb : b < 0x80) {s : String} :
    b ∈ encode s ↔ Char.ofNat b.toNat ∈ s.toList := by
  refine ⟨mem_toList_of_mem_encode hb, fun h => List.mem_flatMap.2 ⟨_, h, ?_⟩⟩
  rw [encodeChar_ofNat_byte hb]
  exact List.mem_singleton_self b

end Utf8

namespace Path

variable {p q root reference : Path} {suffix : String} {n before after : Bytes}

/-- The extension of a path, as a text. -/
def format? (p : Path) : Option String := p.extension?.map decodeLossy

/-! ### Names and their last dot -/

/-- A name is cut at its last dot when something stands before it. -/
theorem splitName_append_dot (hbefore : before ≠ []) (hafter : dot ∉ after) :
    splitName (before ++ dot :: after) = (before, some after) := by
  have hall : ∀ b ∈ after.reverse, (decide (b ≠ dot)) = true := fun b hb =>
    decide_eq_true fun h => hafter (h ▸ List.mem_reverse.1 hb)
  have hreverse : (before ++ dot :: after).reverse = after.reverse ++ dot :: before.reverse := by simp
  rw [splitName, hreverse, List.span_eq_takeWhile_dropWhile, List.takeWhile_append_of_pos hall,
    List.dropWhile_append_of_pos hall]
  cases hfront : before.reverse with
  | nil => exact absurd (List.reverse_eq_nil_iff.1 hfront) hbefore
  | cons b front =>
    have hback : before = (b :: front).reverse := by rw [← hfront, List.reverse_reverse]
    simp [hback]

/-- Bytes with a dot have a last one. -/
theorem exists_last_dot {bs : Bytes} (h : dot ∈ bs) :
    ∃ before after, bs = before ++ dot :: after ∧ dot ∉ after := by
  obtain ⟨back, front, hcut, hback⟩ := List.eq_append_cons_of_mem (List.mem_reverse.2 h)
  refine ⟨front.reverse, back.reverse, ?_, fun hmem => hback (List.mem_reverse.1 hmem)⟩
  rw [← List.reverse_inj, hcut]
  simp

/-- A name has no extension when no dot follows its first byte. -/
theorem splitName_eq_none_iff : (splitName n).2 = none ↔ dot ∉ n.tail := by
  constructor
  · intro h hmem
    cases n with
    | nil => simp at hmem
    | cons b n =>
      obtain ⟨before, after, hcut, hafter⟩ := exists_last_dot hmem
      have hn : b :: n = (b :: before) ++ dot :: after := by
        rw [List.cons_append, ← hcut, List.tail_cons]
      rw [hn, splitName_append_dot (List.cons_ne_nil _ _) hafter] at h
      cases h
  · intro h
    rcases splitName_cases n with hcut | ⟨before, after, hcut, hbefore, rfl⟩
    · rw [hcut]
    · cases before with
      | nil => exact absurd rfl hbefore
      | cons b before => simp at h

/-- What is cut off a name after its last dot has no dot. -/
theorem dot_notMem_of_splitName (h : (splitName n).2 = some after) : dot ∉ after := by
  rcases splitName_cases n with hcut | ⟨before, rest, hcut, hbefore, rfl⟩
  · rw [hcut] at h
    cases h
  · obtain rfl : rest = after := by simpa [hcut] using h
    intro hmem
    obtain ⟨front, back, rfl, hback⟩ := exists_last_dot hmem
    have hagain : splitName (before ++ dot :: (front ++ dot :: back)) =
        (before ++ dot :: front, some back) := by
      rw [← splitName_append_dot (by simp) hback]
      simp
    rw [hagain, Prod.mk.injEq] at hcut
    have hlen := congrArg List.length hcut.1
    simp at hlen

/-- An extension has no dot. -/
theorem dot_notMem_of_extension? (h : p.extension? = some after) : dot ∉ after := by
  obtain ⟨n, -, hcut⟩ := Option.bind_eq_some_iff.1 h
  exact dot_notMem_of_splitName hcut

theorem dot_notMem_rewritten {bs : Bytes} (h : dot ∉ bs) : dot ∉ rewritten bs :=
  fun hmem => h (mem_of_mem_rewritten (by decide) hmem)

/-! ### Texts as names -/

/-- The dots of a text after its first character are those of the bytes after the first. -/
theorem dot_mem_tail_encode_iff {s : String} : dot ∈ (encode s).tail ↔ '.' ∈ s.toList.tail := by
  unfold encode
  cases s.toList with
  | nil => simp
  | cons c cs =>
    have hrest : dot ∈ cs.flatMap String.utf8EncodeChar ↔ '.' ∈ cs := by
      have h := mem_encode_iff (b := dot) (by decide) (s := String.ofList cs)
      rwa [encode, String.toList_ofList] at h
    rw [List.flatMap_cons, List.tail_append_of_ne_nil (encodeChar_ne_nil c), List.mem_append,
      List.tail_cons, hrest]
    -- A character that is written with more than one byte is written without ASCII.
    refine or_iff_right fun hmem => ?_
    by_cases hascii : c.val.toNat ≤ 0x7F
    · rw [String.utf8EncodeChar, if_pos hascii] at hmem
      simp at hmem
    · exact absurd (le_of_mem_encodeChar (by omega) dot (List.mem_of_mem_tail hmem)) (by decide)

/-- The format of a path is that of its last name. -/
theorem format?_of_fileName? (h : p.fileName? = some n) :
    p.format? = (splitName n).2.map decodeLossy := by
  rw [format?, extension?, h, Option.bind_some]

theorem format?_eq_none_iff : p.format? = none ↔ p.extension? = none := Option.map_eq_none_iff

/-! ### Names that end with an extension of another path -/

/-- A name that is given the extension of a path has the format of the path. -/
theorem format_append_mark {s : String} (hs : encode s ≠ []) (h : reference.format? ≠ none) :
    (splitName (encode s ++ reference.reportMark)).2.map decodeLossy = reference.format? := by
  obtain ⟨ext, hext⟩ := Option.ne_none_iff_exists'.1 (mt format?_eq_none_iff.2 h)
  have hmark : reference.reportMark = dot :: rewritten ext := by rw [reportMark, hext]
  rw [hmark, splitName_append_dot hs (dot_notMem_rewritten (dot_notMem_of_extension? hext)), format?, hext,
    Option.map_some, Option.map_some, decodeLossy_rewritten]

/-- A name that is given none has no format unless it brings a dot along. -/
theorem format_append_mark_eq_none_iff {s : String} (h : reference.format? = none) :
    (splitName (encode s ++ reference.reportMark)).2.map decodeLossy = none ↔
      '.' ∉ s.toList.tail := by
  have hmark : reference.reportMark = [] := by rw [reportMark, format?_eq_none_iff.1 h]
  rw [Option.map_eq_none_iff, splitName_eq_none_iff, hmark, List.append_nil, dot_mem_tail_encode_iff]

/-! ### Derived paths -/

theorem encode_reportStem_ne_nil (root reference : Path) : encode (reportStem root reference) ≠ [] := by
  obtain ⟨kept, hstem, hkept, -⟩ := reportStem_cases root reference
  rw [hstem]
  exact rewritten_ne_nil hkept

theorem fileName?_derive (root reference : Path) (hsuffix : '/' ∉ suffix.toList) :
    (derive root reference suffix).fileName? =
      some (encode (reportStem root reference ++ suffix) ++ reference.reportMark) := by
  rw [fileName?, components_derive_of_slash_notMem root reference hsuffix, List.getLast?_concat,
    encode_append, ← encode_reportName]
  rfl

/-- **The report has the format of the reference**, where that has one. -/
theorem format?_derive_of_some (root : Path) (hsuffix : '/' ∉ suffix.toList)
    (h : reference.format? ≠ none) : (derive root reference suffix).format? = reference.format? := by
  have hstem : encode (reportStem root reference ++ suffix) ≠ [] := by
    rw [encode_append]
    exact List.append_ne_nil_of_left_ne_nil (encode_reportStem_ne_nil root reference) _
  rw [format?_of_fileName? (fileName?_derive root reference hsuffix), format_append_mark hstem h]

/-- Where the reference has no format, the report has none only if no dot follows the first character of
its stem and suffix. -/
theorem format?_derive_eq_none_iff (root : Path) (hsuffix : '/' ∉ suffix.toList)
    (h : reference.format? = none) : (derive root reference suffix).format? = none ↔
      '.' ∉ (reportStem root reference ++ suffix).toList.tail := by
  rw [format?_of_fileName? (fileName?_derive root reference hsuffix), format_append_mark_eq_none_iff h]

/-- **When a report has the format of its reference**: the reference has one, or nothing else brings a
dot along. -/
theorem format?_derive_eq_iff (root reference : Path) (hsuffix : '/' ∉ suffix.toList) :
    (derive root reference suffix).format? = reference.format? ↔
      reference.format? ≠ none ∨ '.' ∉ (reportStem root reference ++ suffix).toList.tail := by
  by_cases h : reference.format? = none
  · rw [h, format?_derive_eq_none_iff root hsuffix h]
    exact (or_iff_right (by simp)).symm
  · exact iff_of_true (format?_derive_of_some root hsuffix h) (Or.inl h)

/-- The directory does not matter to the format of a path below it. -/
theorem StaysBelow.format?_join (h : q.StaysBelow) (p : Path) : (p.join q).format? = q.format? := by
  have hlast : (p.join q).components.getLast? = q.components.getLast? := by
    rw [components_join p h.relative h.head?_segments, List.getLast?_append_of_ne_nil _ h.ne_nil]
  rw [format?, format?, extension?, extension?, fileName?, fileName?, hlast]

end Path

end GoldenCheck
