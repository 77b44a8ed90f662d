import GoldenCheck.Proofs.Cuts
import GoldenCheck.Proofs.Text.Exact
import GoldenCheck.Text.Lines

/-!
# Lines of bytes and lines of texts

Bytes have lines as texts have (`linesBy`): they are cut at line feeds, and one carriage return before a line
feed belongs to it. A way of reading bytes that keeps what stands for a line end (`KeepsLineEnds`) reads the
lines one by one (`KeepsLineEnds.linesBy_read`). Lossy reading does so. The lines of the text that is read
are what the lines of the bytes are read as (`linesOf_decodeLossy`), and the lines of a text are texts
(`isText_of_mem_byteLines`).
-/

namespace GoldenCheck

open Utf8

variable {α β : Type} [DecidableEq α] [DecidableEq β]

/-! ### Lines of any kind -/

/-- The lines between line ends: one `ret` before a `feed` belongs to it, and the end begins no further
line. -/
def linesBy (feed ret : α) (xs : List α) : List (List α) :=
  let parts := xs.splitOn feed
  parts.dropLast.map (fun l => if l.getLast? = some ret then l.dropLast else l)
    ++ parts.getLast?.toList.filter (· ≠ [])

theorem lineBodies_eq_linesBy (cs : List Char) : lineBodies cs = linesBy '\n' '\r' cs := rfl

/-- A line is a stretch of a part between line ends. -/
theorem exists_part_of_mem_linesBy {feed ret : α} {xs l : List α} (h : l ∈ linesBy feed ret xs) :
    ∃ part ∈ xs.splitOn feed, l ⊆ part := by
  rcases List.mem_append.1 h with h | h
  · obtain ⟨part, hpart, rfl⟩ := List.mem_map.1 h
    refine ⟨part, List.dropLast_subset _ hpart, ?_⟩
    split_ifs
    · exact List.dropLast_subset part
    · exact List.Subset.refl part
  · exact ⟨l, List.mem_of_getLast? (Option.mem_toList.1 (List.mem_filter.1 h).1), List.Subset.refl l⟩

theorem feed_notMem_of_mem_linesBy {feed ret : α} {xs l : List α} (h : l ∈ linesBy feed ret xs) :
    feed ∉ l := by
  obtain ⟨part, hpart, hl⟩ := exists_part_of_mem_linesBy h
  exact fun hfeed => notMem_of_mem_splitOn hpart (hl hfeed)

theorem mem_of_mem_linesBy {feed ret x : α} {xs l : List α} (h : l ∈ linesBy feed ret xs) (hx : x ∈ l) :
    x ∈ xs := by
  obtain ⟨part, hpart, hl⟩ := exists_part_of_mem_linesBy h
  exact mem_of_mem_splitOn hpart (hl hx)

/-- What stands for a line end is read as a line end, and nothing else is. -/
structure KeepsLineEnds (read : List α → List β) (feed ret : α) (feed' ret' : β) : Prop where
  feed_cuts : ∀ xs ys, read (xs ++ feed :: ys) = read xs ++ feed' :: read ys
  feed_notMem : ∀ xs, feed ∉ xs → feed' ∉ read xs
  ret_ends : ∀ xs, read (xs ++ [ret]) = read xs ++ [ret']
  getLast?_eq_ret : ∀ xs, (read xs).getLast? = some ret' → xs.getLast? = some ret
  read_eq_nil_iff : ∀ xs, read xs = [] ↔ xs = []

/-- **Lines are read one by one.** -/
theorem KeepsLineEnds.linesBy_read {read : List α → List β} {feed ret : α} {feed' ret' : β}
    (h : KeepsLineEnds read feed ret feed' ret') (xs : List α) :
    linesBy feed' ret' (read xs) = (linesBy feed ret xs).map read := by
  have hbody : ∀ l : List α, (if (read l).getLast? = some ret' then (read l).dropLast else read l) =
      read (if l.getLast? = some ret then l.dropLast else l) := by
    intro l
    by_cases hl : l.getLast? = some ret
    · obtain ⟨front, rfl⟩ := List.getLast?_eq_some_iff.1 hl
      simp [h.ret_ends]
    · rw [if_neg hl, if_neg fun hread => hl (h.getLast?_eq_ret l hread)]
  have hcut : (read xs).splitOn feed' = (xs.splitOn feed).map read :=
    splitOn_read h.feed_cuts h.feed_notMem xs
  simp only [linesBy, hcut, List.map_append, ← List.map_dropLast, List.map_map, List.getLast?_map]
  congr 1
  · exact List.map_congr_left fun l _ => hbody l
  · cases (xs.splitOn feed).getLast? with
    | none => rfl
    | some l => by_cases hl : l = [] <;> simp [hl, h.read_eq_nil_iff, (h.read_eq_nil_iff []).2 rfl]

/-! ### Lossy reading -/

/-- The lines of bytes. -/
def byteLines (bs : Bytes) : List Bytes := linesBy 0x0A 0x0D bs

variable {bs : Bytes} {b : UInt8}

/-- An ASCII character that is read was there as its byte. -/
theorem mem_of_mem_pieces (hb : b < 0x80) (h : .char (Char.ofNat b.toNat) ∈ pieces bs) : b ∈ bs := by
  refine mem_of_mem_rewritten hb ?_
  rw [rewritten_eq_flatMap, List.mem_flatMap]
  exact ⟨_, h, by rw [Piece.shown, encodeChar_ofNat_byte hb]; exact List.mem_singleton_self b⟩

/-- Bytes are all outside of ASCII, or there is a last one that is not. -/
theorem exists_last_ascii (bs : Bytes) : (∀ b ∈ bs, 0x80 ≤ b) ∨
    ∃ front b back, bs = front ++ b :: back ∧ b < 0x80 ∧ ∀ c ∈ back, 0x80 ≤ c := by
  induction bs with
  | nil => simp
  | cons b bs ih =>
    rcases ih with hall | ⟨front, c, back, rfl, hc, hback⟩
    · by_cases hb : b < 0x80
      · exact Or.inr ⟨[], b, bs, rfl, hb, hall⟩
      · exact Or.inl (List.forall_mem_cons.2 ⟨UInt8.not_lt.1 hb, hall⟩)
    · exact Or.inr ⟨b :: front, c, back, rfl, hc, hback⟩

theorem pieces_eq_nil_iff : pieces bs = [] ↔ bs = [] := by
  constructor
  · intro h
    by_contra hne
    exact rewritten_ne_nil hne (by rw [rewritten_eq_flatMap, h, List.flatMap_nil])
  · rintro rfl
    rfl

/-- What is read last as an ASCII character is the last byte. -/
theorem getLast?_of_getLast?_pieces (hb : b < 0x80)
    (h : (pieces bs).getLast? = some (.char (Char.ofNat b.toNat))) : bs.getLast? = some b := by
  have hhigh : ∀ cs : Bytes, (∀ c ∈ cs, 0x80 ≤ c) → b ∉ cs := fun cs hcs hmem =>
    absurd (hcs b hmem) (UInt8.not_le.2 hb)
  rcases exists_last_ascii bs with hall | ⟨front, c, back, rfl, hc, hback⟩
  · exact absurd (mem_of_mem_pieces hb (List.mem_of_getLast? h)) (hhigh bs hall)
  · rw [pieces_append_ascii front hc, List.append_cons] at h
    by_cases hnil : back = []
    · subst hnil
      have hchar : Char.ofNat c.toNat = Char.ofNat b.toNat := by simpa [pieces, Decoder.finish] using h
      have hbytes := congrArg String.utf8EncodeChar hchar
      rw [encodeChar_ofNat_byte hc, encodeChar_ofNat_byte hb] at hbytes
      simpa using hbytes
    · rw [List.getLast?_append_of_ne_nil _ (pieces_eq_nil_iff.not.2 hnil)] at h
      exact absurd (mem_of_mem_pieces hb (List.mem_of_getLast? h)) (hhigh back hback)

/-- Cutting bytes into pieces keeps line ends. -/
theorem keepsLineEnds_pieces : KeepsLineEnds pieces 0x0A 0x0D (.char '\n') (.char '\r') where
  feed_cuts front back := pieces_append_ascii front (by decide) back
  feed_notMem bs h hmem := h (mem_of_mem_pieces (by decide) hmem)
  ret_ends bs := pieces_append_ascii bs (by decide) []
  getLast?_eq_ret bs h := getLast?_of_getLast?_pieces (by decide) h
  read_eq_nil_iff bs := pieces_eq_nil_iff

theorem shown_eq_iff {piece : Piece} {c : Char} (hc : c ≠ '\uFFFD') :
    piece.shown = c ↔ piece = .char c := by
  cases piece with
  | char d => simp [Piece.shown]
  | broken => simp [Piece.shown, hc.symm]

/-- Showing pieces keeps line ends. -/
theorem keepsLineEnds_shown :
    KeepsLineEnds (List.map Piece.shown) (.char '\n') (.char '\r') '\n' '\r' where
  feed_cuts front back := by simp [Piece.shown]
  feed_notMem ps h hmem := by
    obtain ⟨piece, hpiece, hshown⟩ := List.mem_map.1 hmem
    exact h ((shown_eq_iff (by decide)).1 hshown ▸ hpiece)
  ret_ends ps := by simp [Piece.shown]
  getLast?_eq_ret ps h := by
    rw [List.getLast?_map, Option.map_eq_some_iff] at h
    obtain ⟨piece, hpiece, hshown⟩ := h
    rw [hpiece, (shown_eq_iff (by decide)).1 hshown]
  read_eq_nil_iff ps := List.map_eq_nil_iff

/-- **The lines of a text that is read** are what the lines of the bytes are read as. -/
theorem linesOf_decodeLossy (bs : Bytes) : linesOf (decodeLossy bs) = (byteLines bs).map decodeLossy := by
  rw [linesOf, decodeLossy, String.toList_ofList, lineBodies_eq_linesBy,
    keepsLineEnds_shown.linesBy_read, keepsLineEnds_pieces.linesBy_read, List.map_map, List.map_map]
  rfl

/-- The lines of a text are texts. -/
theorem isText_of_mem_byteLines (h : IsText bs) {l : Bytes} (hl : l ∈ byteLines bs) : IsText l := by
  have hpieces : pieces l ∈ linesBy (.char '\n') (.char '\r') (pieces bs) := by
    rw [keepsLineEnds_pieces.linesBy_read]
    exact List.mem_map_of_mem hl
  exact fun hbroken => h (mem_of_mem_linesBy hpieces hbroken)

/-- Lines that are texts are written again as they were. -/
theorem map_encode_decodeLossy {lines : List Bytes} (h : ∀ l ∈ lines, IsText l) :
    (lines.map decodeLossy).map encode = lines := by
  rw [List.map_map]
  exact (List.map_congr_left fun l hl => (h l hl).rewritten_eq).trans (List.map_id lines)

/-- What a line has in it is in the text. -/
theorem toList_subset_of_mem_linesOf {s line : String} (h : line ∈ linesOf s) : line.toList ⊆ s.toList := by
  obtain ⟨cs, hcs, rfl⟩ := List.mem_map.1 h
  rw [String.toList_ofList]
  exact fun c => mem_of_mem_linesBy hcs

/-- No line of a text has a line feed in it. -/
theorem notMem_of_mem_linesOf {s line : String} (h : line ∈ linesOf s) : '\n' ∉ line.toList := by
  obtain ⟨cs, hcs, rfl⟩ := List.mem_map.1 h
  rw [String.toList_ofList]
  exact feed_notMem_of_mem_linesBy hcs

end GoldenCheck
