import GoldenCheck.Text.Utf8
import Mathlib.Data.List.Basic
import Mathlib.Data.List.Forall2
import Mathlib.Tactic.Ring
import Mathlib.Tactic.SplitIfs

/-!
# What a text for people keeps of bytes

Lossy decoding cuts a byte string into stretches and reads each of them as one character
(`Utf8.exists_stretches`). What is written for this character is the stretch again, or else bytes
that are all outside of ASCII, and never fewer bytes (`Piece.Reads`). So the bytes that a decoded text
is written with (`rewritten`) are no fewer than there were (`length_le_rewritten`), take every ASCII
byte from those (`mem_of_mem_rewritten`), and are just those if there is nothing else in them
(`rewritten_eq`).
-/

namespace GoldenCheck

namespace Utf8

/-- The bytes that a byte string is written with once it has been read as a text. -/
def rewritten (bs : Bytes) : Bytes := encode (decodeLossy bs)

/-- A stretch of bytes is read as a piece: what is written for the piece is no shorter, and it is
either the stretch or has no ASCII in it. -/
structure Piece.Reads (piece : Piece) (stretch : Bytes) : Prop where
  length_le : stretch.length ≤ (String.utf8EncodeChar piece.shown).length
  written : String.utf8EncodeChar piece.shown = stretch ∨
    ∀ b ∈ String.utf8EncodeChar piece.shown, 0x80 ≤ b

/-- The least code point that is written with so many bytes, two or more. -/
def leastOf : Nat → Nat
  | 2 => 0x80
  | 3 => 0x800
  | _ => 0x10000

/-- Whatever comes next, a character of which so many bytes are read becomes one that takes all its
bytes, and that there is. -/
structure Partial.IsWide (p : Partial) (held : Nat) : Prop where
  length_le : held + (p.more + 1) ≤ 4
  low_ge : 0x80 ≤ p.low.toNat
  low_le : p.low.toNat ≤ p.high.toNat
  high_le : p.high.toNat ≤ 0xBF
  /-- The least character that it can become takes this many bytes. -/
  least : leastOf (held + (p.more + 1)) ≤ (p.bits * 64 + (p.low.toNat - 0x80)) * 64 ^ p.more
  /-- The characters that it can become are below the surrogates or above them. -/
  apart : (p.bits * 64 + (p.high.toNat - 0x80) + 1) * 64 ^ p.more ≤ 0xD800 ∨
    0xDFFF < (p.bits * 64 + (p.low.toNat - 0x80)) * 64 ^ p.more
  /-- The greatest character that it can become is a code point. -/
  greatest : (p.bits * 64 + (p.high.toNat - 0x80) + 1) * 64 ^ p.more ≤ 0x110000

/-! ### Single characters -/

/-- A code point is that of its character. -/
theorem val_ofNat {n : Nat} (h : n.isValidChar) : (Char.ofNat n).val.toNat = n := by
  rw [Char.ofNat, dif_pos h]
  rfl

/-- An ASCII byte is written for the character that is read from it. -/
theorem encodeChar_ofNat_byte {b : UInt8} (hb : b < 0x80) :
    String.utf8EncodeChar (Char.ofNat b.toNat) = [b] := by
  have hlt : b.toNat < 0x80 := UInt8.lt_iff_toNat_lt.1 hb
  rw [String.utf8EncodeChar, val_ofNat (Or.inl (by omega))]
  simp [show b.toNat ≤ 0x7f by omega]

/-- A byte with the high bit set. -/
theorem le_ofNat_of_mod {n : Nat} (h : 0x80 ≤ n % 256) : (0x80 : UInt8) ≤ UInt8.ofNat n := by
  rw [UInt8.le_iff_toNat_le]
  simpa using h

/-- What is written for a character outside of ASCII has no ASCII in it. -/
theorem le_of_mem_encodeChar {c : Char} (hc : 0x80 ≤ c.val.toNat) :
    ∀ b ∈ String.utf8EncodeChar c, 0x80 ≤ b := by
  intro b hb
  unfold String.utf8EncodeChar at hb
  dsimp only at hb
  split_ifs at hb with h₁ h₂ h₃
  · omega
  all_goals
    simp only [List.mem_cons, List.not_mem_nil, or_false] at hb
    rcases hb with rfl | rfl | rfl | rfl <;> exact le_ofNat_of_mod (by omega)

/-- An ASCII byte that a text is written with is that of one of its characters. -/
theorem mem_toList_of_mem_encode {s : String} {b : UInt8} (hb : b < 0x80) (h : b ∈ encode s) :
    Char.ofNat b.toNat ∈ s.toList := by
  obtain ⟨c, hc, hmem⟩ := List.mem_flatMap.1 h
  have hlow : c.val.toNat < 0x80 := by
    by_contra hge
    exact absurd (le_of_mem_encodeChar (Nat.not_lt.1 hge) b hmem) (UInt8.not_le.2 hb)
  rw [String.utf8EncodeChar, if_pos (by omega), List.mem_singleton] at hmem
  have hval : b.toNat = c.toNat := by
    rw [hmem, UInt8.toNat_ofNat']
    exact Nat.mod_eq_of_lt (by omega)
  rwa [hval, Char.ofNat_toNat]

theorem le_leastOf (k : Nat) : 0x80 ≤ leastOf k := by
  unfold leastOf
  split <;> decide

/-- A character is written with as many bytes as its code point asks for. -/
theorem le_length_encodeChar {c : Char} {k : Nat} (hk : k ≤ 4) (hc : leastOf k ≤ c.val.toNat) :
    k ≤ (String.utf8EncodeChar c).length := by
  have hcases : k = 0 ∨ k = 1 ∨ k = 2 ∨ k = 3 ∨ k = 4 := by omega
  unfold String.utf8EncodeChar
  dsimp only
  rcases hcases with rfl | rfl | rfl | rfl | rfl <;> simp only [leastOf] at hc <;> split_ifs <;>
    simp only [List.length_cons, List.length_nil] <;> omega

/-- An ASCII byte is read as its character. -/
theorem reads_byte {b : UInt8} (hb : b < 0x80) : (Piece.char (Char.ofNat b.toNat)).Reads [b] := by
  have hwritten := encodeChar_ofNat_byte hb
  exact ⟨by rw [Piece.shown, hwritten], Or.inl hwritten⟩

/-- Up to three bytes can be read as broken. -/
theorem reads_broken {stretch : Bytes} (h : stretch.length ≤ 3) : Piece.broken.Reads stretch :=
  ⟨h, Or.inr (le_of_mem_encodeChar (by decide))⟩

/-- Up to four bytes can be read as a character that takes as many. -/
theorem reads_wide {stretch : Bytes} {n : Nat} (hlen : stretch.length ≤ 4)
    (hn : leastOf stretch.length ≤ n) (hvalid : n.isValidChar) :
    (Piece.char (Char.ofNat n)).Reads stretch := by
  rw [← val_ofNat hvalid] at hn
  exact ⟨le_length_encodeChar hlen hn, Or.inr (le_of_mem_encodeChar ((le_leastOf _).trans hn))⟩

/-! ### The machine -/

/-- What begins a character of several bytes begins one that takes them. -/
theorem isWide_of_lead? {b : UInt8} {p : Partial} (h : lead? b = some p) : p.IsWide 1 := by
  unfold lead? at h
  dsimp only at h
  split_ifs at h <;> obtain rfl := Option.some.inj h <;> constructor <;>
    simp only [UInt8.reduceToNat, leastOf] <;> omega

/-- A byte that continues a character narrows what it can become. -/
theorem Partial.IsWide.next {bits more held : Nat} {low high b : UInt8}
    (h : Partial.IsWide ⟨bits, more + 1, low, high⟩ held) (hlow : low ≤ b) (hhigh : b ≤ high) :
    Partial.IsWide ⟨bits * 64 + (b.toNat - 0x80), more, 0x80, 0xBF⟩ (held + 1) := by
  have hl := UInt8.le_iff_toNat_le.1 hlow
  have hh := UInt8.le_iff_toNat_le.1 hhigh
  have htotal : held + 1 + (more + 1) = held + (more + 1 + 1) := by omega
  have hleast : (bits * 64 + (low.toNat - 0x80)) * 64 ^ (more + 1) ≤
      ((bits * 64 + (b.toNat - 0x80)) * 64 + (0x80 - 0x80)) * 64 ^ more :=
    calc (bits * 64 + (low.toNat - 0x80)) * 64 ^ (more + 1)
        = (bits * 64 + (low.toNat - 0x80)) * 64 * 64 ^ more := by rw [Nat.pow_succ']; ring
      _ ≤ _ := Nat.mul_le_mul_right _ (by omega)
  have hgreatest : ((bits * 64 + (b.toNat - 0x80)) * 64 + (0xBF - 0x80) + 1) * 64 ^ more ≤
      (bits * 64 + (high.toNat - 0x80) + 1) * 64 ^ (more + 1) :=
    calc ((bits * 64 + (b.toNat - 0x80)) * 64 + (0xBF - 0x80) + 1) * 64 ^ more
        ≤ (bits * 64 + (high.toNat - 0x80) + 1) * 64 * 64 ^ more :=
          Nat.mul_le_mul_right _ (by omega)
      _ = _ := by rw [Nat.pow_succ']; ring
  constructor <;> simp only [UInt8.reduceToNat]
  case length_le =>
    rw [htotal]
    exact h.length_le
  case low_ge | low_le | high_le => decide
  case least =>
    rw [htotal]
    exact h.least.trans hleast
  case apart => exact h.apart.imp (hgreatest.trans ·) (Nat.lt_of_lt_of_le · hleast)
  case greatest => exact hgreatest.trans h.greatest

/-- A byte that ends a character makes it one that takes its bytes. -/
theorem Partial.IsWide.last {bits held : Nat} {low high b : UInt8}
    (h : Partial.IsWide ⟨bits, 0, low, high⟩ held) (hlow : low ≤ b) (hhigh : b ≤ high) :
    leastOf (held + 1) ≤ bits * 64 + (b.toNat - 0x80) ∧
      (bits * 64 + (b.toNat - 0x80)).isValidChar := by
  have hl := UInt8.le_iff_toNat_le.1 hlow
  have hh := UInt8.le_iff_toNat_le.1 hhigh
  obtain ⟨-, hlge, hlle, hhle, hleast, hapart, hgreatest⟩ := h
  dsimp only at hlge hlle hhle hleast hapart hgreatest
  refine ⟨hleast.trans (by omega), ?_⟩
  unfold Nat.isValidChar
  omega

/-- The machine has read these bytes: stretches that it has read as pieces, and after them the first
bytes of a character if one is pending. -/
def Decoder.HasRead (d : Decoder) (bs : Bytes) : Prop :=
  ∃ (stretches : List Bytes) (held : Bytes), bs = stretches.reverse.flatten ++ held ∧
    List.Forall₂ Piece.Reads d.pieces stretches ∧
    match d.pending with
    | none => held = []
    | some p => p.IsWide held.length

/-- A byte at the start of a character. -/
theorem hasRead_start {pieces : List Piece} {stretches : List Bytes}
    (h : List.Forall₂ Piece.Reads pieces stretches) (b : UInt8) :
    (Decoder.start pieces b).HasRead (stretches.reverse.flatten ++ [b]) := by
  unfold Decoder.start
  split_ifs with hb
  · exact ⟨[b] :: stretches, [], by simp, h.cons (reads_byte hb), rfl⟩
  · cases hlead : lead? b with
    | none => exact ⟨[b] :: stretches, [], by simp, h.cons (reads_broken (by simp)), rfl⟩
    | some p => exact ⟨stretches, [b], rfl, h, isWide_of_lead? hlead⟩

/-- What is held of a character is not the whole of it. -/
theorem Partial.IsWide.held_le {p : Partial} {held : Nat} (h : p.IsWide held) : held ≤ 3 := by
  have := h.length_le
  omega

/-- The machine reads one byte more. -/
theorem Decoder.HasRead.step {d : Decoder} {bs : Bytes} (h : d.HasRead bs) (b : UInt8) :
    (d.step b).HasRead (bs ++ [b]) := by
  obtain ⟨stretches, held, rfl, hpieces, hheld⟩ := h
  obtain ⟨pending, pieces⟩ := d
  cases pending with
  | none =>
    obtain rfl : held = [] := hheld
    simpa [Decoder.step] using hasRead_start hpieces b
  | some p =>
    have hwide : p.IsWide held.length := hheld
    simp only [Decoder.step]
    split_ifs with hnext
    · obtain ⟨bits, more, low, high⟩ := p
      obtain ⟨hlow, hhigh⟩ : low ≤ b ∧ b ≤ high := hnext
      have hlen : (held ++ [b]).length = held.length + 1 := by simp
      cases more with
      | zero =>
        obtain ⟨hleast, hvalid⟩ := hwide.last hlow hhigh
        rw [← hlen] at hleast
        have hle : (held ++ [b]).length ≤ 4 :=
          hlen.trans_le (Nat.add_le_add_right hwide.held_le 1)
        exact ⟨(held ++ [b]) :: stretches, [], by simp,
          hpieces.cons (reads_wide hle hleast hvalid), rfl⟩
      | succ more =>
        have hnext := hwide.next hlow hhigh
        rw [← hlen] at hnext
        exact ⟨stretches, held ++ [b], by simp, hpieces, hnext⟩
    · -- What was held is broken, and the byte begins anew.
      have hstart := hasRead_start (hpieces.cons (reads_broken hwide.held_le)) b
      simpa using hstart

/-- The machine reads a byte string. -/
theorem Decoder.HasRead.foldl {d : Decoder} {bs : Bytes} (h : d.HasRead bs) (more : Bytes) :
    (more.foldl Decoder.step d).HasRead (bs ++ more) := by
  induction more generalizing d bs with
  | nil => simpa using h
  | cons b more ih => simpa using ih (h.step b)

/-- **Lossy decoding cuts bytes into stretches**, each of which is read as one piece. -/
theorem exists_stretches (bs : Bytes) : ∃ stretches : List Bytes, stretches.flatten = bs ∧
    List.Forall₂ Piece.Reads (pieces bs) stretches := by
  have hstart : Decoder.HasRead ⟨none, []⟩ [] := ⟨[], [], rfl, List.Forall₂.nil, rfl⟩
  obtain ⟨stretches, held, hbs, hpieces, hheld⟩ := hstart.foldl bs
  rw [List.nil_append] at hbs
  unfold pieces Decoder.finish
  cases hpending : (bs.foldl Decoder.step ⟨none, []⟩).pending with
  | none =>
    rw [hpending] at hheld
    obtain rfl : held = [] := hheld
    exact ⟨stretches.reverse, by simpa using hbs.symm, List.rel_reverse hpieces⟩
  | some p =>
    rw [hpending] at hheld
    have hwide : p.IsWide held.length := hheld
    refine ⟨(held :: stretches).reverse, by simpa using hbs.symm, ?_⟩
    exact List.rel_reverse (hpieces.cons (reads_broken hwide.held_le))

/-! ### What is written again -/

theorem rewritten_eq_flatMap (bs : Bytes) :
    rewritten bs = (pieces bs).flatMap fun piece => String.utf8EncodeChar piece.shown := by
  simp [rewritten, encode, decodeLossy, List.flatMap_map]

/-- No character is written with no bytes. -/
theorem encodeChar_ne_nil (c : Char) : String.utf8EncodeChar c ≠ [] := by
  unfold String.utf8EncodeChar
  dsimp only
  split_ifs <;> simp

/-- **No fewer bytes are written** than there were to be read. -/
theorem length_le_rewritten (bs : Bytes) : bs.length ≤ (rewritten bs).length := by
  obtain ⟨stretches, hbs, hreads⟩ := exists_stretches bs
  rw [rewritten_eq_flatMap]
  refine (congrArg List.length hbs).symm.trans_le ?_
  clear hbs
  generalize pieces bs = pieces at hreads ⊢
  induction hreads with
  | nil => simp
  | cons hread _ ih =>
    rw [List.flatMap_cons, List.flatten_cons, List.length_append, List.length_append]
    exact Nat.add_le_add hread.length_le ih

/-- A text that is read from some byte is written with some byte. -/
theorem rewritten_ne_nil {bs : Bytes} (h : bs ≠ []) : rewritten bs ≠ [] := by
  have hpos := List.length_pos_iff.2 h
  exact List.length_pos_iff.1 (hpos.trans_le (length_le_rewritten bs))

/-- An ASCII byte of what is written was there to be read. -/
theorem mem_of_mem_rewritten {bs : Bytes} {b : UInt8} (hb : b < 0x80) (h : b ∈ rewritten bs) :
    b ∈ bs := by
  obtain ⟨stretches, hbs, hreads⟩ := exists_stretches bs
  rw [rewritten_eq_flatMap] at h
  rw [← hbs]
  clear hbs
  generalize pieces bs = pieces at hreads h
  induction hreads with
  | nil => simp at h
  | cons hread _ ih =>
    rw [List.flatMap_cons, List.mem_append] at h
    rw [List.flatten_cons, List.mem_append]
    rcases h with h | h
    · rcases hread.written with heq | hhigh
      · exact Or.inl (heq ▸ h)
      · exact absurd (hhigh b h) (UInt8.not_le.2 hb)
    · exact Or.inr (ih h)

/-- When all that is written is ASCII, it is what was there to be read. -/
theorem rewritten_eq {bs : Bytes} (h : ∀ b ∈ rewritten bs, b < 0x80) : rewritten bs = bs := by
  obtain ⟨stretches, hbs, hreads⟩ := exists_stretches bs
  rw [rewritten_eq_flatMap] at h ⊢
  refine Eq.trans ?_ hbs
  clear hbs
  generalize pieces bs = pieces at hreads h ⊢
  induction hreads with
  | nil => rfl
  | @cons piece stretch pieces stretches hread _ ih =>
    simp only [List.flatMap_cons, List.mem_append] at h
    rw [List.flatMap_cons, List.flatten_cons, ih fun b hb => h b (Or.inr hb)]
    rcases hread.written with heq | hhigh
    · rw [heq]
    · obtain ⟨b, hb⟩ := List.exists_mem_of_ne_nil _ (encodeChar_ne_nil piece.shown)
      exact absurd (hhigh b hb) (UInt8.not_le.2 (h b (Or.inl hb)))

end Utf8

end GoldenCheck
