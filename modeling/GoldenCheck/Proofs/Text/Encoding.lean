import GoldenCheck.Proofs.Text.Lossy
import Mathlib.Logic.Function.Basic

/-!
# A written text is read back

The bytes that a text is written with are read as just that text (`Utf8.decodeLossy_encode`), by the
machine that reads lossily as by the one that refuses what is no text (`Utf8.decode?_encode`). So two texts
that are written alike are one text, and bytes that were read as a text and written again are read as the
same text (`Utf8.decodeLossy_rewritten`).
-/

namespace GoldenCheck

namespace Utf8

variable {bits more n v : Nat} {low high : UInt8} {ps : List Piece}

/-! ### The bytes of one character -/

/-- A byte between the bounds continues the character that is pending. -/
theorem step_continues (hn : n < 256) (hlow : low.toNat ≤ n) (hhigh : n ≤ high.toNat) :
    Decoder.step ⟨some ⟨bits, more + 1, low, high⟩, ps⟩ (UInt8.ofNat n) =
      ⟨some ⟨bits * 64 + (n - 0x80), more, 0x80, 0xBF⟩, ps⟩ := by
  have hbyte : (UInt8.ofNat n).toNat = n := by simpa using hn
  have hbounds : low ≤ UInt8.ofNat n ∧ UInt8.ofNat n ≤ high := by
    rw [UInt8.le_iff_toNat_le, UInt8.le_iff_toNat_le, hbyte]
    exact ⟨hlow, hhigh⟩
  simp only [Decoder.step, hbounds, if_true, and_self, hbyte]

/-- A byte between the bounds completes the character when it is the last one. -/
theorem step_completes (hn : n < 256) (hlow : low.toNat ≤ n) (hhigh : n ≤ high.toNat) :
    Decoder.step ⟨some ⟨bits, 0, low, high⟩, ps⟩ (UInt8.ofNat n) =
      ⟨none, .char (Char.ofNat (bits * 64 + (n - 0x80))) :: ps⟩ := by
  have hbyte : (UInt8.ofNat n).toNat = n := by simpa using hn
  have hbounds : low ≤ UInt8.ofNat n ∧ UInt8.ofNat n ≤ high := by
    rw [UInt8.le_iff_toNat_le, UInt8.le_iff_toNat_le, hbyte]
    exact ⟨hlow, hhigh⟩
  simp only [Decoder.step, hbounds, if_true, and_self, hbyte]

/-- No ASCII byte begins a character of several bytes. -/
theorem le_of_lead? {b : UInt8} {p : Partial} (h : lead? b = some p) : 0x80 ≤ b := by
  rw [UInt8.le_iff_toNat_le]
  unfold lead? at h
  dsimp only at h
  split_ifs at h <;> simp only [UInt8.reduceToNat] <;> omega

/-- A byte that begins a character of several bytes leaves it pending. -/
theorem step_begins {b : UInt8} {p : Partial} (hlead : lead? b = some p) :
    Decoder.step ⟨none, ps⟩ b = ⟨some p, ps⟩ := by
  simp only [Decoder.step, Decoder.start, UInt8.not_lt.2 (le_of_lead? hlead), if_false, hlead]

/-- The first of two bytes. -/
theorem lead?_two (hlow : 0x80 ≤ v) (hhigh : v ≤ 0x7FF) :
    lead? (UInt8.ofNat (v / 64 % 32 + 192)) = some ⟨v / 64, 0, 0x80, 0xBF⟩ := by
  have hbyte : (UInt8.ofNat (v / 64 % 32 + 192)).toNat = v / 64 + 192 := by
    rw [UInt8.toNat_ofNat']
    omega
  unfold lead?
  dsimp only
  rw [hbyte, if_pos (by omega), Nat.add_sub_cancel]

/-- The first of three bytes: it bounds the second, so that the second of this code point fits. -/
theorem lead?_three (hlow : 0x800 ≤ v) (hhigh : v ≤ 0xFFFF) (hvalid : v.isValidChar) :
    ∃ low high : UInt8, lead? (UInt8.ofNat (v / 4096 % 16 + 224)) = some ⟨v / 4096, 1, low, high⟩ ∧
      low.toNat ≤ v / 64 % 64 + 128 ∧ v / 64 % 64 + 128 ≤ high.toNat := by
  have hbyte : (UInt8.ofNat (v / 4096 % 16 + 224)).toNat = v / 4096 + 224 := by
    rw [UInt8.toNat_ofNat']
    omega
  unfold Nat.isValidChar at hvalid
  unfold lead?
  dsimp only
  rw [hbyte, if_neg (by omega)]
  split_ifs with h₁ h₂ h₃
  · refine ⟨0xA0, 0xBF, by rw [show v / 4096 = 0 by omega], ?_⟩
    simp only [UInt8.reduceToNat]
    omega
  · refine ⟨0x80, 0x9F, by rw [show v / 4096 = 0x0D by omega], ?_⟩
    simp only [UInt8.reduceToNat]
    omega
  · refine ⟨0x80, 0xBF, by rw [Nat.add_sub_cancel], ?_⟩
    simp only [UInt8.reduceToNat]
    omega
  all_goals omega

/-- The first of four bytes. -/
theorem lead?_four (hlow : 0x10000 ≤ v) (hhigh : v < 0x110000) :
    ∃ low high : UInt8, lead? (UInt8.ofNat (v / 262144 % 8 + 240)) =
        some ⟨v / 262144, 2, low, high⟩ ∧
      low.toNat ≤ v / 4096 % 64 + 128 ∧ v / 4096 % 64 + 128 ≤ high.toNat := by
  have hbyte : (UInt8.ofNat (v / 262144 % 8 + 240)).toNat = v / 262144 + 240 := by
    rw [UInt8.toNat_ofNat']
    omega
  unfold lead?
  dsimp only
  rw [hbyte, if_neg (by omega), if_neg (by omega), if_neg (by omega), if_neg (by omega)]
  split_ifs with h₁ h₂ h₃
  · refine ⟨0x90, 0xBF, by rw [show v / 262144 = 0 by omega], ?_⟩
    simp only [UInt8.reduceToNat]
    omega
  · refine ⟨0x80, 0xBF, by rw [Nat.add_sub_cancel], ?_⟩
    simp only [UInt8.reduceToNat]
    omega
  · refine ⟨0x80, 0x8F, by rw [show v / 262144 = 4 by omega], ?_⟩
    simp only [UInt8.reduceToNat]
    omega
  · omega

/-- **The bytes of a character** are read as this character. -/
theorem foldl_encodeChar (c : Char) (ps : List Piece) :
    (String.utf8EncodeChar c).foldl Decoder.step ⟨none, ps⟩ = ⟨none, .char c :: ps⟩ := by
  have hvalid : c.val.toNat.isValidChar := c.valid
  have hlt : c.val.toNat < 0x110000 := by
    unfold Nat.isValidChar at hvalid
    omega
  have hchar : Char.ofNat c.val.toNat = c := Char.ofNat_toNat c
  unfold String.utf8EncodeChar
  dsimp only
  generalize c.val.toNat = v at hvalid hlt hchar ⊢
  split_ifs with h₁ h₂ h₃
  · have hbyte : (UInt8.ofNat v).toNat = v := by
      rw [UInt8.toNat_ofNat']
      omega
    have hascii : UInt8.ofNat v < 0x80 := by
      rw [UInt8.lt_iff_toNat_lt, hbyte]
      exact Nat.lt_succ_of_le h₁
    simp only [List.foldl_cons, List.foldl_nil, Decoder.step, Decoder.start, hascii, if_true, hbyte,
      hchar]
  · simp only [List.foldl_cons, List.foldl_nil]
    rw [step_begins (lead?_two (by omega) h₂),
      step_completes (by omega) (by simp) (by simp only [UInt8.reduceToNat]; omega)]
    rw [show v / 64 * 64 + (v % 64 + 128 - 0x80) = v by omega, hchar]
  · obtain ⟨low, high, hlead, hlow, hhigh⟩ := lead?_three (by omega) h₃ hvalid
    simp only [List.foldl_cons, List.foldl_nil]
    rw [step_begins hlead, step_continues (by omega) hlow hhigh,
      step_completes (by omega) (by simp) (by simp only [UInt8.reduceToNat]; omega)]
    rw [show (v / 4096 * 64 + (v / 64 % 64 + 128 - 0x80)) * 64 + (v % 64 + 128 - 0x80) = v by omega,
      hchar]
  · obtain ⟨low, high, hlead, hlow, hhigh⟩ := lead?_four (by omega) hlt
    simp only [List.foldl_cons, List.foldl_nil]
    rw [step_begins hlead, step_continues (by omega) hlow hhigh,
      step_continues (by omega) (by simp) (by simp only [UInt8.reduceToNat]; omega),
      step_completes (by omega) (by simp) (by simp only [UInt8.reduceToNat]; omega)]
    rw [show ((v / 262144 * 64 + (v / 4096 % 64 + 128 - 0x80)) * 64 + (v / 64 % 64 + 128 - 0x80)) * 64
      + (v % 64 + 128 - 0x80) = v by omega, hchar]

/-! ### Texts -/

theorem foldl_encode (cs : List Char) (ps : List Piece) :
    (cs.flatMap String.utf8EncodeChar).foldl Decoder.step ⟨none, ps⟩ =
      ⟨none, (cs.map Piece.char).reverse ++ ps⟩ := by
  induction cs generalizing ps with
  | nil => rfl
  | cons c cs ih =>
    rw [List.flatMap_cons, List.foldl_append, foldl_encodeChar, ih]
    simp

/-- A written text is cut into its characters. -/
theorem pieces_encode (s : String) : pieces (encode s) = s.toList.map Piece.char := by
  rw [pieces, encode, foldl_encode]
  simp [Decoder.finish]

/-- **A written text** is read as this text. -/
theorem decodeLossy_encode (s : String) : decodeLossy (encode s) = s := by
  have hshown : Piece.shown ∘ Piece.char = id := rfl
  rw [decodeLossy, pieces_encode, List.map_map, hshown, List.map_id, String.ofList_toList]

/-- A written text is not refused. -/
theorem decode?_encode (s : String) : decode? (encode s) = some s := by
  have hread : (s.toList.map Piece.char).mapM Piece.char? = some s.toList := by
    generalize s.toList = cs
    induction cs with
    | nil => rfl
    | cons c cs ih => simp [Piece.char?, ih]
  rw [decode?, pieces_encode, hread, Option.map_some, String.ofList_toList]

/-- Texts that are written alike are one text. -/
theorem encode_injective : Function.Injective encode :=
  Function.LeftInverse.injective decodeLossy_encode

theorem decodeLossy_rewritten (bs : Bytes) : decodeLossy (rewritten bs) = decodeLossy bs :=
  decodeLossy_encode _

/-- Bytes are read as one text exactly when one text is written for them. -/
theorem rewritten_eq_rewritten_iff {bs cs : Bytes} :
    rewritten bs = rewritten cs ↔ decodeLossy bs = decodeLossy cs :=
  encode_injective.eq_iff

end Utf8

end GoldenCheck
