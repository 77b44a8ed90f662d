import GoldenCheck.Proofs.Text.Encoding

/-!
# What lossy reading loses

Lossy reading forgets only what is broken. Bytes in which no stretch is broken are just the bytes that the
text is written with (`Utf8.isText_iff`), so they are known from the text. An ASCII byte is read as its
character wherever it stands, and what comes before and after it is read by itself
(`Utf8.pieces_append_ascii`).
-/

namespace GoldenCheck

namespace Utf8

variable {bits more v : Nat} {low high b b₁ b₂ b₃ : UInt8} {held bs cs : Bytes} {p : Partial}
  {d : Decoder}

/-- The bytes hold no broken stretch. -/
def IsText (bs : Bytes) : Prop := Piece.broken ∉ pieces bs

instance (bs : Bytes) : Decidable (IsText bs) := inferInstanceAs (Decidable (¬ _))

/-! ### The bytes of one character -/

/-- A byte that may come after the first one of a character. -/
def Continues (b : UInt8) : Prop := 0x80 ≤ b.toNat ∧ b.toNat ≤ 0xBF

/-- What a first byte says about the character. -/
theorem bits_of_lead? (h : lead? b = some p) :
    p.more = 0 ∧ b.toNat = 0xC0 + p.bits ∧ p.bits < 32 ∨
      p.more = 1 ∧ b.toNat = 0xE0 + p.bits ∧ p.bits < 16 ∨
      p.more = 2 ∧ b.toNat = 0xF0 + p.bits := by
  unfold lead? at h
  dsimp only at h
  split_ifs at h <;> obtain rfl := Option.some.inj h <;> dsimp only <;> omega

theorem ofNat_eq_of_toNat {n : Nat} (h : b.toNat = n) : UInt8.ofNat n = b := by
  rw [← h, UInt8.ofNat_toNat]

/-- A character of two bytes. -/
theorem encodeChar_two (hb : b.toNat = 0xC0 + bits) (hbits : bits < 32) (h₁ : Continues b₁)
    (hv : v = bits * 64 + (b₁.toNat - 0x80)) (hleast : 0x80 ≤ v) (hvalid : v.isValidChar) :
    String.utf8EncodeChar (Char.ofNat v) = [b, b₁] := by
  obtain ⟨h₁, h₁'⟩ := h₁
  rw [String.utf8EncodeChar, val_ofNat hvalid, if_neg (by omega), if_pos (by omega),
    ofNat_eq_of_toNat (show b.toNat = v / 64 % 32 + 192 by omega),
    ofNat_eq_of_toNat (show b₁.toNat = v % 64 + 128 by omega)]

/-- A character of three bytes. -/
theorem encodeChar_three (hb : b.toNat = 0xE0 + bits) (hbits : bits < 16) (h₁ : Continues b₁)
    (h₂ : Continues b₂) (hv : v = (bits * 64 + (b₁.toNat - 0x80)) * 64 + (b₂.toNat - 0x80))
    (hleast : 0x800 ≤ v) (hvalid : v.isValidChar) :
    String.utf8EncodeChar (Char.ofNat v) = [b, b₁, b₂] := by
  obtain ⟨h₁, h₁'⟩ := h₁
  obtain ⟨h₂, h₂'⟩ := h₂
  rw [String.utf8EncodeChar, val_ofNat hvalid, if_neg (by omega), if_neg (by omega), if_pos (by omega),
    ofNat_eq_of_toNat (show b.toNat = v / 4096 % 16 + 224 by omega),
    ofNat_eq_of_toNat (show b₁.toNat = v / 64 % 64 + 128 by omega),
    ofNat_eq_of_toNat (show b₂.toNat = v % 64 + 128 by omega)]

/-- A character of four bytes. -/
theorem encodeChar_four (hb : b.toNat = 0xF0 + bits) (h₁ : Continues b₁) (h₂ : Continues b₂)
    (h₃ : Continues b₃)
    (hv : v = ((bits * 64 + (b₁.toNat - 0x80)) * 64 + (b₂.toNat - 0x80)) * 64 + (b₃.toNat - 0x80))
    (hleast : 0x10000 ≤ v) (hvalid : v.isValidChar) :
    String.utf8EncodeChar (Char.ofNat v) = [b, b₁, b₂, b₃] := by
  obtain ⟨h₁, h₁'⟩ := h₁
  obtain ⟨h₂, h₂'⟩ := h₂
  obtain ⟨h₃, h₃'⟩ := h₃
  rw [String.utf8EncodeChar, val_ofNat hvalid, if_neg (by omega), if_neg (by omega), if_neg (by omega),
    ofNat_eq_of_toNat (show b.toNat = v / 262144 % 8 + 240 by omega),
    ofNat_eq_of_toNat (show b₁.toNat = v / 4096 % 64 + 128 by omega),
    ofNat_eq_of_toNat (show b₂.toNat = v / 64 % 64 + 128 by omega),
    ofNat_eq_of_toNat (show b₃.toNat = v % 64 + 128 by omega)]

/-- The bytes that were read of a pending character. -/
inductive Partial.Begun : Partial → Bytes → Prop where
  /-- The first byte. -/
  | first {b : UInt8} {p : Partial} (h : lead? b = some p) : Begun p [b]
  /-- One byte more, but not the last. -/
  | next {bits more : Nat} {low high b : UInt8} {held : Bytes} {p : Partial}
      (h : Begun ⟨bits, more + 1, low, high⟩ held) (hlow : low ≤ b) (hhigh : b ≤ high)
      (hp : p = ⟨bits * 64 + (b.toNat - 0x80), more, 0x80, 0xBF⟩) : Begun p (held ++ [b])

theorem Partial.Begun.isWide (h : p.Begun held) : p.IsWide held.length := by
  induction h with
  | first h => exact isWide_of_lead? h
  | next _ hlow hhigh hp ih =>
    rw [List.length_append, hp]
    exact ih.next hlow hhigh

theorem Partial.Begun.length_pos (h : p.Begun held) : 0 < held.length := by
  cases h <;> simp

/-- A byte between the bounds of a pending character continues it. -/
theorem Partial.Begun.continues (h : Partial.Begun ⟨bits, more, low, high⟩ held) (hlow : low ≤ b)
    (hhigh : b ≤ high) : Continues b := by
  have hge : 0x80 ≤ low.toNat := h.isWide.low_ge
  have hle : high.toNat ≤ 0xBF := h.isWide.high_le
  exact ⟨hge.trans (UInt8.le_iff_toNat_le.1 hlow), (UInt8.le_iff_toNat_le.1 hhigh).trans hle⟩

/-- **A character is written with the bytes that were read**, once the last of them has come. -/
theorem Partial.Begun.encodeChar (h : Partial.Begun ⟨bits, 0, low, high⟩ held) (hlow : low ≤ b)
    (hhigh : b ≤ high) :
    String.utf8EncodeChar (Char.ofNat (bits * 64 + (b.toNat - 0x80))) = held ++ [b] := by
  have hlast := h.continues hlow hhigh
  obtain ⟨hleast, hvalid⟩ := h.isWide.last hlow hhigh
  generalize hv : bits * 64 + (b.toNat - 0x80) = v at hleast hvalid ⊢
  -- One case for each number of bytes that were read before.
  cases h with
  | @first b₀ _ hlead =>
    obtain ⟨hb, hbits⟩ : b₀.toNat = 0xC0 + bits ∧ bits < 32 := by simpa using bits_of_lead? hlead
    exact encodeChar_two hb hbits hlast hv.symm hleast hvalid
  | @next bits₁ more₁ _ _ b₁ _ _ h hlow₁ hhigh₁ hp =>
    have hbits₁ : bits = bits₁ * 64 + (b₁.toNat - 0x80) := congrArg Partial.bits hp
    have hmore₁ : 0 = more₁ := congrArg Partial.more hp
    have h₁ := h.continues hlow₁ hhigh₁
    cases h with
    | @first b₀ _ hlead =>
      obtain ⟨hb, hbits⟩ : b₀.toNat = 0xE0 + bits₁ ∧ bits₁ < 16 := by
        simpa [← hmore₁] using bits_of_lead? hlead
      exact encodeChar_three hb hbits h₁ hlast (hv.symm.trans (by rw [hbits₁])) hleast hvalid
    | @next bits₂ more₂ _ _ b₂ _ _ h hlow₂ hhigh₂ hp =>
      have hbits₂ : bits₁ = bits₂ * 64 + (b₂.toNat - 0x80) := congrArg Partial.bits hp
      have hmore₂ : more₁ + 1 = more₂ := congrArg Partial.more hp
      have h₂ := h.continues hlow₂ hhigh₂
      cases h with
      | @first b₀ _ hlead =>
        have hb : b₀.toNat = 0xF0 + bits₂ := by simpa [← hmore₁, ← hmore₂] using bits_of_lead? hlead
        exact encodeChar_four hb h₂ h₁ hlast (hv.symm.trans (by rw [hbits₁, hbits₂])) hleast hvalid
      | @next _ more₃ _ _ _ _ _ h _ _ hp =>
        have hpos := h.length_pos
        have hlong := h.isWide.length_le
        have hmore₃ : more₂ + 1 = more₃ := congrArg Partial.more hp
        dsimp only at hlong
        omega

/-! ### Nothing is lost of a text -/

/-- What is written for pieces, the newest of which comes first. -/
def writtenFor (ps : List Piece) : Bytes := ps.reverse.flatMap fun piece => String.utf8EncodeChar piece.shown

theorem writtenFor_cons (piece : Piece) (ps : List Piece) :
    writtenFor (piece :: ps) = writtenFor ps ++ String.utf8EncodeChar piece.shown := by
  simp [writtenFor]

/-- Unless something was broken, the machine has read the bytes that are written for its pieces, and what it
holds of a pending character. -/
def Decoder.HasKept (d : Decoder) (bs : Bytes) : Prop :=
  Piece.broken ∉ d.pieces → ∃ held, bs = writtenFor d.pieces ++ held ∧
    match d.pending with
    | none => held = []
    | some p => p.Begun held

/-- A byte at the start of a character. -/
theorem hasKept_start {ps : List Piece} (h : Piece.broken ∉ ps → bs = writtenFor ps) (b : UInt8) :
    (Decoder.start ps b).HasKept (bs ++ [b]) := by
  unfold Decoder.start
  split_ifs with hb
  · intro hps
    rw [h (List.not_mem_of_not_mem_cons hps), writtenFor_cons]
    exact ⟨[], by simp [Piece.shown, encodeChar_ofNat_byte hb], rfl⟩
  · cases hlead : lead? b with
    | none => exact fun hps => absurd List.mem_cons_self hps
    | some p => exact fun hps => ⟨[b], by rw [h hps], .first hlead⟩

theorem Decoder.HasKept.step (h : d.HasKept bs) (b : UInt8) : (d.step b).HasKept (bs ++ [b]) := by
  obtain ⟨pending, ps⟩ := d
  cases pending with
  | none =>
    refine hasKept_start (fun hps => ?_) b
    obtain ⟨held, rfl, rfl⟩ := h hps
    simp
  | some p =>
    obtain ⟨bits, more, low, high⟩ := p
    simp only [Decoder.step]
    split_ifs with hnext
    · cases more with
      | zero =>
        intro hps
        obtain ⟨held, rfl, hheld⟩ := h (List.not_mem_of_not_mem_cons hps)
        have hheld : Partial.Begun ⟨bits, 0, low, high⟩ held := hheld
        refine ⟨[], ?_, rfl⟩
        rw [writtenFor_cons, Piece.shown, hheld.encodeChar hnext.1 hnext.2]
        simp
      | succ more =>
        intro hps
        obtain ⟨held, rfl, hheld⟩ := h hps
        exact ⟨held ++ [b], by simp, .next hheld hnext.1 hnext.2 rfl⟩
    · -- What was held is broken.
      exact hasKept_start (fun hps => absurd List.mem_cons_self hps) b

theorem Decoder.HasKept.foldl (h : d.HasKept bs) (more : Bytes) :
    (more.foldl Decoder.step d).HasKept (bs ++ more) := by
  induction more generalizing d bs with
  | nil => simpa using h
  | cons b more ih => simpa using ih (h.step b)

/-- **A text is read without loss**: what is written for it again are the same bytes. -/
theorem IsText.rewritten_eq (h : IsText bs) : rewritten bs = bs := by
  have hstart : Decoder.HasKept ⟨none, []⟩ [] := fun _ => ⟨[], rfl, rfl⟩
  have hkept := hstart.foldl bs
  rw [rewritten_eq_flatMap]
  unfold IsText pieces Decoder.finish at h
  unfold pieces Decoder.finish
  cases hpending : (bs.foldl Decoder.step ⟨none, []⟩).pending with
  | none =>
    rw [hpending] at h
    obtain ⟨held, hbs, hheld⟩ := hkept (by simpa using h)
    rw [hpending] at hheld
    obtain rfl : held = [] := hheld
    simpa [writtenFor] using hbs.symm
  | some p =>
    rw [hpending] at h
    simp at h

theorem isText_encode (s : String) : IsText (encode s) := by
  simp [IsText, pieces_encode]

theorem isText_iff : IsText bs ↔ rewritten bs = bs :=
  ⟨IsText.rewritten_eq, fun h => h ▸ isText_encode _⟩

/-- What is read without U+FFFD is a text. -/
theorem isText_of_notMem (h : '\uFFFD' ∉ (decodeLossy bs).toList) : IsText bs := by
  intro hbroken
  rw [decodeLossy, String.toList_ofList] at h
  exact h (List.mem_map.2 ⟨_, hbroken, rfl⟩)

/-- Texts that are read alike are the same bytes. -/
theorem IsText.eq_of_decodeLossy_eq (hbs : IsText bs) (hcs : IsText cs)
    (h : decodeLossy bs = decodeLossy cs) : bs = cs := by
  rw [← hbs.rewritten_eq, ← hcs.rewritten_eq, rewritten, rewritten, h]

/-! ### ASCII bytes -/

/-- An ASCII byte ends what is pending, and is read as its character. -/
theorem Decoder.HasRead.step_ascii (h : d.HasRead bs) (hb : b < 0x80) :
    d.step b = ⟨none, .char (Char.ofNat b.toNat) :: d.finish⟩ := by
  obtain ⟨pending, ps⟩ := d
  cases pending with
  | none => simp [Decoder.step, Decoder.start, Decoder.finish, hb]
  | some p =>
    obtain ⟨_, held, -, -, hheld⟩ := h
    have hwide : p.IsWide held.length := hheld
    have hlow := hwide.low_ge
    have hout : ¬ (p.low ≤ b ∧ b ≤ p.high) := by
      rw [UInt8.lt_iff_toNat_lt] at hb
      rw [UInt8.le_iff_toNat_le]
      simp only [UInt8.reduceToNat] at hb
      omega
    simp only [Decoder.step, if_neg hout, Decoder.start, if_pos hb, Decoder.finish]

/-- Older pieces do not matter to what is read next. -/
theorem step_append (d : Decoder) (ps : List Piece) (b : UInt8) :
    Decoder.step ⟨d.pending, d.pieces ++ ps⟩ b = ⟨(d.step b).pending, (d.step b).pieces ++ ps⟩ := by
  have hstart : ∀ qs, Decoder.start (qs ++ ps) b =
      ⟨(Decoder.start qs b).pending, (Decoder.start qs b).pieces ++ ps⟩ := by
    intro qs
    unfold Decoder.start
    split_ifs
    · rfl
    · cases lead? b <;> rfl
  obtain ⟨pending, qs⟩ := d
  cases pending with
  | none => exact hstart qs
  | some p =>
    simp only [Decoder.step]
    split_ifs
    · cases p.more <;> rfl
    · exact hstart (.broken :: qs)

theorem foldl_step_append (d : Decoder) (ps : List Piece) (bs : Bytes) :
    bs.foldl Decoder.step ⟨d.pending, d.pieces ++ ps⟩ =
      ⟨(bs.foldl Decoder.step d).pending, (bs.foldl Decoder.step d).pieces ++ ps⟩ := by
  induction bs generalizing d with
  | nil => rfl
  | cons b bs ih => rw [List.foldl_cons, List.foldl_cons, step_append, ih]

/-- **An ASCII byte is read wherever it stands**, and so is what comes before and after it. -/
theorem pieces_append_ascii (front : Bytes) (hb : b < 0x80) (back : Bytes) :
    pieces (front ++ b :: back) = pieces front ++ .char (Char.ofNat b.toNat) :: pieces back := by
  have hstart : Decoder.HasRead ⟨none, []⟩ [] := ⟨[], [], rfl, List.Forall₂.nil, rfl⟩
  have hread := hstart.foldl front
  have hback := foldl_step_append ⟨none, []⟩
    (.char (Char.ofNat b.toNat) :: (front.foldl Decoder.step ⟨none, []⟩).finish) back
  rw [List.nil_append] at hback
  rw [pieces, List.foldl_append, List.foldl_cons, hread.step_ascii hb, hback, pieces, pieces]
  unfold Decoder.finish
  cases (back.foldl Decoder.step ⟨none, []⟩).pending <;> simp

end Utf8

end GoldenCheck
