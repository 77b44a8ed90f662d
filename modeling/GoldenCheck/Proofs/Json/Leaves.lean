import GoldenCheck.Proofs.Json.Grammar
import Mathlib.Data.List.TakeWhile

/-!
# Reading strings and numerals

What a strict reader of JSON texts does with a string and with a numeral. A character of a string is read
exactly when it is spelled (`JsonText.readChar?_eq_some_iff`), and so is a string
(`JsonText.readString?_eq_some_iff`). A numeral is read as far as its characters go
(`JsonText.readNumeral?_append`).
-/

namespace GoldenCheck

namespace JsonText

variable {c : Char} {n fuel : Nat} {s cs rest : List Char} {v : JsonTree}

/-! ### Strings -/

/-- Read a code unit. -/
def readUnit? : List Char → Option (Nat × List Char)
  | a :: b :: c :: d :: rest => (unit? a b c d).map (·, rest)
  | _ => none

/-- Read the second of two code units. -/
def readPair? (high : Nat) : List Char → Option (Char × List Char)
  | '\\' :: 'u' :: cs => do
    let (low, rest) ← readUnit? cs
    if IsPair high low then some (joined high low, rest) else none
  | _ => none

/-- Read what follows a backslash. -/
def readEscape? : List Char → Option (Char × List Char)
  | 'u' :: cs => do
    let (n, rest) ← readUnit? cs
    if n.isValidChar then some (Char.ofNat n, rest) else readPair? n rest
  | e :: rest => (shortEscape? e).map (·, rest)
  | [] => none

/-- Read a character of a string. -/
def readChar? : List Char → Option (Char × List Char)
  | '\\' :: cs => readEscape? cs
  | c :: rest => if c = '"' ∨ c.toNat < 0x20 then none else some (c, rest)
  | [] => none

/-- Read the characters of a string and the quote after them. -/
def readChars : Nat → List Char → Option (List Char × List Char)
  | 0, _ => none
  | fuel + 1, cs =>
    if cs.head? = some '"' then some ([], cs.tail)
    else do
      let (c, rest) ← readChar? cs
      let (s, rest) ← readChars fuel rest
      return (c :: s, rest)

/-- Read a string whose first quote has been read. -/
def readString? (cs : List Char) : Option (String × List Char) :=
  (readChars cs.length cs).map fun (s, rest) => (String.ofList s, rest)

theorem readUnit?_eq_some_iff : readUnit? cs = some (n, rest) ↔
    ∃ a b c d, cs = a :: b :: c :: d :: rest ∧ unit? a b c d = some n := by
  constructor
  · intro h
    unfold readUnit? at h
    split at h
    · obtain ⟨m, hm, heq⟩ := Option.map_eq_some_iff.1 h
      obtain ⟨rfl, rfl⟩ := Prod.mk.inj heq
      exact ⟨_, _, _, _, rfl, hm⟩
    · cases h
  · rintro ⟨a, b, c, d, rfl, h⟩
    rw [readUnit?, h]
    rfl

theorem readPair?_eq_some_iff {high : Nat} : readPair? high cs = some (c, rest) ↔
    ∃ a b d e low, cs = '\\' :: 'u' :: a :: b :: d :: e :: rest ∧ unit? a b d e = some low ∧
      IsPair high low ∧ c = joined high low := by
  constructor
  · intro h
    unfold readPair? at h
    split at h
    · obtain ⟨⟨low, rest'⟩, hunit, hfits⟩ := Option.bind_eq_some_iff.1 h
      obtain ⟨a, b, d, e, rfl, hlow⟩ := readUnit?_eq_some_iff.1 hunit
      dsimp only at hfits
      split_ifs at hfits with hpair
      obtain ⟨rfl, rfl⟩ := Prod.mk.inj (Option.some.inj hfits)
      exact ⟨a, b, d, e, low, rfl, hlow, hpair, rfl⟩
    · cases h
  · rintro ⟨a, b, d, e, low, rfl, hlow, hpair, hc⟩
    rw [hc]
    exact Option.bind_eq_some_iff.2
      ⟨(low, rest), readUnit?_eq_some_iff.2 ⟨a, b, d, e, rfl, hlow⟩, if_pos hpair⟩

theorem IsPair.not_isValidChar {high low : Nat} (h : IsPair high low) : ¬ high.isValidChar := by
  unfold IsPair at h
  simp only [Nat.isValidChar]
  omega

/-- The letter before a code unit is no other escape. -/
theorem ne_of_shortEscape? {e : Char} (h : shortEscape? e = some c) : e ≠ 'u' := by
  rintro rfl
  have hnone : shortEscape? 'u' = none := by decide
  rw [hnone] at h
  cases h

/-- What follows a backslash is read exactly when the two spell a character. -/
theorem readEscape?_eq_some_iff : readEscape? cs = some (c, rest) ↔
    ∃ spelled, SpellsChar c ('\\' :: spelled) ∧ cs = spelled ++ rest := by
  constructor
  · intro h
    unfold readEscape? at h
    split at h
    · obtain ⟨⟨n, rest'⟩, hunit, hfits⟩ := Option.bind_eq_some_iff.1 h
      obtain ⟨a, b, d, e, rfl, hn⟩ := readUnit?_eq_some_iff.1 hunit
      dsimp only at hfits
      split_ifs at hfits with hvalid
      · obtain ⟨rfl, rfl⟩ := Prod.mk.inj (Option.some.inj hfits)
        exact ⟨_, .unit hn hvalid, rfl⟩
      · obtain ⟨a', b', d', e', low, rfl, hlow, hpair, hc⟩ := readPair?_eq_some_iff.1 hfits
        rw [hc]
        exact ⟨_, .pair hn hlow hpair, rfl⟩
    · obtain ⟨m, hm, heq⟩ := Option.map_eq_some_iff.1 h
      obtain ⟨rfl, rfl⟩ := Prod.mk.inj heq
      exact ⟨[_], .short hm, rfl⟩
    · cases h
  · rintro ⟨spelled, h, rfl⟩
    cases h with
    | plain hquote hback => exact absurd rfl hback
    | short h =>
      rw [List.singleton_append, readEscape?, h]
      · rfl
      · exact ne_of_shortEscape? h
    | unit h hvalid =>
      exact Option.bind_eq_some_iff.2
        ⟨_, readUnit?_eq_some_iff.2 ⟨_, _, _, _, rfl, h⟩, if_pos hvalid⟩
    | pair hhigh hlow hpair =>
      refine Option.bind_eq_some_iff.2 ⟨_, readUnit?_eq_some_iff.2 ⟨_, _, _, _, rfl, hhigh⟩, ?_⟩
      refine (if_neg hpair.not_isValidChar).trans ?_
      exact readPair?_eq_some_iff.2 ⟨_, _, _, _, _, rfl, hlow, hpair, rfl⟩

/-- **A character is read** exactly when it is spelled. -/
theorem readChar?_eq_some_iff : readChar? cs = some (c, rest) ↔
    ∃ spelled, SpellsChar c spelled ∧ cs = spelled ++ rest := by
  constructor
  · intro h
    unfold readChar? at h
    split at h
    · obtain ⟨spelled, hspelled, rfl⟩ := readEscape?_eq_some_iff.1 h
      exact ⟨_, hspelled, rfl⟩
    · rename_i hback
      split_ifs at h with hplain
      obtain ⟨rfl, rfl⟩ := Prod.mk.inj (Option.some.inj h)
      rw [not_or, Nat.not_lt] at hplain
      exact ⟨[_], .plain hplain.1 hback hplain.2, rfl⟩
    · cases h
  · rintro ⟨spelled, h, rfl⟩
    -- A spelling that does not begin with a backslash is the character itself.
    by_cases hback : ∃ tail, spelled = '\\' :: tail
    · obtain ⟨tail, rfl⟩ := hback
      exact readEscape?_eq_some_iff.2 ⟨tail, h, rfl⟩
    · cases h with
      | plain hquote hslash hlow =>
        rw [List.singleton_append, readChar?, if_neg (not_or.2 ⟨hquote, Nat.not_lt.2 hlow⟩)]
        exact fun heq => hslash heq
      | short | unit | pair => exact absurd ⟨_, rfl⟩ hback

theorem SpellsChar.ne_nil {spelled : List Char} (h : SpellsChar c spelled) : spelled ≠ [] := by
  cases h <;> simp

/-- A spelled character does not begin like the end of a string. -/
theorem SpellsChar.head?_ne {spelled : List Char} (h : SpellsChar c spelled) :
    spelled.head? ≠ some '"' := by
  cases h with
  | plain hquote => simpa using hquote
  | short | unit | pair => simp

theorem readsChars_of_readChars (h : readChars fuel cs = some (s, rest)) : ReadsChars s cs rest := by
  induction fuel generalizing cs s with
  | zero => cases h
  | succ fuel ih =>
    rw [readChars] at h
    split_ifs at h with hquote
    · obtain ⟨rfl, rfl⟩ := Prod.mk.inj (Option.some.inj h)
      rw [← List.cons_head?_tail hquote]
      exact .quote
    · obtain ⟨⟨c, rest'⟩, hchar, hmore⟩ := Option.bind_eq_some_iff.1 h
      obtain ⟨⟨s', rest''⟩, hchars, hdone⟩ := Option.bind_eq_some_iff.1 hmore
      obtain ⟨rfl, rfl⟩ := Prod.mk.inj (Option.some.inj hdone)
      obtain ⟨spelled, hspelled, rfl⟩ := readChar?_eq_some_iff.1 hchar
      exact .char hspelled (ih hchars)

/-- The number of the characters is enough to read a string. -/
theorem ReadsChars.readChars (h : ReadsChars s cs rest) (hfuel : cs.length ≤ fuel) :
    readChars fuel cs = some (s, rest) := by
  induction h generalizing fuel with
  | quote =>
    cases fuel with
    | zero => simp at hfuel
    | succ fuel => rfl
  | @char c s spelled cs rest hspelled hmore ih =>
    have hpos : 0 < spelled.length := List.length_pos_iff.2 hspelled.ne_nil
    rw [List.length_append] at hfuel
    cases fuel with
    | zero => omega
    | succ fuel =>
      have hhead : (spelled ++ cs).head? ≠ some '"' := by
        rw [List.head?_append_of_ne_nil _ hspelled.ne_nil]
        exact hspelled.head?_ne
      have hchar : readChar? (spelled ++ cs) = some (c, cs) :=
        readChar?_eq_some_iff.2 ⟨spelled, hspelled, rfl⟩
      have hchars : JsonText.readChars fuel cs = some (s, rest) := ih (by omega)
      rw [JsonText.readChars, if_neg hhead]
      exact Option.bind_eq_some_iff.2 ⟨_, hchar, Option.bind_eq_some_iff.2 ⟨_, hchars, rfl⟩⟩

theorem readString?_eq_some_iff {text : String} : readString? cs = some (text, rest) ↔
    ∃ s, ReadsChars s cs rest ∧ text = String.ofList s := by
  constructor
  · intro h
    obtain ⟨⟨s, rest'⟩, hs, heq⟩ := Option.map_eq_some_iff.1 h
    obtain ⟨rfl, rfl⟩ := Prod.mk.inj heq
    exact ⟨s, readsChars_of_readChars hs, rfl⟩
  · rintro ⟨s, hs, rfl⟩
    exact Option.map_eq_some_iff.2 ⟨_, hs.readChars le_rfl, rfl⟩

/-! ### Numerals -/

/-- A character that can stand in a numeral. -/
def isNumeralChar (c : Char) : Bool :=
  c.isDigit || c == '-' || c == '+' || c == '.' || c == 'e' || c == 'E'

/-- Read a numeral. -/
def readNumeral? (cs : List Char) : Option (JsonTree × List Char) :=
  let numeral := cs.takeWhile isNumeralChar
  if isNumeral numeral then some (.number numeral, cs.dropWhile isNumeralChar) else none

/-- Text after which a numeral has ended. -/
def EndsNumeral (rest : List Char) : Prop := ∀ c, rest.head? = some c → isNumeralChar c = false

/-- A numeral ends before any other character. -/
theorem step_eq_none (h : isNumeralChar c = false) (state : NumeralState) : state.step c = none := by
  simp only [isNumeralChar, Bool.or_eq_false_iff, beq_eq_false_iff_ne] at h
  obtain ⟨⟨⟨⟨⟨hdigit, hminus⟩, hplus⟩, hpoint⟩, he⟩, hE⟩ := h
  have hzero : c ≠ '0' := by
    rintro rfl
    exact absurd hdigit (by decide)
  cases state <;>
    simp only [NumeralState.step, NumeralState.afterWhole, hdigit, hminus, hplus, hpoint, he, hE, hzero,
      or_self, Bool.false_eq_true, if_false]

theorem all_isNumeralChar {state : NumeralState} (h : cs.foldlM NumeralState.step state ≠ none) :
    ∀ c ∈ cs, isNumeralChar c = true := by
  induction cs generalizing state with
  | nil => exact fun _ hc => absurd hc List.not_mem_nil
  | cons c cs ih =>
    rw [List.foldlM_cons] at h
    cases hstep : state.step c with
    | none => exact absurd (by rw [hstep]; rfl) h
    | some next =>
      rw [hstep] at h
      refine List.forall_mem_cons.2 ⟨?_, ih h⟩
      by_contra hc
      rw [step_eq_none (Bool.not_eq_true _ ▸ hc)] at hstep
      cases hstep

theorem all_isNumeralChar_of_isNumeral (h : isNumeral cs = true) : ∀ c ∈ cs, isNumeralChar c = true := by
  have hread : cs.foldlM NumeralState.step .start ≠ none := by
    intro hnone
    rw [isNumeral, hnone] at h
    cases h
  exact all_isNumeralChar hread

/-- A numeral has a character. -/
theorem ne_nil_of_isNumeral (h : isNumeral cs = true) : cs ≠ [] := by
  rintro rfl
  cases h

theorem readNumeral?_append {numeral : List Char} (h : isNumeral numeral = true)
    (hrest : EndsNumeral rest) : readNumeral? (numeral ++ rest) = some (.number numeral, rest) := by
  have hall := all_isNumeralChar_of_isNumeral h
  have htake : rest.takeWhile isNumeralChar = [] := by
    cases rest with
    | nil => rfl
    | cons c rest => exact List.takeWhile_cons_of_neg (by simp [hrest c rfl])
  have hdrop : rest.dropWhile isNumeralChar = rest := by
    cases rest with
    | nil => rfl
    | cons c rest => exact List.dropWhile_cons_of_neg (by simp [hrest c rfl])
  simp only [readNumeral?, List.takeWhile_append_of_pos hall, List.dropWhile_append_of_pos hall, htake,
    hdrop, List.append_nil, h, if_true]

theorem reads_of_readNumeral? (h : readNumeral? cs = some (v, rest)) : Reads (.value v) cs rest := by
  unfold readNumeral? at h
  dsimp only at h
  split_ifs at h with hnumeral
  obtain ⟨rfl, rfl⟩ := Prod.mk.inj (Option.some.inj h)
  have hread : Reads (.value (.number (cs.takeWhile isNumeralChar)))
      (cs.takeWhile isNumeralChar ++ cs.dropWhile isNumeralChar) (cs.dropWhile isNumeralChar) :=
    .number hnumeral
  rwa [List.takeWhile_append_dropWhile] at hread

end JsonText

end GoldenCheck
