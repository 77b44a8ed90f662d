import GoldenCheck.Proofs.Json.Leaves

/-!
# A strict reader of JSON texts

`JsonText.parse?` reads a text by the grammar of JSON: it takes nothing that the grammar does not have, and
all that it has. A value is read from the front and what is left is given back (`JsonText.readValue`). The
reader counts down a number so that it ends; the number of the characters is enough. So `parse?` and the
grammar say the same (`JsonText.parse?_eq_some_iff`), and a text stands for one value at most
(`JsonText.IsDocument.unique`).
-/

namespace GoldenCheck

namespace JsonText

/-! ### The reader -/

/-- Leave white space out. -/
def skipSpaces (cs : List Char) : List Char := cs.dropWhile isSpace

/-- Read elements with commas between them and a bracket after them. -/
def readList {α : Type} (read : List Char → Option (α × List Char)) (close : Char) :
    Nat → List Char → Option (List α × List Char)
  | 0, _ => none
  | fuel + 1, cs => do
    let (x, rest) ← read (skipSpaces cs)
    match skipSpaces rest with
    | c :: rest =>
      if c = close then some ([x], rest)
      else if c = ',' then do
        let (xs, rest) ← readList read close fuel rest
        return (x :: xs, rest)
      else none
    | [] => none

/-- Read what follows an opening bracket. -/
def readBrackets {α : Type} (read : List Char → Option (α × List Char)) (close : Char)
    (fuel : Nat) (cs : List Char) : Option (List α × List Char) :=
  match skipSpaces cs with
  | c :: rest => if c = close then some ([], rest) else readList read close fuel cs
  | [] => none

/-- Read a member of a record. -/
def readMember (read : List Char → Option (JsonTree × List Char)) :
    List Char → Option ((String × JsonTree) × List Char)
  | '"' :: cs => do
    let (k, rest) ← readString? cs
    match skipSpaces rest with
    | ':' :: rest => do
      let (v, rest) ← read (skipSpaces rest)
      return ((k, v), rest)
    | _ => none
  | _ => none

/-- Read a value. -/
def readValue : Nat → List Char → Option (JsonTree × List Char)
  | 0, _ => none
  | fuel + 1, cs =>
    match cs with
    | 'n' :: 'u' :: 'l' :: 'l' :: rest => some (.null, rest)
    | 't' :: 'r' :: 'u' :: 'e' :: rest => some (.bool true, rest)
    | 'f' :: 'a' :: 'l' :: 's' :: 'e' :: rest => some (.bool false, rest)
    | '"' :: cs => (readString? cs).map fun (s, rest) => (.text s, rest)
    | '[' :: cs => (readBrackets (readValue fuel) ']' fuel cs).map fun (xs, rest) => (.array xs, rest)
    | '\x7b' :: cs =>
      (readBrackets (readMember (readValue fuel)) '\x7d' fuel cs).map fun (ms, rest) => (.object ms, rest)
    | cs => readNumeral? cs

/-- Read the value that a text begins with. -/
def read? (cs : List Char) : Option (JsonTree × List Char) := readValue cs.length cs

/-- **Read a JSON text.** -/
def parse? (text : String) : Option JsonTree := do
  let (v, rest) ← read? (skipSpaces text.toList)
  if rest.all isSpace then some v else none

variable {c close : Char} {fuel : Nat} {s cs rest a b : List Char} {v : JsonTree}

/-! ### White space -/

theorem skipSpaces_append (h : Spaces a) (cs : List Char) : skipSpaces (a ++ cs) = skipSpaces cs :=
  List.dropWhile_append_of_pos h

theorem skipSpaces_cons (h : isSpace c = false) (cs : List Char) : skipSpaces (c :: cs) = c :: cs :=
  List.dropWhile_cons_of_neg (by simp [h])

/-- What white space is left out of begins with some. -/
theorem exists_spaces (cs : List Char) : ∃ a, Spaces a ∧ cs = a ++ skipSpaces cs :=
  ⟨cs.takeWhile isSpace, fun _ h => List.mem_takeWhile_imp h, List.takeWhile_append_dropWhile.symm⟩

/-! ### Lists -/

section Lists

variable {α : Type} {read : List Char → Option (α × List Char)} {x : α} {xs : List α}

/-- A text that begins like a value or a member: neither with white space nor with a bracket that
closes. -/
def Starts (cs : List Char) : Prop :=
  ∃ c tail, cs = c :: tail ∧ isSpace c = false ∧ c ≠ ']' ∧ c ≠ '\x7d'

theorem Starts.skipSpaces (h : Starts cs) : skipSpaces cs = cs := by
  obtain ⟨c, tail, rfl, hspace, -, -⟩ := h
  exact skipSpaces_cons hspace tail

/-- The last element is read with the bracket after it. -/
theorem readList_last (hfuel : 0 < fuel) (ha : Spaces a) (hb : Spaces b) (hstarts : Starts cs)
    (hclose : isSpace close = false) (hread : read cs = some (x, b ++ close :: rest)) :
    readList read close fuel (a ++ cs) = some ([x], rest) := by
  obtain ⟨fuel, rfl⟩ := Nat.exists_eq_add_one.2 hfuel
  refine Option.bind_eq_some_iff.2 ⟨(x, b ++ close :: rest), ?_, ?_⟩
  · rw [skipSpaces_append ha, hstarts.skipSpaces, hread]
  · simp only [skipSpaces_append hb, skipSpaces_cons hclose, if_true]

/-- An element is read with the comma after it, and then the others. -/
theorem readList_more {ds : List Char} (hfuel : 0 < fuel) (ha : Spaces a) (hb : Spaces b)
    (hstarts : Starts cs) (hclose : close ≠ ',') (hread : read cs = some (x, b ++ ',' :: ds))
    (hmore : readList read close (fuel - 1) ds = some (xs, rest)) :
    readList read close fuel (a ++ cs) = some (x :: xs, rest) := by
  obtain ⟨fuel, rfl⟩ := Nat.exists_eq_add_one.2 hfuel
  refine Option.bind_eq_some_iff.2 ⟨(x, b ++ ',' :: ds), ?_, ?_⟩
  · rw [skipSpaces_append ha, hstarts.skipSpaces, hread]
  · simp only [skipSpaces_append hb, skipSpaces_cons (show isSpace ',' = false by decide),
      if_neg hclose.symm, if_true]
    exact Option.bind_eq_some_iff.2 ⟨_, hmore, rfl⟩

/-- A list that is read is one, when its elements are. -/
theorem IsList.reads_of_readList {element : α → Phrase} {phrase : List α → Phrase}
    (h : IsList element phrase close)
    (hread : ∀ {x cs rest}, read cs = some (x, rest) → Reads (element x) cs rest)
    (hlist : readList read close fuel cs = some (xs, rest)) : Reads (phrase xs) cs rest := by
  induction fuel generalizing cs xs with
  | zero => cases hlist
  | succ fuel ih =>
    obtain ⟨⟨x, after⟩, hx, hmore⟩ := Option.bind_eq_some_iff.1 hlist
    obtain ⟨a, ha, hcs⟩ := exists_spaces cs
    obtain ⟨b, hb, hafter⟩ := exists_spaces after
    have hfirst := hread hx
    rw [hcs]
    dsimp only at hmore
    split at hmore
    · rename_i c tail hskip
      rw [hafter, hskip] at hfirst
      split_ifs at hmore with hclose hcomma
      · obtain ⟨rfl, rfl⟩ := Prod.mk.inj (Option.some.inj hmore)
        exact h.last ha hb (hclose ▸ hfirst)
      · obtain ⟨⟨xs', rest'⟩, hxs, hdone⟩ := Option.bind_eq_some_iff.1 hmore
        obtain ⟨rfl, rfl⟩ := Prod.mk.inj (Option.some.inj hdone)
        exact h.more ha hb (hcomma ▸ hfirst) (ih hxs)
    · cases hmore

/-- What follows an opening bracket is the closing one, or a list. -/
theorem readBrackets_cases (h : readBrackets read close fuel cs = some (xs, rest)) :
    (xs = [] ∧ ∃ a, Spaces a ∧ cs = a ++ close :: rest) ∨
      readList read close fuel cs = some (xs, rest) := by
  obtain ⟨a, ha, hcs⟩ := exists_spaces cs
  unfold readBrackets at h
  split at h
  · rename_i c tail hskip
    split_ifs at h with hclose
    · obtain ⟨rfl, rfl⟩ := Prod.mk.inj (Option.some.inj h)
      rw [hskip, hclose] at hcs
      exact Or.inl ⟨rfl, a, ha, hcs⟩
    · exact Or.inr h
  · cases h

theorem readBrackets_empty (ha : Spaces a) (hclose : isSpace close = false) :
    readBrackets read close fuel (a ++ close :: rest) = some ([], rest) := by
  simp only [readBrackets, skipSpaces_append ha, skipSpaces_cons hclose, if_true]

theorem readBrackets_of_starts (ha : Spaces a) (hstarts : Starts cs)
    (hclose : close = ']' ∨ close = '\x7d') :
    readBrackets read close fuel (a ++ cs) = readList read close fuel (a ++ cs) := by
  obtain ⟨c, tail, rfl, hspace, hsquare, hcurly⟩ := hstarts
  have hne : c ≠ close := by
    rcases hclose with rfl | rfl
    · exact hsquare
    · exact hcurly
  simp only [readBrackets, skipSpaces_append ha, skipSpaces_cons hspace, if_neg hne]

end Lists

/-! ### Values -/

/-- The reader reads a phrase: with enough fuel, if what is left does not go on with a numeral. -/
def IsRead : Phrase → List Char → List Char → Prop
  | .value v, cs, rest => EndsNumeral rest → ∀ fuel, cs.length ≤ fuel →
      readValue fuel cs = some (v, rest)
  | .member m, cs, rest => EndsNumeral rest → ∀ fuel, cs.length ≤ fuel →
      readMember (readValue fuel) cs = some (m, rest)
  | .items xs, cs, rest => ∀ fuel count, cs.length ≤ fuel → cs.length ≤ count →
      readList (readValue fuel) ']' count cs = some (xs, rest)
  | .members ms, cs, rest => ∀ fuel count, cs.length ≤ fuel → cs.length ≤ count →
      readList (readMember (readValue fuel)) '\x7d' count cs = some (ms, rest)

theorem reads_of_readMember {read : List Char → Option (JsonTree × List Char)} {m : String × JsonTree}
    (hread : ∀ {v cs rest}, read cs = some (v, rest) → Reads (.value v) cs rest)
    (h : readMember read cs = some (m, rest)) : Reads (.member m) cs rest := by
  unfold readMember at h
  split at h
  · rename_i cs
    obtain ⟨⟨k, after⟩, hkey, hvalue⟩ := Option.bind_eq_some_iff.1 h
    obtain ⟨s, hs, rfl⟩ := readString?_eq_some_iff.1 hkey
    obtain ⟨a, ha, hafter⟩ := exists_spaces after
    dsimp only at hvalue
    split at hvalue
    · rename_i ds hskip
      obtain ⟨b, hb, hds⟩ := exists_spaces ds
      obtain ⟨⟨v, rest'⟩, hv, hdone⟩ := Option.bind_eq_some_iff.1 hvalue
      obtain ⟨rfl, rfl⟩ := Prod.mk.inj (Option.some.inj hdone)
      rw [hafter, hskip, hds] at hs
      exact .member hs ha hb (hread hv)
    · cases hvalue
  · cases h

/-- **What is read as a value** is one. -/
theorem reads_of_readValue (h : readValue fuel cs = some (v, rest)) : Reads (.value v) cs rest := by
  induction fuel generalizing cs v rest with
  | zero => cases h
  | succ fuel ih =>
    unfold readValue at h
    split at h
    · obtain ⟨rfl, rfl⟩ := Prod.mk.inj (Option.some.inj h)
      exact .nullWord
    · obtain ⟨rfl, rfl⟩ := Prod.mk.inj (Option.some.inj h)
      exact .trueWord
    · obtain ⟨rfl, rfl⟩ := Prod.mk.inj (Option.some.inj h)
      exact .falseWord
    · obtain ⟨⟨s, rest'⟩, hs, hdone⟩ := Option.map_eq_some_iff.1 h
      obtain ⟨rfl, rfl⟩ := Prod.mk.inj hdone
      obtain ⟨chars, hchars, rfl⟩ := readString?_eq_some_iff.1 hs
      exact .text hchars
    · obtain ⟨⟨xs, rest'⟩, hxs, hdone⟩ := Option.map_eq_some_iff.1 h
      obtain ⟨rfl, rfl⟩ := Prod.mk.inj hdone
      rcases readBrackets_cases hxs with ⟨rfl, a, ha, rfl⟩ | hlist
      · exact .emptyArray ha
      · exact .array (isList_items.reads_of_readList ih hlist)
    · obtain ⟨⟨ms, rest'⟩, hms, hdone⟩ := Option.map_eq_some_iff.1 h
      obtain ⟨rfl, rfl⟩ := Prod.mk.inj hdone
      rcases readBrackets_cases hms with ⟨rfl, a, ha, rfl⟩ | hlist
      · exact .emptyObject ha
      · exact .object (isList_members.reads_of_readList (reads_of_readMember ih) hlist)
    · exact reads_of_readNumeral? h

theorem isNumeralChar_of_isSpace (h : isSpace c = true) : isNumeralChar c = false := by
  simp only [isSpace, Bool.or_eq_true, beq_iff_eq] at h
  rcases h with ((rfl | rfl) | rfl) | rfl <;> rfl

theorem endsNumeral_append (hb : Spaces b) (hc : isNumeralChar c = false) (rest : List Char) :
    EndsNumeral (b ++ c :: rest) := by
  intro d hd
  cases b with
  | nil =>
    obtain rfl : c = d := by simpa using hd
    exact hc
  | cons e b =>
    obtain rfl : e = d := by simpa using hd
    exact isNumeralChar_of_isSpace (hb e List.mem_cons_self)

theorem starts_of_isNumeral {numeral : List Char} (h : isNumeral numeral = true) (rest : List Char) :
    Starts (numeral ++ rest) := by
  obtain ⟨c, tail, rfl⟩ := List.exists_cons_of_ne_nil (ne_nil_of_isNumeral h)
  have hc := all_isNumeralChar_of_isNumeral h c List.mem_cons_self
  refine ⟨c, tail ++ rest, rfl, ?_, ?_, ?_⟩
  · rw [← Bool.not_eq_true]
    exact fun hspace => absurd (isNumeralChar_of_isSpace hspace) (by simp [hc])
  · rintro rfl
    exact absurd hc (by decide)
  · rintro rfl
    exact absurd hc (by decide)

/-- A value begins like one. -/
theorem Reads.starts_value (h : Reads (.value v) cs rest) : Starts cs := by
  cases h with
  | number hnumeral => exact starts_of_isNumeral hnumeral rest
  | nullWord | trueWord | falseWord | text | emptyArray | array | emptyObject | object =>
    exact ⟨_, _, rfl, by decide, by decide, by decide⟩

/-- A member begins like one. -/
theorem Reads.starts_member {m : String × JsonTree} (h : Reads (.member m) cs rest) : Starts cs := by
  cases h with
  | member => exact ⟨_, _, rfl, by decide, by decide, by decide⟩

/-- Items are white space and then a value and more. -/
theorem Reads.starts_items {xs : List JsonTree} (h : Reads (.items xs) cs rest) :
    ∃ a tail, Spaces a ∧ Starts tail ∧ cs = a ++ tail := by
  cases h with
  | lastItem ha _ hx => exact ⟨_, _, ha, hx.starts_value, rfl⟩
  | item ha _ hx => exact ⟨_, _, ha, hx.starts_value, rfl⟩

/-- Members are white space and then a member and more. -/
theorem Reads.starts_members {ms : List (String × JsonTree)} (h : Reads (.members ms) cs rest) :
    ∃ a tail, Spaces a ∧ Starts tail ∧ cs = a ++ tail := by
  cases h with
  | lastMember ha _ hm => exact ⟨_, _, ha, hm.starts_member, rfl⟩
  | moreMembers ha _ hm => exact ⟨_, _, ha, hm.starts_member, rfl⟩

/-- What begins like a numeral is read as one. -/
theorem readValue_of_isNumeralChar (h : isNumeralChar c = true) (cs : List Char) :
    readValue (fuel + 1) (c :: cs) = readNumeral? (c :: cs) := by
  unfold readValue
  split <;> first | rfl | (rename_i heq; rw [(List.cons.inj heq).1] at h; exact absurd h (by decide))

theorem Starts.length_pos (h : Starts cs) : 0 < cs.length := by
  obtain ⟨c, tail, rfl, -⟩ := h
  exact Nat.succ_pos _

/-- Reading a string takes the quote at least. -/
theorem ReadsChars.length_lt (h : ReadsChars s cs rest) : rest.length < cs.length := by
  induction h with
  | quote => simp
  | char _ _ ih =>
    rw [List.length_append]
    omega

/-- Reading takes a character at least. -/
theorem Reads.length_lt {p : Phrase} (h : Reads p cs rest) : rest.length < cs.length := by
  induction h with
  | number hnumeral =>
    have hpos := List.length_pos_iff.2 (ne_nil_of_isNumeral hnumeral)
    rw [List.length_append]
    omega
  | text hs => exact hs.length_lt.trans (Nat.lt_succ_self _)
  | member hk _ _ _ ih =>
    have hkey := hk.length_lt
    simp only [List.length_append, List.length_cons] at hkey ⊢
    omega
  | nullWord | trueWord | falseWord | emptyArray | emptyObject =>
    simp only [List.length_append, List.length_cons]
    omega
  | array _ ih | object _ ih => exact ih.trans (Nat.lt_succ_self _)
  | lastItem _ _ _ ih | lastMember _ _ _ ih =>
    simp only [List.length_append, List.length_cons] at ih ⊢
    omega
  | item _ _ _ _ ih ihs | moreMembers _ _ _ _ ih ihs =>
    simp only [List.length_append, List.length_cons] at ih ⊢
    omega

theorem exists_succ_of_length_le (h : (c :: cs).length ≤ fuel) : ∃ k, fuel = k + 1 :=
  Nat.exists_eq_add_one.2 (Nat.lt_of_lt_of_le (Nat.succ_pos _) h)

/-- **The reader reads what the grammar has**: the number of the characters is fuel enough. -/
theorem Reads.isRead {p : Phrase} (h : Reads p cs rest) : IsRead p cs rest := by
  induction h with
  | nullWord | trueWord | falseWord =>
    intro _ fuel hfuel
    obtain ⟨fuel, rfl⟩ := exists_succ_of_length_le hfuel
    rfl
  | @number numeral rest hnumeral =>
    intro hrest fuel hfuel
    obtain ⟨c, tail, rfl⟩ := List.exists_cons_of_ne_nil (ne_nil_of_isNumeral hnumeral)
    obtain ⟨fuel, rfl⟩ := exists_succ_of_length_le hfuel
    have hc := all_isNumeralChar_of_isNumeral hnumeral c List.mem_cons_self
    rw [List.cons_append, readValue_of_isNumeralChar hc]
    exact readNumeral?_append hnumeral hrest
  | text hs =>
    intro _ fuel hfuel
    obtain ⟨fuel, rfl⟩ := exists_succ_of_length_le hfuel
    exact Option.map_eq_some_iff.2 ⟨_, readString?_eq_some_iff.2 ⟨_, hs, rfl⟩, rfl⟩
  | emptyArray ha =>
    intro _ fuel hfuel
    obtain ⟨fuel, rfl⟩ := exists_succ_of_length_le hfuel
    exact Option.map_eq_some_iff.2 ⟨_, readBrackets_empty ha (by decide), rfl⟩
  | @array xs cs rest hxs ih =>
    intro _ fuel hfuel
    obtain ⟨fuel, rfl⟩ := exists_succ_of_length_le hfuel
    obtain ⟨a, tail, ha, hstarts, rfl⟩ := hxs.starts_items
    have hlen : (a ++ tail).length ≤ fuel := Nat.le_of_succ_le_succ hfuel
    refine Option.map_eq_some_iff.2 ⟨(xs, rest), ?_, rfl⟩
    rw [readBrackets_of_starts ha hstarts (Or.inl rfl)]
    exact ih fuel fuel hlen hlen
  | emptyObject ha =>
    intro _ fuel hfuel
    obtain ⟨fuel, rfl⟩ := exists_succ_of_length_le hfuel
    exact Option.map_eq_some_iff.2 ⟨_, readBrackets_empty ha (by decide), rfl⟩
  | @object ms cs rest hms ih =>
    intro _ fuel hfuel
    obtain ⟨fuel, rfl⟩ := exists_succ_of_length_le hfuel
    obtain ⟨a, tail, ha, hstarts, rfl⟩ := hms.starts_members
    have hlen : (a ++ tail).length ≤ fuel := Nat.le_of_succ_le_succ hfuel
    refine Option.map_eq_some_iff.2 ⟨(ms, rest), ?_, rfl⟩
    rw [readBrackets_of_starts ha hstarts (Or.inr rfl)]
    exact ih fuel fuel hlen hlen
  | @member k a b cs ds rest v hk ha hb hv ih =>
    intro hrest fuel hfuel
    have hkey := hk.length_lt
    simp only [List.length_append, List.length_cons] at hkey hfuel
    refine Option.bind_eq_some_iff.2 ⟨_, readString?_eq_some_iff.2 ⟨_, hk, rfl⟩, ?_⟩
    simp only [skipSpaces_append ha, skipSpaces_cons (show isSpace ':' = false by decide)]
    rw [skipSpaces_append hb, hv.starts_value.skipSpaces]
    exact Option.bind_eq_some_iff.2 ⟨_, ih hrest fuel (by omega), rfl⟩
  | lastItem ha hb hx ih =>
    intro fuel count hfuel hcount
    have hpos := hx.starts_value.length_pos
    rw [List.length_append] at hfuel hcount
    exact readList_last (by omega) ha hb hx.starts_value (by decide)
      (ih (endsNumeral_append hb (by decide) _) fuel (by omega))
  | item ha hb hx hxs ihx ihxs =>
    intro fuel count hfuel hcount
    have hshort := hx.length_lt
    simp only [List.length_append, List.length_cons] at hshort hfuel hcount
    exact readList_more (by omega) ha hb hx.starts_value (by decide)
      (ihx (endsNumeral_append hb (by decide) _) fuel (by omega))
      (ihxs fuel (count - 1) (by omega) (by omega))
  | lastMember ha hb hm ih =>
    intro fuel count hfuel hcount
    have hpos := hm.starts_member.length_pos
    rw [List.length_append] at hfuel hcount
    exact readList_last (by omega) ha hb hm.starts_member (by decide)
      (ih (endsNumeral_append hb (by decide) _) fuel (by omega))
  | moreMembers ha hb hm hms ihm ihms =>
    intro fuel count hfuel hcount
    have hshort := hm.length_lt
    simp only [List.length_append, List.length_cons] at hshort hfuel hcount
    exact readList_more (by omega) ha hb hm.starts_member (by decide)
      (ihm (endsNumeral_append hb (by decide) _) fuel (by omega))
      (ihms fuel (count - 1) (by omega) (by omega))

/-! ### Texts -/

theorem endsNumeral_of_spaces (h : Spaces rest) : EndsNumeral rest := by
  intro c hc
  exact isNumeralChar_of_isSpace (h c (List.mem_of_mem_head? hc))

/-- **What a text begins with is read** exactly when it is a value, if what is left does not go on with
a numeral. -/
theorem read?_eq_some_iff (hrest : EndsNumeral rest) :
    read? cs = some (v, rest) ↔ Reads (.value v) cs rest :=
  ⟨reads_of_readValue, fun h => h.isRead hrest cs.length le_rfl⟩

/-- **The reader and the grammar say the same**: it reads just the JSON texts, each as what it
stands for. -/
theorem parse?_eq_some_iff {text : String} : parse? text = some v ↔ IsDocument v text.toList := by
  constructor
  · intro h
    obtain ⟨⟨w, rest⟩, hread, hdone⟩ := Option.bind_eq_some_iff.1 h
    obtain ⟨a, ha, hcs⟩ := exists_spaces text.toList
    dsimp only at hdone
    split_ifs at hdone with hspaces
    obtain rfl := Option.some.inj hdone
    exact ⟨a, rest, _, ha, List.all_eq_true.1 hspaces, hcs, reads_of_readValue hread⟩
  · rintro ⟨a, b, cs, ha, hb, htext, hread⟩
    refine Option.bind_eq_some_iff.2 ⟨(v, b), ?_, if_pos (List.all_eq_true.2 hb)⟩
    rw [htext, skipSpaces_append ha, hread.starts_value.skipSpaces]
    exact (read?_eq_some_iff (endsNumeral_of_spaces hb)).2 hread

/-- A comma before a bracket, a leading zero, a point without digits, a raw control character, half a
surrogate pair and a second value are refused. -/
example : ["[1,]", "01", "1.", "\"\t\"", "\"\\ud800\"", "[] x"].all (fun text => (parse? text).isNone) := by
  decide

/-- A text stands for one value at most. -/
theorem IsDocument.unique {w : JsonTree} (hv : IsDocument v cs) (hw : IsDocument w cs) : v = w := by
  rw [← String.toList_ofList (l := cs)] at hv hw
  rw [← parse?_eq_some_iff] at hv hw
  exact Option.some.inj (hv.symm.trans hw)

end JsonText

end GoldenCheck
