import GoldenCheck.CommandLine.Arguments
import GoldenCheck.Proofs.Except

/-!
# Calling the case table on the command line

The path of the case table may stand as an argument of its own after `--config`, if it is not taken for an option
there (`IsValue`). How a command line is read depends on that argument in one way only: it is the path of the
table, unless a table is named once more after the command (`Invocation.parse_reads`).

The level that is read is followed as a function of the argument that is left open (`Level.Names`), and so is
what comes of it (`Reads`).
-/

namespace GoldenCheck

/-- An argument that does not begin like an option. A dash alone is no option. -/
def IsWord (text : String) : Prop := text.toList.head? ≠ some '-' ∨ text.toList = ['-']

/-- An argument that can be the value of the option before it. -/
def IsValue (text : String) : Prop := text ≠ "" ∧ IsWord text

instance (text : String) : Decidable (IsWord text) := inferInstanceAs (Decidable (_ ∨ _))

instance (text : String) : Decidable (IsValue text) := inferInstanceAs (Decidable (_ ∧ _))

variable {α β : Type} {R : (String → α) → Prop} {S : (String → β) → Prop} {switches : List Switch}

/-- What is read for all values of an option: one error for all, or something that depends on the value in one of
some ways. -/
def Reads (R : (String → α) → Prop) (x : String → Except ArgumentError α) : Prop :=
  (∃ e, ∀ text, IsValue text → x text = .error e) ∨
    ∃ f, R f ∧ ∀ text, IsValue text → x text = .ok (f text)

namespace Reads

theorem error (e : ArgumentError) : Reads R fun _ => .error e := Or.inl ⟨e, fun _ _ => rfl⟩

theorem ok {f : String → α} (h : R f) : Reads R fun text => .ok (f text) := Or.inr ⟨f, h, fun _ _ => rfl⟩

theorem congr {x y : String → Except ArgumentError α} (h : Reads R x)
    (hxy : ∀ text, IsValue text → y text = x text) : Reads R y := by
  rcases h with ⟨e, he⟩ | ⟨f, hf, hx⟩
  · exact Or.inl ⟨e, fun text htext => (hxy text htext).trans (he text htext)⟩
  · exact Or.inr ⟨f, hf, fun text htext => (hxy text htext).trans (hx text htext)⟩

theorem imp {R' : (String → α) → Prop} {x : String → Except ArgumentError α} (h : Reads R x)
    (himp : ∀ f, R f → R' f) : Reads R' x := by
  rcases h with he | ⟨f, hf, hx⟩
  · exact Or.inl he
  · exact Or.inr ⟨f, himp f hf, hx⟩

/-- What is read next may go by what was read. -/
theorem bind {x : String → Except ArgumentError α} {k : α → Except ArgumentError β} (h : Reads R x)
    (hk : ∀ f, R f → Reads S fun text => k (f text)) : Reads S fun text => x text >>= k := by
  rcases h with ⟨e, he⟩ | ⟨f, hf, hx⟩
  · exact Or.inl ⟨e, fun text htext => congrArg (· >>= k) (he text htext)⟩
  · exact (hk f hf).congr fun text htext => congrArg (· >>= k) (hx text htext)

/-- What was read before may be anything. -/
theorem bind_fixed {x : Except ArgumentError α} {k : α → String → Except ArgumentError β}
    (hk : ∀ a, x = .ok a → Reads S (k a)) : Reads S fun text => x >>= fun a => k a text := by
  cases x with
  | error e => exact .error e
  | ok a => exact hk a rfl

end Reads

/-! ### Levels that know the table -/

/-- Choices with a table of some name. -/
def Choices.withTable (c : Choices) (text : String) : Choices := { c with config := some text }

/-- A level that has taken a table of some name. -/
def Level.withTable (l : Level) (text : String) : Level := { l with choices := l.choices.withTable text }

/-- The open name of the table is taken. -/
def Choices.Takes (f : String → Choices) : Prop := ∃ c : Choices, f = c.withTable

/-- The open name of the table is taken. -/
def Level.Takes (f : String → Level) : Prop := ∃ l : Level, f = l.withTable

/-- The open name of the table is taken, or is still to be taken. -/
inductive Level.Names : (String → Level) → Prop where
  | waiting (l : Level) : Level.Names fun text => { l with pending := some (.config, some text) }
  | taken (l : Level) : Level.Names l.withTable

/-- No option looks at the name that was taken, but for another that names the table: this is refused. -/
theorem Choices.takeValue_reads (c : Choices) (s : Switch) (value : String) :
    Reads Choices.Takes fun text => (c.withTable text).takeValue s value := by
  cases s with
  | config => exact .error .repeated
  | name => exact .ok ⟨{ c with names := c.names ++ [value] }, rfl⟩
  | jobs =>
    unfold takeValue withTable
    cases c.jobs with
    | some n => exact .error .repeated
    | none =>
      cases jobCount? value with
      | some n => exact .ok ⟨{ c with jobs := some n }, rfl⟩
      | none => exact .error .badNumber
  | verbose | parallel | clean | json | version | help => exact .error .unwantedValue

theorem once_reads (isSet : Bool) (c : Choices) : Reads Choices.Takes fun text => once isSet (c.withTable text) := by
  cases isSet with
  | true => exact .error .repeated
  | false => exact .ok ⟨c, rfl⟩

theorem Choices.takeFlag_reads (c : Choices) (s : Switch) :
    Reads Choices.Takes fun text => (c.withTable text).takeFlag s := by
  cases s with
  | verbose => exact once_reads c.verbose { c with verbose := true }
  | parallel => exact once_reads c.parallel { c with parallel := true }
  | clean => exact once_reads c.clean { c with clean := true }
  | json => exact once_reads c.json { c with json := true }
  | version => exact .error .version
  | help => exact .error .help
  | config | name | jobs => exact .error .noValue

namespace Level

theorem Takes.names {f : String → Level} (h : Takes f) : Names f := by
  obtain ⟨l, rfl⟩ := h
  exact .taken l

/-- A level with the choices that are read. -/
theorem choices_reads {x : String → Except ArgumentError Choices} (h : Reads Choices.Takes x)
    (pending : Option (Switch × Option String)) (touched : Bool) :
    Reads Takes fun text => x text >>= fun c => Except.ok (Level.mk c pending touched) := by
  refine h.bind ?_
  rintro _ ⟨c, rfl⟩
  exact .ok ⟨⟨c, pending, touched⟩, rfl⟩

/-- What is still to be taken is taken, the name of the table too. -/
theorem settle_reads {f : String → Level} (h : Names f) : Reads Takes fun text => (f text).settle := by
  cases h with
  | waiting l =>
    cases htable : l.choices.config with
    | some other =>
      exact Or.inl ⟨.repeated, fun text _ => by simp [settle, Choices.takeValue, htable, bind, Except.bind]⟩
    | none =>
      refine Or.inr ⟨{ l with pending := none }.withTable, ⟨_, rfl⟩, fun text htext => ?_⟩
      simp [settle, Choices.takeValue, htable, htext.1, bind, Except.bind, pure, Except.pure, withTable,
        Choices.withTable]
  | taken l =>
    obtain ⟨choices, pending, touched⟩ := l
    rcases pending with _ | ⟨s, _ | value⟩
    · exact .ok ⟨_, rfl⟩
    · exact .error .noValue
    · exact choices_reads (Choices.takeValue_reads choices s value) none touched

theorem flag_reads {f : String → Level} (h : Names f) (s : Switch) : Reads Takes fun text => (f text).flag s := by
  refine (settle_reads h).bind ?_
  rintro _ ⟨⟨choices, pending, touched⟩, rfl⟩
  exact choices_reads (Choices.takeFlag_reads choices s) pending true

theorem attached_reads {f : String → Level} (h : Names f) (s : Switch) (value : String) :
    Reads Takes fun text => (f text).attached s value := by
  refine (settle_reads h).bind ?_
  rintro _ ⟨⟨choices, pending, touched⟩, rfl⟩
  exact choices_reads (Choices.takeValue_reads choices s value) pending true

theorem await_reads {f : String → Level} (h : Names f) (s : Switch) :
    Reads Takes fun text => (f text).await s := by
  refine (settle_reads h).bind ?_
  rintro _ ⟨⟨choices, pending, touched⟩, rfl⟩
  exact .ok ⟨⟨choices, some (s, none), true⟩, rfl⟩

theorem longArgument_reads {f : String → Level} (h : Names f) (chars : List Char) :
    Reads Takes fun text => (f text).longArgument switches chars := by
  unfold longArgument
  rcases chars.span (· ≠ '=') with ⟨word, rest⟩
  simp only
  cases switches.find? fun s => s.long.toList = word with
  | none => exact .error .unknownArgument
  | some s =>
    simp only
    cases s.takesValue with
    | true =>
      cases rest with
      | nil => exact await_reads h s
      | cons _ value => exact attached_reads h s _
    | false =>
      cases rest with
      | nil => exact flag_reads h s
      | cons _ value => exact .error .unwantedValue

theorem shortArgument_reads {f : String → Level} (h : Names f) (chars : List Char) :
    Reads Names fun text => (f text).shortArgument switches chars := by
  induction chars generalizing f with
  | nil => exact .ok h
  | cons c rest ih =>
    simp only [shortArgument]
    cases switches.find? fun s => s.short? = some c with
    | none => exact .error .unknownArgument
    | some s =>
      cases hvalue : s.takesValue with
      | true =>
        simp only [hvalue, if_true]
        split
        · exact (await_reads h s).imp fun _ => Takes.names
        · exact (attached_reads h s _).imp fun _ => Takes.names
        · exact (attached_reads h s _).imp fun _ => Takes.names
      | false =>
        simp only [hvalue, Bool.false_eq_true, if_false]
        refine (flag_reads h s).bind ?_
        rintro _ ⟨l, rfl⟩
        exact ih (.taken l)

/-! ### Levels as a whole -/

theorem isWord_iff {arg : String} : IsWord arg ↔ ∀ c chars, arg.toList ≠ '-' :: c :: chars := by
  unfold IsWord
  rcases arg.toList with _ | ⟨c, _ | ⟨c', chars⟩⟩
  · simp
  · by_cases hc : c = '-' <;> simp [hc]
  · simp

theorem read_of_isWord {arg : String} (h : IsWord arg) (l : Level) (rest : List String) :
    read switches l (arg :: rest) =
      match l.pending with
      | some (s, none) => read switches { l with pending := some (s, some arg) } rest
      | _ => .ok (.word l arg rest) := by
  rw [read.eq_def]
  simp only
  split
  · rename_i hdashes
    exact absurd hdashes (isWord_iff.1 h _ _)
  · rename_i hlong
    exact absurd hlong (isWord_iff.1 h _ _)
  · rename_i hshort
    exact absurd hshort (isWord_iff.1 h _ _)
  · rfl

/-- An argument that is no word is read by itself. -/
theorem read_of_not_isWord (switches : List Switch) {arg : String} (h : ¬ IsWord arg) :
    (∀ (l : Level) (rest : List String), read switches l (arg :: rest) =
      match rest with
      | [] => .ok (.finished l)
      | next :: _ => .ok (.trailing next)) ∨
    ∃ chars, (∀ (l : Level) (rest : List String), read switches l (arg :: rest) =
        l.longArgument switches chars >>= fun l => read switches l rest) ∨
      ∀ (l : Level) (rest : List String), read switches l (arg :: rest) =
        l.shortArgument switches chars >>= fun l => read switches l rest := by
  obtain ⟨c, chars, hchars⟩ : ∃ c chars, arg.toList = '-' :: c :: chars := by
    simpa [isWord_iff] using h
  by_cases hc : c = '-'
  · subst hc
    cases chars with
    | nil =>
      refine Or.inl fun l rest => ?_
      cases rest with
      | nil => rw [read.eq_def]; simp only [hchars]
      | cons next _ => rw [read.eq_def]; simp only [hchars]
    | cons c chars =>
      refine Or.inr ⟨c :: chars, Or.inl fun l rest => ?_⟩
      rw [read.eq_def]
      simp only [hchars]
  · refine Or.inr ⟨c :: chars, Or.inr fun l rest => ?_⟩
    rw [read.eq_def]
    simp only [hchars]
    split
    · rename_i hdashes
      injection hdashes with _ hdashes
      exact absurd (List.cons.inj hdashes).1 hc
    · rename_i hlong
      injection hlong with _ hlong
      exact absurd (List.cons.inj hlong).1 hc
    · rename_i hshort
      injection hshort with _ hshort
      rw [hshort]
    · rename_i hnone
      exact absurd rfl (hnone c chars)

/-- What a level is left by that names the table, or is left before, with the name in what is left. -/
inductive Leaves (after : List String) : (String → Exit) → Prop where
  | finished {f : String → Level} (h : Names f) : Leaves after fun text => .finished (f text)
  | word {f : String → Level} (h : Names f) (word : String) (rest : List String) :
    Leaves after fun text => .word (f text) word rest
  | trailing (word : String) : Leaves after fun _ => .trailing word
  | early (l : Level) (word : String) (before : List String) :
    Leaves after fun text => .word l word (before ++ "--config" :: text :: after)

/-- The arguments after the name are read. -/
theorem read_reads (switches : List Switch) {f : String → Level} (h : Names f) {after : List String}
    (args : List String) :
    Reads (Leaves after) fun text => read switches (f text) args := by
  induction args generalizing f with
  | nil => exact .ok (.finished h)
  | cons arg rest ih =>
    by_cases hword : IsWord arg
    · simp only [read_of_isWord hword]
      cases h with
      | waiting l => exact .ok (.word (.waiting l) arg rest)
      | taken l =>
        obtain ⟨choices, pending, touched⟩ := l
        rcases pending with _ | ⟨s, _ | value⟩
        · exact .ok (.word (.taken _) arg rest)
        · exact ih (.taken ⟨choices, some (s, some arg), touched⟩)
        · exact .ok (.word (.taken _) arg rest)
    · rcases read_of_not_isWord switches hword with hread | ⟨chars, hread | hread⟩
      · simp only [hread]
        cases rest with
        | nil => exact .ok (.finished h)
        | cons next _ => exact .ok (.trailing next)
      · simp only [hread]
        exact (longArgument_reads h chars).bind fun _ hg => ih hg.names
      · simp only [hread]
        exact (shortArgument_reads h chars).bind fun _ hg => ih hg

/-- An option that waits for its value waits alone. -/
theorem pending_of_await {l l' : Level} {s : Switch} (h : l.await s = .ok l') :
    l'.pending = some (s, none) := by
  obtain ⟨_, -, h⟩ := bind_eq_ok_iff.1 h
  cases pure_eq_ok_iff.1 h
  rfl

/-- **A level is read with an open name for the table**, which stands among its arguments or is left for the next
level. -/
theorem read_named_reads (hconfig : ∀ l : Level, l.longArgument switches "config".toList = l.await .config)
    (l : Level) (before after : List String) :
    Reads (Leaves after) fun text => read switches l (before ++ "--config" :: text :: after) := by
  induction before generalizing l with
  | nil =>
    have hread : ∀ rest, read switches l ("--config" :: rest) =
        l.await .config >>= fun l => read switches l rest := fun rest => by
      rw [read.eq_def, ← hconfig l]
      rfl
    simp only [List.nil_append, hread]
    refine .bind_fixed fun l' hl' => ?_
    refine (read_reads switches (.waiting l') after).congr fun text htext => ?_
    rw [read_of_isWord htext.2, pending_of_await hl']
  | cons arg before ih =>
    simp only [List.cons_append]
    by_cases hword : IsWord arg
    · simp only [read_of_isWord hword]
      rcases hpending : l.pending with _ | ⟨s, _ | value⟩
      · exact .ok (.early l arg before)
      · exact ih _
      · exact .ok (.early l arg before)
    · rcases read_of_not_isWord switches hword with hread | ⟨chars, hread | hread⟩
      · simp only [hread]
        cases before with
        | nil => exact .ok (.trailing _)
        | cons next _ => exact .ok (.trailing next)
      · simp only [hread]
        exact .bind_fixed fun l' _ => ih l'
      · simp only [hread]
        exact .bind_fixed fun l' _ => ih l'

end Level

/-! ### Command lines -/

/-- A command line with a table of some name. -/
def Invocation.withTable (inv : Invocation) (text : String) : Invocation := { inv with config := .ofText text }

/-- The open name is the path of the table, or it is not looked at. -/
def Invocation.Calls (f : String → Invocation) : Prop :=
  ∃ inv : Invocation, f = inv.withTable ∨ f = fun _ => inv

/-- The options after the command are read, with the open name among them. -/
theorem readCommand_reads (command : CommandName) (before after : List String) :
    Reads Choices.Takes fun text => readCommand command (before ++ "--config" :: text :: after) := by
  have hconfig : ∀ l : Level, l.longArgument command.switches "config".toList = l.await .config := fun l => by
    cases command <;> rfl
  refine (Level.read_named_reads hconfig {} before after).bind ?_
  rintro f (h | ⟨h, word, rest⟩ | word | ⟨l, word, before⟩)
  · refine (Level.settle_reads h).bind ?_
    rintro _ ⟨l, rfl⟩
    exact .ok ⟨l.choices, rfl⟩
  · exact .error .unknownArgument
  · exact .error .unknownArgument
  · exact .error .unknownArgument

/-- Help is on one topic. -/
theorem helpOn_config (before after : List String) (text : String) :
    helpOn (before ++ "--config" :: text :: after) = .unknownCommand := by
  rcases before with _ | ⟨_, _ | ⟨_, _⟩⟩ <;> rfl

/-- **The table is called by the argument after `--config`**, wherever that stands, unless a table is named once
more after the command. Errors do not depend on it. -/
theorem Invocation.parse_reads (before after : List String) :
    Reads Invocation.Calls fun text => Invocation.parse (before ++ "--config" :: text :: after) := by
  have hconfig : ∀ l : Level, l.longArgument topSwitches "config".toList = l.await .config := fun l => rfl
  refine (Level.read_named_reads hconfig {} before after).bind ?_
  rintro f (h | ⟨h, word, rest⟩ | word | ⟨l, word, before⟩)
  · refine (Level.settle_reads h).bind ?_
    rintro _ ⟨l, rfl⟩
    exact .error (if l.touched then .noCommand else .nothing)
  · by_cases hhelp : word = "help"
    · simp only [hhelp, if_true]
      exact .error (helpOn rest)
    · simp only [hhelp, if_false]
      cases CommandName.ofWord? word with
      | none => exact .error .unknownCommand
      | some command =>
        refine .bind_fixed fun sub _ => (Level.settle_reads h).bind ?_
        rintro _ ⟨l, rfl⟩
        cases htable : sub.config with
        | none =>
          refine .ok ⟨invocation command l.choices sub, Or.inl (funext fun text => ?_)⟩
          simp [invocation, withTable, htable, Level.withTable, Choices.withTable]
        | some other =>
          refine .ok ⟨invocation command l.choices sub, Or.inr (funext fun text => ?_)⟩
          simp [invocation, htable, Level.withTable, Choices.withTable]
  · exact .error _
  · by_cases hhelp : word = "help"
    · simp only [hhelp, if_true, helpOn_config]
      exact .error .unknownCommand
    · simp only [hhelp, if_false]
      cases CommandName.ofWord? word with
      | none => exact .error .unknownCommand
      | some command =>
        refine (readCommand_reads command before after).bind ?_
        rintro _ ⟨c, rfl⟩
        refine .bind_fixed fun l' _ => .ok ⟨invocation command l'.choices c, Or.inl (funext fun text => ?_)⟩
        simp [invocation, withTable, Choices.withTable]

/-- Whatever else is put in place of the argument, the same is asked for; and it names the table, or none does. -/
theorem Invocation.parse_config {before after : List String} {text : String} {inv : Invocation}
    (htext : IsValue text) (h : Invocation.parse (before ++ "--config" :: text :: after) = .ok inv) :
    (∀ other, IsValue other →
        Invocation.parse (before ++ "--config" :: other :: after) = .ok (inv.withTable other)) ∨
      ∀ other, IsValue other → Invocation.parse (before ++ "--config" :: other :: after) = .ok inv := by
  rcases parse_reads before after with ⟨e, he⟩ | ⟨_, ⟨inv', rfl | rfl⟩, hparse⟩
  · cases h.symm.trans (he text htext)
  · cases h.symm.trans (hparse text htext)
    exact Or.inl hparse
  · cases h.symm.trans (hparse text htext)
    exact Or.inr hparse

end GoldenCheck
