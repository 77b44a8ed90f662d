import GoldenCheck.Toml.Document

/-!
# What holds of every document

A property that values have when their parts have it (`Toml.IsBuilt`) holds of every document that is read
(`parse?_of_isBuilt`). The readers of values give values that have it (`Reader.Gives`); and each statement that
is put into the document keeps it, in the whole document and in the section that is being read
(`Assembly.Have.step`). Tables are put together so that no key is there twice, and the property may ask for it.
-/

namespace GoldenCheck

namespace Toml

/-- A value has the property when it can stand in a document and its parts have the property. -/
structure IsBuilt (P : Toml → Prop) : Prop where
  text (s : String) : P (.text s)
  integer {n : Int} (h : isInt64 n = true) : P (.integer n)
  floating (x : Floating) : P (.floating x)
  boolean (b : Bool) : P (.boolean b)
  moment (written : String) : P (.moment written)
  array {items : List Toml} (h : ∀ v ∈ items, P v) : P (.array items)
  table {members : Table} (once : (members.map Prod.fst).Nodup) (h : ∀ m ∈ members, P m.2) :
    P (.table members)

/-- All that a reader gives has a property. -/
def Reader.Gives {α : Type} (P : α → Prop) (read : Reader α) : Prop :=
  ∀ cs x rest, read cs = some (x, rest) → P x

variable {P : Toml → Prop}

/-! ### Tables that are put together -/

/-- The value that is put together so far has the property. -/
inductive Draft.Has (P : Toml → Prop) : Draft → Prop where
  | done {v : Toml} (h : P v) : Has P (.done v)
  | table {origin : Origin} {members : Members} (once : (members.map Prod.fst).Nodup)
    (h : ∀ m ∈ members, Has P m.2) : Has P (.table origin members)
  | tables {items : List Members} (once : ∀ members ∈ items, (members.map Prod.fst).Nodup)
    (h : ∀ members ∈ items, ∀ m ∈ members, Has P m.2) : Has P (.tables items)

/-- No key is there twice, and the values of the members have the property. -/
structure Members.Have (P : Toml → Prop) (members : Members) : Prop where
  once : (members.map Prod.fst).Nodup
  values : ∀ m ∈ members, m.2.Has P

theorem Draft.membersValue_eq_map (members : Members) :
    Draft.membersValue members = members.map fun m => (m.1, m.2.value) := by
  induction members with
  | nil => rfl
  | cons m rest ih => rw [Draft.membersValue, ih, List.map_cons]

theorem Draft.itemsValue_eq_map (items : List Members) :
    Draft.itemsValue items = items.map fun members => .table (Draft.membersValue members) := by
  induction items with
  | nil => rfl
  | cons members rest ih => rw [Draft.itemsValue, ih, List.map_cons]

theorem Draft.map_fst_membersValue (members : Members) :
    (Draft.membersValue members).map Prod.fst = members.map Prod.fst := by
  rw [Draft.membersValue_eq_map, List.map_map]
  rfl

/-- The value of members that have the property has it too. -/
theorem IsBuilt.members (built : IsBuilt P) {members : Members} (once : (members.map Prod.fst).Nodup)
    (h : ∀ m ∈ members, P m.2.value) : P (.table (Draft.membersValue members)) := by
  refine built.table (by rwa [Draft.map_fst_membersValue]) ?_
  rw [Draft.membersValue_eq_map]
  exact List.forall_mem_map.2 h

theorem Draft.Has.value (built : IsBuilt P) {d : Draft} (h : d.Has P) : P d.value := by
  induction h with
  | done h => exact h
  | table once h ih => exact built.members once ih
  | tables once h ih =>
    rw [Draft.value, Draft.itemsValue_eq_map]
    refine built.array fun v hv => ?_
    obtain ⟨members, hmembers, rfl⟩ := List.mem_map.1 (List.mem_reverse.1 hv)
    exact built.members (once members hmembers) (ih members hmembers)

namespace Members

variable {members inner : Members} {key : String} {d : Draft}

theorem have_nil : Have P [] := ⟨List.nodup_nil, fun _ hm => absurd hm List.not_mem_nil⟩

theorem Have.value (built : IsBuilt P) (h : members.Have P) : P (.table (Draft.membersValue members)) :=
  built.members h.once fun m hm => (h.values m hm).value built

theorem Have.table {origin : Origin} (h : members.Have P) : (Draft.table origin members).Has P :=
  .table h.once h.values

theorem have_tables {items : List Members} (h : ∀ members ∈ items, members.Have P) :
    (Draft.tables items).Has P :=
  .tables (fun members hmembers => (h members hmembers).once) fun members hmembers =>
    (h members hmembers).values

/-- A key that is put is there, and no other key is new. -/
theorem mem_keys_put {k : String} (h : k ∈ (members.put key d).map Prod.fst) :
    k = key ∨ k ∈ members.map Prod.fst := by
  induction members with
  | nil => simpa [Members.put] using h
  | cons m rest ih =>
    rw [Members.put] at h
    split at h
    · exact Or.inr h
    · rcases List.mem_cons.1 h with rfl | h
      · exact Or.inr List.mem_cons_self
      · exact (ih h).imp id (List.mem_cons_of_mem m.1)

/-- **Putting a value** leaves no key twice. -/
theorem Have.put (h : members.Have P) (hd : d.Has P) : (members.put key d).Have P := by
  induction members with
  | nil => exact ⟨by simp [Members.put], by simpa [Members.put] using hd⟩
  | cons m rest ih =>
    obtain ⟨honce, hvalues⟩ := h
    obtain ⟨hm, hrest⟩ := List.forall_mem_cons.1 hvalues
    rw [List.map_cons, List.nodup_cons] at honce
    rw [Members.put]
    split
    · exact ⟨List.nodup_cons.2 honce, List.forall_mem_cons.2 ⟨hd, hrest⟩⟩
    · rename_i hne
      obtain ⟨honce', hvalues'⟩ := ih ⟨honce.2, hrest⟩
      refine ⟨List.nodup_cons.2 ⟨fun hmem => ?_, honce'⟩, List.forall_mem_cons.2 ⟨hm, hvalues'⟩⟩
      exact (mem_keys_put hmem).elim hne honce.1

theorem Have.of_lookup (h : members.Have P) (hfound : members.lookup key = some d) : d.Has P := by
  obtain ⟨before, after, rfl, -⟩ := List.lookup_eq_some_iff.1 hfound
  exact h.values (key, d) (by simp)

theorem Have.of_table {origin : Origin} (h : members.Have P)
    (hfound : members.lookup key = some (.table origin inner)) : inner.Have P := by
  cases h.of_lookup hfound with
  | table once h => exact ⟨once, h⟩

theorem Have.of_tables {items : List Members} (h : members.Have P)
    (hfound : members.lookup key = some (.tables items)) : ∀ members ∈ items, members.Have P := by
  cases h.of_lookup hfound with
  | tables once h => exact fun members hmembers => ⟨once members hmembers, h members hmembers⟩

/-- Members that are taken out are no loss. -/
theorem Have.filter (h : members.Have P) (keep : String × Draft → Bool) :
    Have P (members.filter keep) :=
  ⟨h.once.sublist (List.filter_sublist.map _), fun m hm => h.values m (List.mem_filter.1 hm).1⟩

end Members

/-- A change of members that keeps the property. -/
def Keeps (P : Toml → Prop) (change : Origin → Members → Option Members) : Prop :=
  ∀ origin members out, members.Have P → change origin members = some out → out.Have P

/-- What is changed deep inside keeps what is around it. -/
theorem Keeps.descend {change : Origin → Members → Option Members} (hchange : Keeps P change) (way : Origin)
    (path : List String) : Keeps P (descend way change path) := by
  induction path with
  | nil => exact hchange
  | cons key path ih =>
    intro origin members out h hout
    rw [Toml.descend] at hout
    split at hout
    · obtain ⟨inner, hinner, heq⟩ := Option.bind_eq_some_iff.1 hout
      cases heq
      exact h.put (ih _ _ _ Members.have_nil hinner).table
    · rename_i origin' inner hfound
      split at hout
      · cases hout
      · obtain ⟨inner', hinner, heq⟩ := Option.bind_eq_some_iff.1 hout
        cases heq
        exact h.put (ih _ _ _ (h.of_table hfound) hinner).table
    · rename_i last before hfound
      obtain ⟨last', hlast, heq⟩ := Option.bind_eq_some_iff.1 hout
      cases heq
      obtain ⟨hitem, hitems⟩ := List.forall_mem_cons.1 (h.of_tables hfound)
      exact h.put (Members.have_tables (List.forall_mem_cons.2 ⟨ih _ _ _ hitem hlast, hitems⟩))
    · cases hout

theorem have_of_putValue {path : List String} {key : String} {v : Toml} {members out : Members}
    (h : members.Have P) (hv : P v) (hout : putValue path key v members = some out) : out.Have P := by
  refine Keeps.descend (fun origin inner out hinner hchange => ?_) .dotted path .header members out h hout
  split at hchange
  · cases hchange
  · split at hchange
    · cases hchange
    · cases hchange
      exact hinner.put (.done hv)

/-- What each step keeps holds after all of them. -/
theorem foldlM_invariant {α β : Type} {step : β → α → Option β} {I : β → Prop} {Q : α → Prop}
    (hstep : ∀ s x t, I s → Q x → step s x = some t → I t) {xs : List α} (hxs : ∀ x ∈ xs, Q x)
    {s t : β} (hs : I s) (hrun : xs.foldlM step s = some t) : I t := by
  induction xs generalizing s with
  | nil =>
    cases hrun
    exact hs
  | cons x xs ih =>
    obtain ⟨hx, hrest⟩ := List.forall_mem_cons.1 hxs
    rw [List.foldlM_cons] at hrun
    obtain ⟨s', hfirst, hrun⟩ := Option.bind_eq_some_iff.1 hrun
    exact ih hrest (hstep s x s' hs hx hfirst) hrun

theorem has_of_inlineTable? (built : IsBuilt P) {assignments : List Assignment} {v : Toml}
    (h : ∀ a ∈ assignments, P a.value) (hv : inlineTable? assignments = some v) : P v := by
  obtain ⟨members, hmembers, heq⟩ := Option.bind_eq_some_iff.1 hv
  cases heq
  have hall : members.Have P :=
    foldlM_invariant (Q := fun a : Assignment => P a.value)
      (fun ms a out hms ha hout => have_of_putValue hms ha hout) h Members.have_nil hmembers
  exact hall.value built

/-! ### The document -/

/-- The value in a statement has the property, if there is one. -/
def Statement.Has (P : Toml → Prop) : Statement → Prop
  | .assign a => P a.value
  | _ => True

/-- The document so far has the property, and so has the section that is being read. -/
structure Assembly.Have (P : Toml → Prop) (a : Assembly) : Prop where
  root : a.root.Have P
  current : a.current.members.Have P

theorem Members.Have.inside? {path : List String} {members inner : Members} (h : members.Have P)
    (hinner : members.inside? path = some inner) : inner.Have P := by
  induction path generalizing members with
  | nil =>
    cases hinner
    exact h
  | cons key path ih =>
    rw [Members.inside?] at hinner
    split at hinner
    · rename_i hfound
      exact ih (h.of_table hfound) hinner
    · rename_i last before hfound
      exact ih (List.forall_mem_cons.1 (h.of_tables hfound)).1 hinner
    · cases hinner

theorem Assembly.Have.close? {a : Assembly} (h : a.Have P) {out : Members} (hout : a.close? = some out) :
    out.Have P := by
  unfold Assembly.close? at hout
  split at hout
  · cases hout
    exact h.current
  · rename_i path key _
    refine Keeps.descend (fun origin members out hmembers hchange => ?_) .ancestor path .header _ out
      h.root hout
    -- The section goes in as a table, or as one more item of an array of tables.
    split at hchange
    · split at hchange
      · cases hchange
        exact hmembers.put (Members.have_tables (List.forall_mem_singleton.2 h.current))
      · rename_i items hfound
        cases hchange
        exact hmembers.put
          (Members.have_tables (List.forall_mem_cons.2 ⟨h.current, hmembers.of_tables hfound⟩))
      · cases hchange
    · split at hchange
      · cases hchange
        exact hmembers.put h.current.table
      · cases hchange
        exact hmembers.put h.current.table
      · cases hchange

theorem have_of_openTable? {path : List String} {key : String} {root : Members} {a : Assembly}
    (h : root.Have P) (ha : openTable? path key root = some a) : a.Have P := by
  unfold openTable? at ha
  simp only at ha
  split at ha
  · rename_i inner hfound
    obtain ⟨members, hmembers, hlookup⟩ := Option.bind_eq_some_iff.1 hfound
    obtain ⟨root', hroot, heq⟩ := Option.bind_eq_some_iff.1 ha
    cases heq
    have hkeeps : Keeps P fun _ members => some (members.filter (·.1 ≠ key)) := by
      intro _ members out hmembers hout
      cases hout
      exact hmembers.filter _
    exact ⟨hkeeps.descend _ _ _ _ _ h hroot, (h.inside? hmembers).of_table hlookup⟩
  · cases ha
  · obtain ⟨root', hroot, heq⟩ := Option.bind_eq_some_iff.1 ha
    cases heq
    have hkeeps : Keeps P fun _ members => some members := by
      intro _ members out hmembers hout
      cases hout
      exact hmembers
    exact ⟨hkeeps.descend _ _ _ _ _ h hroot, Members.have_nil⟩

theorem have_of_openItem? {path : List String} {key : String} {root : Members} {a : Assembly}
    (h : root.Have P) (ha : openItem? path key root = some a) : a.Have P := by
  obtain ⟨root', hroot, heq⟩ := Option.bind_eq_some_iff.1 ha
  cases heq
  refine ⟨Keeps.descend (fun origin members out hmembers hchange => ?_) _ _ _ _ _ h hroot,
    Members.have_nil⟩
  split at hchange
  · cases hchange
    exact hmembers.put (Members.have_tables nofun)
  · cases hchange
    exact hmembers
  · cases hchange

/-- **One more statement** keeps the property. -/
theorem Assembly.Have.step {a b : Assembly} {s : Statement} (h : a.Have P) (hs : s.Has P)
    (hb : a.step s = some b) : b.Have P := by
  cases s with
  | header path key =>
    obtain ⟨root, hroot, hopen⟩ := Option.bind_eq_some_iff.1 hb
    exact have_of_openTable? (h.close? hroot) hopen
  | item path key =>
    obtain ⟨root, hroot, hopen⟩ := Option.bind_eq_some_iff.1 hb
    exact have_of_openItem? (h.close? hroot) hopen
  | assign s =>
    obtain ⟨members, hmembers, heq⟩ := Option.bind_eq_some_iff.1 hb
    cases heq
    exact ⟨h.root, have_of_putValue h.current hs hmembers⟩

theorem has_of_assemble? (built : IsBuilt P) {statements : List Statement} {table : Table}
    (h : ∀ s ∈ statements, s.Has P) (htable : assemble? statements = some table) : P (.table table) := by
  obtain ⟨a, ha, hclose⟩ := Option.bind_eq_some_iff.1 htable
  obtain ⟨members, hmembers, heq⟩ := Option.bind_eq_some_iff.1 hclose
  cases heq
  have hall : a.Have P :=
    foldlM_invariant (fun a s b ha hs hb => ha.step hs hb) h ⟨Members.have_nil, Members.have_nil⟩ ha
  exact (hall.close? hmembers).value built

/-! ### Readers of values -/

section

variable {item : Reader Toml} (hitem : item.Gives P)
include hitem

theorem arrayItems_gives (fuel : Nat) :
    Reader.Gives (fun items => ∀ v ∈ items, P v) (arrayItems item fuel) := by
  induction fuel with
  | zero => exact fun _ _ _ h => by cases h
  | succ fuel ih =>
    intro cs items rest h
    rw [arrayItems] at h
    split at h
    · cases h
      exact nofun
    · obtain ⟨⟨v, rest'⟩, hv, h⟩ := Option.bind_eq_some_iff.1 h
      simp only at h
      split at h
      · cases h
        simpa using hitem _ _ _ hv
      · obtain ⟨⟨vs, rest''⟩, hvs, heq⟩ := Option.bind_eq_some_iff.1 h
        cases heq
        exact List.forall_mem_cons.2 ⟨hitem _ _ _ hv, ih _ _ _ hvs⟩
      · cases h

theorem readAssignment_gives : Reader.Gives (fun a : Assignment => P a.value) (readAssignment item) := by
  intro cs a rest h
  obtain ⟨⟨parts, rest₁⟩, -, h⟩ := Option.bind_eq_some_iff.1 h
  obtain ⟨⟨path, last⟩, -, h⟩ := Option.bind_eq_some_iff.1 h
  simp only at h
  split at h
  · obtain ⟨⟨v, rest₂⟩, hv, heq⟩ := Option.bind_eq_some_iff.1 h
    cases heq
    exact hitem _ _ _ hv
  · cases h

theorem inlineAssignments_gives (fuel : Nat) :
    Reader.Gives (fun as => ∀ a ∈ as, P a.value) (inlineAssignments item fuel) := by
  induction fuel with
  | zero => exact fun _ _ _ h => by cases h
  | succ fuel ih =>
    intro cs as rest h
    obtain ⟨⟨a, rest'⟩, ha, h⟩ := Option.bind_eq_some_iff.1 h
    have hvalue := readAssignment_gives hitem _ _ _ ha
    simp only at h
    split at h
    · cases h
      simpa using hvalue
    · obtain ⟨⟨as', rest''⟩, has, heq⟩ := Option.bind_eq_some_iff.1 h
      cases heq
      exact List.forall_mem_cons.2 ⟨hvalue, ih _ _ _ has⟩
    · cases h

end

namespace IsBuilt

variable (built : IsBuilt P)
include built

theorem of_fitting {n : Int} {cs rest : List Char} {v : Toml} (h : fitting n cs = some (v, rest)) : P v := by
  unfold fitting at h
  split at h
  · rename_i hn
    cases h
    exact built.integer hn
  · cases h

theorem readInteger : Reader.Gives P readInteger := by
  intro cs v rest h
  unfold Toml.readInteger at h
  -- In each base the digits are read, and the number is taken if it fits.
  split at h <;> simp only [Option.bind_eq_bind, Option.bind_eq_some_iff] at h
  all_goals
    obtain ⟨read, -, hfitting⟩ := h
    exact built.of_fitting hfitting

theorem of_readFloating {cs rest : List Char} {v : Toml} (h : readFloating cs = .done v rest) : P v := by
  unfold readFloating at h
  simp only at h
  -- Wherever the reader ends with a value, it is a floating-point number.
  repeat' split at h
  all_goals first
    | cases h; exact built.floating _
    | cases h

theorem readNumberOrMoment : Reader.Gives P readNumberOrMoment := by
  intro cs v rest h
  unfold Toml.readNumberOrMoment at h
  split at h
  · cases h
  · cases h
    exact built.moment _
  · split at h
    · cases h
    · rename_i x rest' hfloating
      cases h
      exact built.of_readFloating hfloating
    · exact built.readInteger _ _ _ h

/-- **Values that are read have the property**, however deep they are nested. -/
theorem readValue (depth : Nat) : Reader.Gives P (readValue depth) := by
  induction depth with
  | zero => exact fun _ _ _ h => by cases h
  | succ depth ih =>
    intro cs v rest h
    unfold Toml.readValue at h
    split at h
    · split at h
      · cases h
      · obtain ⟨⟨items, rest'⟩, hitems, heq⟩ := Option.map_eq_some_iff.1 h
        cases heq
        exact built.array (arrayItems_gives ih _ _ _ _ hitems)
    · split at h
      · cases h
      · split at h
        · cases h
          exact built.table List.nodup_nil nofun
        · obtain ⟨⟨as, rest'⟩, has, h⟩ := Option.bind_eq_some_iff.1 h
          obtain ⟨t, ht, heq⟩ := Option.bind_eq_some_iff.1 h
          cases heq
          exact has_of_inlineTable? built (inlineAssignments_gives ih _ _ _ _ has) ht
    · cases h
      exact built.boolean _
    · cases h
      exact built.boolean _
    · cases h
      exact built.floating _
    · cases h
      exact built.floating _
    · split at h
      · obtain ⟨⟨text, rest'⟩, -, heq⟩ := Option.map_eq_some_iff.1 h
        cases heq
        exact built.text _
      · split at h
        · exact built.readNumberOrMoment _ _ _ h
        · cases h
    · cases h

end IsBuilt

/-! ### Documents that are read -/

theorem has_of_readHeader {cs rest : List Char} {s : Statement} (h : readHeader cs = some (s, rest)) :
    s.Has P := by
  unfold readHeader at h
  -- Both kinds of header have a path, a key and brackets, and no value.
  split at h
  case h_3 => cases h
  all_goals
    obtain ⟨⟨parts, rest₁⟩, -, h⟩ := Option.bind_eq_some_iff.1 h
    obtain ⟨⟨path, last⟩, -, h⟩ := Option.bind_eq_some_iff.1 h
    simp only at h
    split at h
    · obtain ⟨rest₂, -, heq⟩ := Option.bind_eq_some_iff.1 h
      cases heq
      trivial
    · cases h

theorem has_of_statements? (built : IsBuilt P) (fuel : Nat) {cs : List Char} {statements : List Statement}
    (h : statements? fuel cs = some statements) : ∀ s ∈ statements, s.Has P := by
  induction fuel generalizing cs statements with
  | zero => cases h
  | succ fuel ih =>
    rw [statements?] at h
    split at h
    · cases h
      exact nofun
    · obtain ⟨⟨s, rest⟩, hs, h⟩ := Option.bind_eq_some_iff.1 h
      obtain ⟨more, hmore, heq⟩ := Option.bind_eq_some_iff.1 h
      cases heq
      exact List.forall_mem_cons.2 ⟨has_of_readHeader hs, ih hmore⟩
    · obtain ⟨⟨a, rest⟩, ha, h⟩ := Option.bind_eq_some_iff.1 h
      obtain ⟨rest', -, h⟩ := Option.bind_eq_some_iff.1 h
      obtain ⟨more, hmore, heq⟩ := Option.bind_eq_some_iff.1 h
      cases heq
      have hvalue := readAssignment_gives (built.readValue depthLimit) _ _ _ ha
      exact List.forall_mem_cons.2 ⟨hvalue, ih hmore⟩

/-- **Every document that is read** has the property. -/
theorem parse?_of_isBuilt (built : IsBuilt P) {text : String} {table : Table}
    (h : parse? text = some table) : P (.table table) := by
  obtain ⟨statements, hstatements, htable⟩ := Option.bind_eq_some_iff.1 h
  exact has_of_assemble? built (has_of_statements? built _ hstatements) htable

end Toml

end GoldenCheck
