import StartOnReady.Toml.Reader

/-!
# Distinct keys

In the table that a document describes, and in every table within it, each key stands once
(`parse?_isDistinct`).  The statements of a document change a table that is being built, and so do
the assignments of an inline table; `Change.KeepsDistinct` says of a change that it binds no key
twice.
-/

namespace StartOnReady.Toml

variable {members members' : Members} {key : String} {item : Item} {v : Value}

/-! ### Values and items -/

/-- Whether each key stands once in every table of a value. -/
inductive Value.IsDistinct : Value → Prop
  | string (s : String) : IsDistinct (.string s)
  | integer (i : Int) : IsDistinct (.integer i)
  | real (x : Decimal.Binary64) : IsDistinct (.real x)
  | boolean (b : Bool) : IsDistinct (.boolean b)
  | moment (text : String) : IsDistinct (.moment text)
  | array {items : List Value} (inner : ∀ v ∈ items, v.IsDistinct) : IsDistinct (.array items)
  | elements {tables : List Value} (inner : ∀ v ∈ tables, v.IsDistinct) :
    IsDistinct (.elements tables)
  | table {members : List (String × Value)} (keys : (members.map Prod.fst).Nodup)
    (inner : ∀ m ∈ members, m.2.IsDistinct) : IsDistinct (.table members)

/-- Whether each key stands once in every table of an item. -/
inductive Item.IsDistinct : Item → Prop
  | value {v : Value} (inner : v.IsDistinct) : IsDistinct (.value v)
  | table {origin : Origin} {members : List (String × Item)}
    (keys : (members.map Prod.fst).Nodup) (inner : ∀ m ∈ members, m.2.IsDistinct) :
    IsDistinct (.table origin members)
  | elements {tables : List (List (String × Item))}
    (keys : ∀ members ∈ tables, (members.map Prod.fst).Nodup)
    (inner : ∀ members ∈ tables, ∀ m ∈ members, m.2.IsDistinct) : IsDistinct (.elements tables)

/-- Whether each key stands once in a table that is being built and in every table of it. -/
structure DistinctMembers (members : Members) : Prop where
  keys : (members.map Prod.fst).Nodup
  inner : ∀ m ∈ members, m.2.IsDistinct

theorem memberValues_eq_map (members : Members) :
    memberValues members = members.map fun m => (m.1, m.2.toValue) := by
  induction members with
  | nil => rfl
  | cons m members ih => rw [memberValues, ih, List.map_cons]

theorem tableValues_eq_map (tables : List Members) :
    tableValues tables = tables.map fun members => .table (memberValues members) := by
  induction tables with
  | nil => rfl
  | cons members tables ih => rw [tableValues, ih, List.map_cons]

theorem nodup_keys_memberValues (keys : (members.map Prod.fst).Nodup) :
    ((memberValues members).map Prod.fst).Nodup := by
  rw [memberValues_eq_map, List.map_map]
  exact keys

theorem isDistinct_table_memberValues (keys : (members.map Prod.fst).Nodup)
    (inner : ∀ m ∈ members, m.2.toValue.IsDistinct) :
    (Value.table (memberValues members)).IsDistinct := by
  refine .table (nodup_keys_memberValues keys) fun m found => ?_
  rw [memberValues_eq_map] at found
  obtain ⟨m, known, rfl⟩ := List.mem_map.1 found
  exact inner m known

theorem Value.IsDistinct.find? {members : List (String × Value)}
    (h : (Value.table members).IsDistinct) (found : Keyed.find? key members = some v) :
    v.IsDistinct := by
  cases h with
  | table _ inner => exact inner (key, v) (Keyed.mem_of_find? found)

theorem Item.IsDistinct.toValue (h : item.IsDistinct) : item.toValue.IsDistinct := by
  induction h with
  | value inner =>
    rw [Item.toValue]
    exact inner
  | table keys _ ih =>
    rw [Item.toValue]
    exact isDistinct_table_memberValues keys ih
  | elements keys _ ih =>
    rw [Item.toValue, tableValues_eq_map]
    refine .elements fun v found => ?_
    obtain ⟨members, known, rfl⟩ := List.mem_map.1 found
    exact isDistinct_table_memberValues (keys members known) (ih members known)

namespace DistinctMembers

theorem toValue (h : DistinctMembers members) : (Value.table (memberValues members)).IsDistinct :=
  isDistinct_table_memberValues h.keys fun m known => (h.inner m known).toValue

theorem toTable (h : DistinctMembers members) (origin : Origin) :
    (Item.table origin members).IsDistinct := .table h.keys h.inner

theorem nil : DistinctMembers [] := ⟨List.nodup_nil, fun _ h => absurd h List.not_mem_nil⟩

/-! ### Building blocks -/

theorem find? (h : DistinctMembers members) (found : Keyed.find? key members = some item) :
    item.IsDistinct := h.inner (key, item) (Keyed.mem_of_find? found)

theorem append (h : DistinctMembers members) (fresh : key ∉ members.map Prod.fst)
    (inner : item.IsDistinct) : DistinctMembers (members ++ [(key, item)]) := by
  constructor
  · rw [List.map_append]
    refine List.nodup_append.2 ⟨h.keys, List.pairwise_singleton _ _, fun k known k' added => ?_⟩
    obtain rfl : k' = key := List.mem_singleton.1 added
    rintro rfl
    exact fresh known
  · intro m found
    rcases List.mem_append.1 found with known | added
    · exact h.inner m known
    · exact List.mem_singleton.1 added ▸ inner

theorem filter (h : DistinctMembers members) (p : String × Item → Bool) :
    DistinctMembers (members.filter p) :=
  ⟨h.keys.sublist (List.filter_sublist.map _),
    fun m found => h.inner m (List.mem_filter.1 found).1⟩

theorem replaceItem (h : DistinctMembers members) (inner : item.IsDistinct) :
    DistinctMembers (replaceItem key item members) := by
  constructor
  · have sameKeys : (Toml.replaceItem key item members).map Prod.fst = members.map Prod.fst := by
      rw [Toml.replaceItem, List.map_map]
      refine List.map_congr_left fun m _ => ?_
      exact apply_ite Prod.fst .. |>.trans (ite_self _)
    rw [sameKeys]
    exact h.keys
  · intro m found
    obtain ⟨old, known, rfl⟩ := List.mem_map.1 found
    dsimp only
    split
    · exact inner
    · exact h.inner old known

end DistinctMembers

theorem distinctMembers_of_mem_elements {tables : List Members} {table : Members}
    (h : (Item.elements tables).IsDistinct) (member : table ∈ tables) : DistinctMembers table := by
  cases h with
  | elements keys inner => exact ⟨keys table member, inner table member⟩

theorem isDistinct_elements_append {tables tables' : List Members} {table : Members}
    (h : (Item.elements tables).IsDistinct) (sub : tables' ⊆ tables)
    (last : DistinctMembers table) : (Item.elements (tables' ++ [table])).IsDistinct := by
  have each : ∀ t ∈ tables' ++ [table], DistinctMembers t := by
    intro t member
    rcases List.mem_append.1 member with old | added
    · exact distinctMembers_of_mem_elements h (sub old)
    · exact List.mem_singleton.1 added ▸ last
  exact .elements (fun t member => (each t member).keys) fun t member => (each t member).inner

/-! ### Changes -/

/-- Whether a change of a table in which each key stands once leaves such a table. -/
def Change.KeepsDistinct (change : Change) : Prop :=
  ∀ ⦃origin members members'⦄, DistinctMembers members →
    change origin members = some members' → DistinctMembers members'

theorem keepsDistinct_addValue (viaDots : Bool) (key : String) (h : v.IsDistinct) :
    (addValue viaDots key v).KeepsDistinct := by
  intro origin members members' distinct changed
  rw [addValue, Option.ite_none_right_eq_some] at changed
  obtain ⟨free, ⟨⟩⟩ := changed
  have absent := Option.isNone_iff_eq_none.1 ((Bool.and_eq_true_iff.1 free).2)
  exact distinct.append (Keyed.find?_eq_none_iff.1 absent) (.value h)

theorem keepsDistinct_openTable (key : String) : (openTable key).KeepsDistinct := by
  intro origin members members' distinct changed
  unfold openTable at changed
  split at changed
  next absent =>
    cases changed
    exact distinct.append (Keyed.find?_eq_none_iff.1 absent) (DistinctMembers.nil.toTable _)
  next inner found =>
    cases changed
    have inner : DistinctMembers inner := by
      cases distinct.find? found with
      | table keys inner => exact ⟨keys, inner⟩
    refine (distinct.filter _).append (fun again => ?_) (inner.toTable _)
    obtain ⟨m, kept, same⟩ := List.mem_map.1 again
    exact absurd same (bne_iff_ne.1 (List.mem_filter.1 kept).2)
  next => cases changed

theorem keepsDistinct_openElement (key : String) : (openElement key).KeepsDistinct := by
  intro origin members members' distinct changed
  unfold openElement at changed
  split at changed
  next absent =>
    cases changed
    refine distinct.append (Keyed.find?_eq_none_iff.1 absent) ?_
    have none : (Item.elements []).IsDistinct := .elements nofun nofun
    exact isDistinct_elements_append none (List.Subset.refl _) .nil
  next tables found =>
    cases changed
    exact distinct.replaceItem
      (isDistinct_elements_append (distinct.find? found) (List.Subset.refl _) .nil)
  next => cases changed

theorem keepsDistinct_changeAt (viaDots : Bool) {change : Change} (h : change.KeepsDistinct)
    (path : List String) : (changeAt viaDots change path).KeepsDistinct := by
  induction path with
  | nil => exact h
  | cons key path ih =>
    intro origin members members' distinct changed
    rw [changeAt] at changed
    split at changed
    next absent =>
      obtain ⟨inner, made, ⟨⟩⟩ := Option.bind_eq_some_iff.1 changed
      exact distinct.append (Keyed.find?_eq_none_iff.1 absent) ((ih .nil made).toTable _)
    next => cases changed
    next origin' inner found =>
      rw [Option.ite_none_left_eq_some] at changed
      obtain ⟨inner', made, ⟨⟩⟩ := Option.bind_eq_some_iff.1 changed.2
      cases distinct.find? found with
      | table keys inner => exact distinct.replaceItem ((ih ⟨keys, inner⟩ made).toTable _)
    next tables found =>
      obtain ⟨last, isLast, rest⟩ := Option.bind_eq_some_iff.1 changed
      obtain ⟨last', made, ⟨⟩⟩ := Option.bind_eq_some_iff.1 rest
      have elements := distinct.find? found
      have distinctLast := distinctMembers_of_mem_elements elements (List.mem_of_getLast? isLast)
      exact distinct.replaceItem
        (isDistinct_elements_append elements (List.dropLast_subset _) (ih distinctLast made))

theorem keepsDistinct_atLastKey (viaDots : Bool) {change : String → Change}
    (h : ∀ key, (change key).KeepsDistinct) (path : List String) :
    (atLastKey viaDots change path).KeepsDistinct := by
  intro origin members members' distinct changed
  obtain ⟨key, -, changed⟩ := Option.bind_eq_some_iff.1 changed
  exact keepsDistinct_changeAt viaDots (h key) path.dropLast distinct changed

theorem keepsDistinct_assign (path : List String) (h : v.IsDistinct) :
    (assign path v).KeepsDistinct :=
  keepsDistinct_atLastKey true (fun _ => keepsDistinct_addValue _ _ h) path

/-! ### Reading -/

section Reading

variable {cs rest : List Char}

/-- What every step of a run keeps holds at its end. -/
theorem of_foldlM {σ α : Type} {P : σ → Prop} {step : σ → α → Option σ} {l : List α}
    (keeps : ∀ a ∈ l, ∀ s s', P s → step s a = some s' → P s') {s s' : σ} (start : P s)
    (run : l.foldlM step s = some s') : P s' := by
  induction l generalizing s with
  | nil =>
    cases run
    exact start
  | cons a l ih =>
    rw [List.foldlM_cons] at run
    obtain ⟨middle, first, later⟩ := Option.bind_eq_some_iff.1 run
    exact ih (fun b member => keeps b (List.mem_cons_of_mem a member))
      (keeps a List.mem_cons_self s middle start first) later

theorem tableOf?_isDistinct {assignments : List (List String × Value)}
    (inner : ∀ a ∈ assignments, a.2.IsDistinct) (h : tableOf? assignments = some v) :
    v.IsDistinct := by
  obtain ⟨members, run, ⟨⟩⟩ := Option.bind_eq_some_iff.1 h
  refine DistinctMembers.toValue (of_foldlM (fun a member s s' distinct changed => ?_) .nil run)
  exact keepsDistinct_assign a.1 (inner a member) distinct changed

theorem integer?_isDistinct {i : Int} (h : integer? i = some v) : v.IsDistinct := by
  unfold integer? at h
  split at h
  · cases h
    exact .integer i
  · cases h

theorem ofLiteral?_isDistinct {l : Decimal.Literal} (h : ofLiteral? l = some v) :
    v.IsDistinct := by
  unfold ofLiteral? at h
  split at h
  · exact integer?_isDistinct h
  · split at h
    · cases h
    · cases h
      exact .real _

theorem readInBase?_isDistinct {base : Nat} {isDigit : Char → Bool}
    (h : readInBase? base isDigit cs = some (v, rest)) : v.IsDistinct := by
  obtain ⟨⟨digits, _⟩, -, h⟩ := Option.bind_eq_some_iff.1 h
  obtain ⟨_, isValue, ⟨⟩⟩ := Option.bind_eq_some_iff.1 h
  exact integer?_isDistinct isValue

theorem readDecimal?_isDistinct {negative : Bool}
    (h : readDecimal? negative cs = some (v, rest)) : v.IsDistinct := by
  obtain ⟨⟨_, _⟩, -, h⟩ := Option.bind_eq_some_iff.1 h
  obtain ⟨⟨_, _⟩, -, h⟩ := Option.bind_eq_some_iff.1 h
  obtain ⟨⟨_, _⟩, -, h⟩ := Option.bind_eq_some_iff.1 h
  obtain ⟨_, isValue, ⟨⟩⟩ := Option.bind_eq_some_iff.1 h
  exact ofLiteral?_isDistinct isValue

theorem readScalar?_isDistinct (h : readScalar? cs = some (v, rest)) : v.IsDistinct := by
  unfold readScalar? at h
  split at h
  · cases h
    exact .moment _
  · unfold readNumber? at h
    split at h
    · cases h
      exact .real _
    · cases h
      exact .real _
    · exact readInBase?_isDistinct h
    · exact readInBase?_isDistinct h
    · exact readInBase?_isDistinct h
    · exact readDecimal?_isDistinct h

theorem asString_isDistinct {read : Option (List Char × List Char)}
    (h : asString read = some (v, rest)) : v.IsDistinct := by
  obtain ⟨_, -, ⟨⟩⟩ := Option.map_eq_some_iff.1 h
  exact .string _

/-- What the readers with a bound on their steps read. -/
structure ReadsDistinct (steps : Nat) : Prop where
  value : ∀ {levels cs v rest}, readValue? steps levels cs = some (v, rest) → v.IsDistinct
  items : ∀ {levels cs items rest}, readItems? steps levels cs = some (items, rest) →
    ∀ v ∈ items, v.IsDistinct
  assignments : ∀ {levels cs assignments rest},
    readAssignments? steps levels cs = some (assignments, rest) →
    ∀ a ∈ assignments, a.2.IsDistinct

namespace ReadsDistinct

variable {steps levels : Nat}

theorem value_succ (h : ReadsDistinct steps)
    (read : readValue? (steps + 1) levels cs = some (v, rest)) : v.IsDistinct := by
  rw [readValue?.eq_def] at read
  dsimp only at read
  split at read
  · exact asString_isDistinct read
  · exact asString_isDistinct read
  · exact asString_isDistinct read
  · exact asString_isDistinct read
  · split at read
    · cases read
    · obtain ⟨_, items, ⟨⟩⟩ := Option.map_eq_some_iff.1 read
      exact .array (h.items items)
  · split at read
    · cases read
    · cases read
      exact .table List.nodup_nil nofun
    · obtain ⟨⟨assignments, _⟩, inner, read⟩ := Option.bind_eq_some_iff.1 read
      obtain ⟨_, isTable, ⟨⟩⟩ := Option.bind_eq_some_iff.1 read
      exact tableOf?_isDistinct (h.assignments inner) isTable
  · cases read
    exact .boolean true
  · cases read
    exact .boolean false
  · exact readScalar?_isDistinct read

theorem items_succ (h : ReadsDistinct steps) {items : List Value}
    (read : readItems? (steps + 1) levels cs = some (items, rest)) :
    ∀ v ∈ items, v.IsDistinct := by
  rw [readItems?.eq_def] at read
  dsimp only at read
  split at read
  · cases read
    exact nofun
  · obtain ⟨⟨item, _⟩, first, read⟩ := Option.bind_eq_some_iff.1 read
    have distinct := h.value first
    dsimp only at read
    split at read
    · cases read
      exact List.forall_mem_singleton.2 distinct
    · obtain ⟨⟨items, _⟩, later, ⟨⟩⟩ := Option.bind_eq_some_iff.1 read
      exact List.forall_mem_cons.2 ⟨distinct, h.items later⟩
    · cases read

theorem assignments_succ (h : ReadsDistinct steps) {assignments : List (List String × Value)}
    (read : readAssignments? (steps + 1) levels cs = some (assignments, rest)) :
    ∀ a ∈ assignments, a.2.IsDistinct := by
  rw [readAssignments?.eq_def] at read
  dsimp only at read
  obtain ⟨⟨path, _⟩, -, read⟩ := Option.bind_eq_some_iff.1 read
  obtain ⟨_, -, read⟩ := Option.bind_eq_some_iff.1 read
  obtain ⟨⟨v, _⟩, first, read⟩ := Option.bind_eq_some_iff.1 read
  have distinct := h.value first
  dsimp only at read
  split at read
  · cases read
    exact List.forall_mem_singleton.2 distinct
  · obtain ⟨⟨assignments, _⟩, later, ⟨⟩⟩ := Option.bind_eq_some_iff.1 read
    exact List.forall_mem_cons.2 ⟨distinct, h.assignments later⟩
  · cases read

end ReadsDistinct

theorem readsDistinct (steps : Nat) : ReadsDistinct steps := by
  induction steps with
  | zero =>
    constructor <;> intro levels cs _ rest read
    · rw [readValue?] at read
      cases read
    · rw [readItems?] at read
      cases read
    · rw [readAssignments?] at read
      cases read
  | succ steps ih => exact ⟨ih.value_succ, ih.items_succ, ih.assignments_succ⟩

/-! ### Documents -/

/-- Whether the value that a statement assigns, if it does, has distinct keys. -/
def Statement.IsDistinct : Statement → Prop
  | assign _ v => v.IsDistinct
  | openTable _ | openElement _ => True

theorem readStatement?_isDistinct {statement : Statement}
    (h : readStatement? cs = some (statement, rest)) : statement.IsDistinct := by
  unfold readStatement? at h
  split at h
  · obtain ⟨⟨_, _⟩, -, h⟩ := Option.bind_eq_some_iff.1 h
    obtain ⟨_, -, ⟨⟩⟩ := Option.bind_eq_some_iff.1 h
    trivial
  · obtain ⟨⟨_, _⟩, -, h⟩ := Option.bind_eq_some_iff.1 h
    obtain ⟨_, -, ⟨⟩⟩ := Option.bind_eq_some_iff.1 h
    trivial
  · obtain ⟨⟨_, _⟩, -, h⟩ := Option.bind_eq_some_iff.1 h
    obtain ⟨_, -, h⟩ := Option.bind_eq_some_iff.1 h
    obtain ⟨⟨_, _⟩, read, h⟩ := Option.bind_eq_some_iff.1 h
    obtain ⟨_, -, ⟨⟩⟩ := Option.bind_eq_some_iff.1 h
    exact (readsDistinct _).value read

theorem readStatements?_isDistinct {steps : Nat} {statements : List Statement}
    (h : readStatements? steps cs = some statements) : ∀ s ∈ statements, s.IsDistinct := by
  induction steps generalizing cs statements with
  | zero => cases h
  | succ steps ih =>
    rw [readStatements?] at h
    split at h
    · cases h
      exact nofun
    · obtain ⟨⟨statement, _⟩, first, h⟩ := Option.bind_eq_some_iff.1 h
      obtain ⟨_, later, ⟨⟩⟩ := Option.bind_eq_some_iff.1 h
      exact List.forall_mem_cons.2 ⟨readStatement?_isDistinct first, ih later⟩

theorem Draft.step_distinct {d d' : Draft} {statement : Statement} (inner : statement.IsDistinct)
    (h : DistinctMembers d.members) (stepped : d.step statement = some d') :
    DistinctMembers d'.members := by
  cases statement with
  | assign path v =>
    obtain ⟨_, changed, ⟨⟩⟩ := Option.bind_eq_some_iff.1 stepped
    exact keepsDistinct_changeAt false (keepsDistinct_assign path inner) d.path h changed
  | openTable path =>
    obtain ⟨_, changed, ⟨⟩⟩ := Option.bind_eq_some_iff.1 stepped
    exact keepsDistinct_atLastKey false keepsDistinct_openTable path h changed
  | openElement path =>
    obtain ⟨_, changed, ⟨⟩⟩ := Option.bind_eq_some_iff.1 stepped
    exact keepsDistinct_atLastKey false keepsDistinct_openElement path h changed

/-- Each key stands once in the table of a document and in every table of it. -/
theorem parse?_isDistinct {text : String} {members : List (String × Value)}
    (h : parse? text = some members) : (Value.table members).IsDistinct := by
  obtain ⟨statements, read, h⟩ := Option.bind_eq_some_iff.1 h
  obtain ⟨draft, run, ⟨⟩⟩ := Option.bind_eq_some_iff.1 h
  have inner := readStatements?_isDistinct read
  exact (of_foldlM (P := fun d : Draft => DistinctMembers d.members)
    (fun s member _ _ => Draft.step_distinct (inner s member)) .nil run).toValue

end Reading

end StartOnReady.Toml
