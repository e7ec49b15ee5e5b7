import StartOnReady.Settings.Environment
import StartOnReady.Settings.Toml

/-!
# Layers of settings

What a tree of settings holds after another tree was laid over it.  `laid` says so for the pieces at
one key.  `IsOpen part t` says that `t` is a table in which the part, if there is one, is a table,
too; such trees can be laid over each other key by key (`IsOpen.at?_merge`).  The settings of an
environment are a tree of this kind when their paths have two keys (`at?_ofEnvironment?`).
-/

namespace StartOnReady.Settings

open Keyed (IsSorted)

namespace Tree

/-! ### Keys -/

/-- What there is at a key when what one layer has there is laid over what lies below. -/
def laid : (lower upper : Option Tree) → Option Tree
  | lower, none => lower
  | none, some upper => some upper
  | some lower, some upper => some (lower.merge upper)

theorem laid_none_left (upper : Option Tree) : laid none upper = upper := by
  cases upper <;> rfl

theorem laid_some_left (lower : Tree) (upper : Option Tree) :
    ∃ t, laid (some lower) upper = some t := by
  cases upper with
  | none => exact ⟨lower, rfl⟩
  | some upper => exact ⟨lower.merge upper, rfl⟩

variable {below members : List (String × Tree)} {lower upper : Tree} {key : String}

theorem find?_mergeMembers (distinct : (members.map Prod.fst).Nodup) (key : String) :
    Keyed.find? key (mergeMembers below members) =
      laid (Keyed.find? key below) (Keyed.find? key members) := by
  induction members generalizing below with
  | nil => rfl
  | cons entry rest ih =>
    obtain ⟨k, piece⟩ := entry
    obtain ⟨fresh, distinct⟩ := List.nodup_cons.1 distinct
    rw [mergeMembers, ih distinct, Keyed.find?_insert]
    by_cases here : key = k
    · subst here
      rw [Keyed.find?_eq_none_iff.2 fresh, Keyed.find?, if_pos rfl, if_pos rfl]
      cases Keyed.find? key below <;> rfl
    · rw [if_neg here, Keyed.find?, if_neg here]

theorem isSorted_mergeMembers (sorted : IsSorted below) (members : List (String × Tree)) :
    IsSorted (mergeMembers below members) := by
  induction members generalizing below with
  | nil => exact sorted
  | cons entry rest ih =>
    rw [mergeMembers]
    exact ih (sorted.insert _ _)

/-! ### Tables -/

/-- The piece at a key of a table. -/
def member? (key : String) : Tree → Option Tree
  | .table _ members => Keyed.find? key members
  | _ => none

/-- Whether a tree is a table with its keys in order. -/
def IsTable (t : Tree) : Prop := ∃ source members, t = .table source members ∧ IsSorted members

/-- Whether the keys of a piece are in order, if it is a table. -/
def IsOrdered : Tree → Prop
  | .table _ members => IsSorted members
  | _ => True

theorem IsTable.isOrdered {t : Tree} (h : IsTable t) : t.IsOrdered := by
  obtain ⟨_, members, rfl, sorted⟩ := h
  exact sorted

theorem IsOrdered.merge (l : lower.IsOrdered) (u : upper.IsOrdered) :
    (lower.merge upper).IsOrdered := by
  cases upper with
  | leaf source datum => exact u
  | sequence source items => exact u
  | table source members =>
    cases lower with
    | leaf _ _ | sequence _ _ => exact u
    | table _ below => exact isSorted_mergeMembers l members

theorem IsTable.merge (l : IsTable lower) (u : IsTable upper) : IsTable (lower.merge upper) := by
  obtain ⟨_, below, rfl, sorted⟩ := l
  obtain ⟨source, members, rfl, -⟩ := u
  exact ⟨source, mergeMembers below members, rfl, isSorted_mergeMembers sorted members⟩

theorem IsTable.member?_merge (l : IsTable lower) (u : IsTable upper) (key : String) :
    (lower.merge upper).member? key = laid (lower.member? key) (upper.member? key) := by
  obtain ⟨_, below, rfl, -⟩ := l
  obtain ⟨source, members, rfl, sorted⟩ := u
  exact find?_mergeMembers sorted.nodup_keys key

theorem isTable_laid {lower upper : Option Tree} (l : ∀ t ∈ lower, IsTable t)
    (u : ∀ t ∈ upper, IsTable t) : ∀ t ∈ laid lower upper, IsTable t := by
  cases upper with
  | none => exact l
  | some upper =>
    cases lower with
    | none => exact u
    | some lower =>
      rintro _ ⟨⟩
      exact (l lower rfl).merge (u upper rfl)

theorem bind_member?_laid {lower upper : Option Tree} (l : ∀ t ∈ lower, IsTable t)
    (u : ∀ t ∈ upper, IsTable t) (key : String) :
    (laid lower upper).bind (member? key) =
      laid (lower.bind (member? key)) (upper.bind (member? key)) := by
  cases upper with
  | none => rfl
  | some upper =>
    cases lower with
    | none => exact (laid_none_left _).symm
    | some lower => exact (l lower rfl).member?_merge (u upper rfl) key

/-! ### Sections -/

/-- The piece at a key of a section. -/
def at? (part key : String) (t : Tree) : Option Tree := (t.member? part).bind (member? key)

/-- Whether a tree is a table in which a section is a table, if there is one. -/
structure IsOpen (part : String) (t : Tree) : Prop where
  isTable : IsTable t
  part_isTable : ∀ inner ∈ t.member? part, IsTable inner

variable {part : String}

theorem IsOpen.merge (l : IsOpen part lower) (u : IsOpen part upper) :
    IsOpen part (lower.merge upper) := by
  refine ⟨l.isTable.merge u.isTable, ?_⟩
  rw [l.isTable.member?_merge u.isTable]
  exact isTable_laid l.part_isTable u.part_isTable

theorem IsOpen.at?_merge (l : IsOpen part lower) (u : IsOpen part upper) (key : String) :
    (lower.merge upper).at? part key = laid (lower.at? part key) (upper.at? part key) := by
  rw [at?, l.isTable.member?_merge u.isTable]
  exact bind_member?_laid l.part_isTable u.part_isTable key

/-! ### Single settings -/

section Nested

variable {source : Source} {piece : Tree}

theorem isTable_singleton (source : Source) (key : String) (piece : Tree) :
    IsTable (.table source [(key, piece)]) := ⟨_, _, rfl, List.pairwise_singleton _ _⟩

theorem isOpen_nested (source : Source) (part other key : String) (piece : Tree) :
    IsOpen part (nested source [other, key] piece) := by
  refine ⟨isTable_singleton _ _ _, fun inner found => ?_⟩
  simp only [nested, member?, Keyed.find?, Option.mem_def, Option.ite_none_right_eq_some] at found
  obtain ⟨-, same⟩ := found
  exact Option.some.inj same ▸ isTable_singleton _ _ _

theorem at?_nested (source : Source) (part key other inner : String) (piece : Tree) :
    (nested source [other, inner] piece).at? part key =
      if [part, key] = [other, inner] then some piece else none := by
  by_cases samePart : part = other
  · by_cases sameKey : key = inner
    · simp [at?, nested, member?, Keyed.find?, samePart, sameKey]
    · simp [at?, nested, member?, Keyed.find?, samePart, sameKey]
  · simp [at?, nested, member?, Keyed.find?, samePart]

end Nested

/-! ### Environments -/

section Environments

variable {texts : List (List String × String)} {trees : List Tree} {start : Tree}

theorem isOpen_empty (source : Source) (part : String) : IsOpen part (.table source []) :=
  ⟨⟨source, [], rfl, List.Pairwise.nil⟩, nofun⟩

/-- Settings at different paths of two keys that are laid over a tree all stand in it. -/
theorem at?_foldl_merge (paths : ∀ entry ∈ texts, ∃ part key, entry.1 = [part, key])
    (once : (texts.map Prod.fst).Nodup)
    (read : (texts.mapM fun (path, value) => settingTree? path value) = some trees)
    (opened : ∀ part, IsOpen part start) :
    (∀ part, IsOpen part (trees.foldl merge start)) ∧
      ∀ part key, (trees.foldl merge start).at? part key =
        laid (start.at? part key) ((texts.lookup [part, key]).bind ofText?) := by
  induction texts generalizing trees start with
  | nil =>
    cases read
    exact ⟨opened, fun part key => rfl⟩
  | cons entry texts ih =>
    obtain ⟨path, value⟩ := entry
    obtain ⟨⟨part', key', rfl⟩, others⟩ := List.forall_mem_cons.1 paths
    obtain ⟨fresh, once⟩ := List.nodup_cons.1 once
    rw [List.mapM_cons] at read
    obtain ⟨tree, isTree, read⟩ := Option.bind_eq_some_iff.1 read
    obtain ⟨trees, readAll, ⟨⟩⟩ := Option.bind_eq_some_iff.1 read
    obtain ⟨piece, isPiece, rfl⟩ := Option.map_eq_some_iff.1 isTree
    have first (part : String) := isOpen_nested .environment part part' key' piece
    obtain ⟨openedAll, pieces⟩ :=
      ih others once readAll fun part => (opened part).merge (first part)
    refine ⟨openedAll, fun part key => ?_⟩
    rw [List.foldl_cons, pieces, (opened part).at?_merge (first part), at?_nested,
      List.lookup_cons]
    by_cases here : [part, key] = [part', key']
    · have absent : texts.lookup [part', key'] = none := by
        refine List.lookup_eq_none_iff.2 fun entry member => ?_
        rw [bne_iff_ne]
        exact fun same => fresh (same ▸ List.mem_map.2 ⟨entry, member, rfl⟩)
      rw [here, absent, if_pos rfl, BEq.rfl]
      simp only [Option.bind_some, isPiece]
      rfl
    · rw [if_neg here, beq_false_of_ne here]
      rfl

variable {environment : List (String × String)}

theorem isSome_mapM_iff {α β : Type} {f : α → Option β} {l : List α} :
    (l.mapM f).isSome ↔ ∀ a ∈ l, (f a).isSome := by
  induction l with
  | nil => exact iff_of_true rfl nofun
  | cons a l ih =>
    rw [List.mapM_cons, List.forall_mem_cons, ← ih]
    cases f a with
    | none => simp
    | some b => cases l.mapM f <;> simp

/-- The settings of an environment can be read if each of them can. -/
theorem isSome_ofEnvironment?_iff : (ofEnvironment? environment).isSome ↔
    ∀ entry ∈ settingTexts environment, (ofText? entry.2).isSome := by
  rw [ofEnvironment?, Option.isSome_map, isSome_mapM_iff]
  simp only [settingTree?, Option.isSome_map]

/-- Settings of an environment at different paths of two keys all stand in its tree. -/
theorem at?_ofEnvironment? {overrides : Tree}
    (paths : ∀ entry ∈ settingTexts environment, ∃ part key, entry.1 = [part, key])
    (once : ((settingTexts environment).map Prod.fst).Nodup)
    (h : ofEnvironment? environment = some overrides) :
    (∀ part, IsOpen part overrides) ∧ ∀ part key, overrides.at? part key =
      ((settingTexts environment).lookup [part, key]).bind ofText? := by
  obtain ⟨trees, read, rfl⟩ := Option.map_eq_some_iff.1 h
  obtain ⟨opened, pieces⟩ :=
    at?_foldl_merge paths once read (isOpen_empty .environment)
  exact ⟨opened, fun part key => (pieces part key).trans (laid_none_left _)⟩

end Environments

/-! ### Documents -/

section Documents

variable (source : Source)

theorem itemsOfToml_eq_map (items : List Toml.Value) :
    itemsOfToml source items = items.map (ofToml source) := by
  induction items with
  | nil => rfl
  | cons item items ih => rw [itemsOfToml, ih, List.map_cons]

theorem membersOfToml_eq_map (members : List (String × Toml.Value)) :
    membersOfToml source members = members.map fun m => (m.1, ofToml source m.2) := by
  induction members with
  | nil => rfl
  | cons m members ih => rw [membersOfToml, ih, List.map_cons]

theorem isOrdered_ofToml (v : Toml.Value) : (ofToml source v).IsOrdered := by
  cases v with
  | moment text =>
    rw [ofToml]
    exact List.pairwise_singleton _ _
  | table members =>
    rw [ofToml]
    exact Keyed.isSorted_ofList _
  | _ =>
    rw [ofToml]
    trivial

theorem isTable_ofToml_moment (text : String) : IsTable (ofToml source (.moment text)) :=
  ⟨_, _, by rw [ofToml], List.pairwise_singleton _ _⟩

theorem member?_ofToml_moment (text key : String) :
    (ofToml source (.moment text)).member? key =
      (Keyed.find? key [(Toml.Decoder.momentMember, Toml.Value.string text)]).map
        (ofToml source) := by
  rw [ofToml]
  exact Keyed.find?_mapValues key (ofToml source) [(_, .string text)]

theorem isTable_ofToml_table (members : List (String × Toml.Value)) :
    IsTable (ofToml source (.table members)) :=
  ⟨_, _, by rw [ofToml], Keyed.isSorted_ofList _⟩

theorem member?_ofToml_table {members : List (String × Toml.Value)}
    (distinct : (members.map Prod.fst).Nodup) (key : String) :
    (ofToml source (.table members)).member? key =
      (Keyed.find? key members).map (ofToml source) := by
  have keys : ((members.map fun m => (m.1, ofToml source m.2)).map Prod.fst).Nodup := by
    rw [List.map_map]
    exact distinct
  rw [ofToml, member?, membersOfToml_eq_map, Keyed.find?_ofList keys]
  exact Keyed.find?_mapValues key (ofToml source) members

end Documents

end Tree

end StartOnReady.Settings
