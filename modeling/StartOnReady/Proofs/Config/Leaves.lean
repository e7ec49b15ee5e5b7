import Mathlib
import StartOnReady.Proofs.Config.Layered
import StartOnReady.Startup

/-!
# Leaves of configurations

A configuration has four leaves.  Each is taken by itself from the highest layer that sets it: the
environment, then the document, then the defaults (`Config.load_takes_leaves`).  It matters to no
leaf what any other layer or any other leaf holds.
-/

namespace StartOnReady

open Settings (Tree settingTexts keyPath?)
open Settings.Tree (IsTable IsOpen laid)

/-- The settings that make up a configuration. -/
inductive Leaf where
  | filter
  | format
  | ansi
  | endpointUrl
  deriving DecidableEq, Repr

namespace Leaf

abbrev Value : Leaf → Type
  | filter => String
  | format => LogFormat
  | ansi => Bool
  | endpointUrl => Option String

/-- The key of the table in which a leaf stands. -/
def part : Leaf → String
  | filter | format | ansi => "logging"
  | endpointUrl => "control_plane"

def key : Leaf → String
  | filter => "filter"
  | format => "format"
  | ansi => "ansi"
  | endpointUrl => "endpoint_url"

def path (leaf : Leaf) : List String := [leaf.part, leaf.key]

/-- The variable that sets a leaf. -/
def variableName : Leaf → String
  | filter => "START_FLINK_LOGGING__FILTER"
  | format => "START_FLINK_LOGGING__FORMAT"
  | ansi => "START_FLINK_LOGGING__ANSI"
  | endpointUrl => "START_FLINK_CONTROL_PLANE__ENDPOINT_URL"

def get : (leaf : Leaf) → Config → leaf.Value
  | filter, c => c.logging.filter
  | format, c => c.logging.format
  | ansi, c => c.logging.ansi
  | endpointUrl, c => c.controlPlane.endpointUrl

/-! ### What suits a leaf -/

/-- The value of a leaf that is set in a document, if its type is that of the leaf. -/
def ofToml? : (leaf : Leaf) → Toml.Value → Option leaf.Value
  | filter, .string s => some s
  | format, .string s => LogFormat.ofWord? s
  | ansi, .boolean b => some b
  | endpointUrl, .string s => some (some s)
  | _, _ => none

/-- The value of a leaf that is given by a tree, if its type is that of the leaf. -/
def ofTree? : (leaf : Leaf) → Tree → Option leaf.Value
  | filter, .leaf _ (.text s) => some s
  | filter, .leaf _ (.letter c) => some (String.singleton c)
  | format, .leaf _ (.text s) => LogFormat.ofWord? s
  | ansi, .leaf _ (.boolean b) => some b
  | endpointUrl, .leaf _ (.text s) => some (some s)
  | endpointUrl, .leaf _ (.letter c) => some (some (String.singleton c))
  | endpointUrl, .leaf _ .absent => some none
  | _, _ => none

/-- The value of a leaf that is set to a text in the environment, if the text stands for one. -/
def ofText? (leaf : Leaf) (s : String) : Option leaf.Value := (Tree.ofText? s).bind leaf.ofTree?

/-! ### Where a leaf is set -/

/-- What a document has for a leaf. -/
def inDocument? (leaf : Leaf) (members : List (String × Toml.Value)) : Option Toml.Value :=
  match Keyed.find? leaf.part members with
  | some (.table inner) => Keyed.find? leaf.key inner
  | _ => none

/-- The text of the variable that sets a leaf. -/
def inEnvironment? (leaf : Leaf) (environment : List (String × String)) : Option String :=
  (settingTexts environment).lookup leaf.path

/-- The value of a leaf by the highest layer that sets it; `none` if that layer has no value of the
right type. -/
def chosen? (leaf : Leaf) (members : List (String × Toml.Value))
    (environment : List (String × String)) : Option leaf.Value :=
  match leaf.inEnvironment? environment with
  | some s => leaf.ofText? s
  | none =>
    match leaf.inDocument? members with
    | some v => leaf.ofToml? v
    | none => some (leaf.get {})

/-- Whether the parts of a configuration are tables where a document has them. -/
def HasTables (members : List (String × Toml.Value)) : Prop :=
  ∀ leaf : Leaf, ∀ v ∈ Keyed.find? leaf.part members, ∃ inner, v = .table inner

/-- Whether no variable sets anything but a leaf, and no leaf is set twice. -/
structure SetsLeaves (environment : List (String × String)) : Prop where
  only : ∀ entry ∈ settingTexts environment, ∃ leaf : Leaf, entry.1 = leaf.path
  once : ((settingTexts environment).map Prod.fst).Nodup

/-- Whether loading takes each leaf from the highest layer that sets it, and succeeds just if each
of these values is of the right type. -/
def Takes (loaded : Except ConfigError Config) (members : List (String × Toml.Value))
    (environment : List (String × String)) : Prop :=
  (∀ c, loaded = .ok c ↔ ∀ leaf : Leaf, leaf.chosen? members environment = some (leaf.get c)) ∧
    ((∃ c, loaded = .ok c) ↔ ∀ leaf : Leaf, (leaf.chosen? members environment).isSome)

/-! ### Reading a leaf -/

/-- How the piece of a leaf is read. -/
def read? : (leaf : Leaf) → Tree → Option leaf.Value
  | filter => Settings.reading.text?
  | format => Settings.reading.format?
  | ansi => Settings.reading.boolean?
  | endpointUrl => Settings.reading.endpoint?

theorem read?_table (leaf : Leaf) (source : Settings.Source) (members : List (String × Tree)) :
    leaf.read? (.table source members) = none := by
  cases leaf with
  | format =>
    cases members with
    | nil => rfl
    | cons m members =>
      simp only [read?, Settings.reading, LogFormat.fromSettings, Settings.Extractor.choice]
      cases LogFormat.ofWord? m.1 <;> rfl
  | _ => rfl

theorem read?_eq_ofTree? (leaf : Leaf) (t : Tree) : leaf.read? t = leaf.ofTree? t := by
  rcases t with ⟨source, datum⟩ | ⟨source, items⟩ | ⟨source, members⟩
  · cases leaf with
    | format =>
      cases datum with
      | text s =>
        simp only [read?, Settings.reading, LogFormat.fromSettings, Settings.Extractor.choice,
          ofTree?]
        cases LogFormat.ofWord? s <;> rfl
      | _ => rfl
    | _ => cases datum <;> rfl
  · cases leaf <;> rfl
  · rw [read?_table]
    cases leaf <;> rfl

theorem read?_ofToml (leaf : Leaf) (source : Settings.Source) (v : Toml.Value) :
    leaf.read? (Tree.ofToml source v) = leaf.ofToml? v := by
  rw [read?_eq_ofTree?]
  cases leaf <;> cases v <;> rw [Tree.ofToml] <;> rfl

/-- A piece is read as if nothing lay below it. -/
theorem read?_merge (leaf : Leaf) (lower upper : Tree) :
    leaf.read? (lower.merge upper) = leaf.read? upper := by
  cases upper with
  | leaf source datum => rfl
  | sequence source items => rfl
  | table source members =>
    cases lower with
    | leaf _ _ | sequence _ _ => rfl
    | table _ below => rw [Tree.merge, read?_table, read?_table]

/-- A field is read from the piece on top, and from what lies below it where there is none. -/
theorem valueOr?_laid (leaf : Leaf) (default : leaf.Value) (lower upper : Option Tree) :
    Reading.valueOr? default leaf.read? (laid lower upper) =
      upper.elim (Reading.valueOr? default leaf.read? lower) leaf.read? := by
  cases upper with
  | none => rfl
  | some upper =>
    cases lower with
    | none => rfl
    | some lower => exact leaf.read?_merge lower upper

theorem valueOr?_base (leaf : Leaf) :
    Reading.valueOr? (leaf.get {}) leaf.read? (Config.baseLayer.at? leaf.part leaf.key) =
      some (leaf.get {}) := by
  cases leaf <;> rfl

variable {members : List (String × Toml.Value)} {environment : List (String × String)}

/-- The piece of a leaf in all layers. -/
def layered? (leaf : Leaf) (source : Settings.Source) (members : List (String × Toml.Value))
    (overrides : Tree) : Option Tree :=
  laid (laid (Config.baseLayer.at? leaf.part leaf.key)
    ((leaf.inDocument? members).map (Tree.ofToml source))) (overrides.at? leaf.part leaf.key)

theorem valueOr?_layered (leaf : Leaf) (source : Settings.Source) {overrides : Tree}
    (readable : ∀ s ∈ leaf.inEnvironment? environment, (Tree.ofText? s).isSome)
    (piece : overrides.at? leaf.part leaf.key =
      (leaf.inEnvironment? environment).bind Tree.ofText?) :
    Reading.valueOr? (leaf.get {}) leaf.read? (leaf.layered? source members overrides) =
      leaf.chosen? members environment := by
  rw [layered?, valueOr?_laid, valueOr?_laid, valueOr?_base, piece, chosen?]
  cases given : leaf.inEnvironment? environment with
  | some s =>
    obtain ⟨t, isTree⟩ := Option.isSome_iff_exists.1 (readable s given)
    show (Tree.ofText? s).elim _ leaf.read? = (Tree.ofText? s).bind leaf.ofTree?
    rw [isTree]
    exact leaf.read?_eq_ofTree? t
  | none =>
    cases leaf.inDocument? members with
    | none => rfl
    | some v => exact leaf.read?_ofToml source v

theorem forall_iff {P : Leaf → Prop} :
    (∀ leaf, P leaf) ↔ P filter ∧ P format ∧ P ansi ∧ P endpointUrl := by
  refine ⟨fun h => ⟨h _, h _, h _, h _⟩, fun h leaf => ?_⟩
  obtain ⟨f, g, a, e⟩ := h
  cases leaf <;> assumption

end Leaf

namespace Config

open Leaf (HasTables)
open Settings Settings.Tree

variable {members : List (String × Toml.Value)} {overrides : Tree} (source : Source)

/-- The layers come to a table for the part of a leaf, and to what they have for the leaf in it. -/
theorem bind_layersAt (leaf : Leaf) (distinct : (Toml.Value.table members).IsDistinct)
    (tables : HasTables members) (opened : ∀ part, IsOpen part overrides) :
    (∀ t ∈ layersAt source members overrides leaf.part, IsTable t) ∧
      (layersAt source members overrides leaf.part).bind (member? leaf.key) =
        leaf.layered? source members overrides := by
  have base : ∀ t ∈ baseLayer.member? leaf.part, IsTable t := fun t => isTable_of_mem_baseLayer
  have document : ∀ t ∈ (Keyed.find? leaf.part members).map (ofToml source), IsTable t := by
    intro t given
    obtain ⟨v, found, rfl⟩ := Option.map_eq_some_iff.1 given
    obtain ⟨inner, rfl⟩ := tables leaf v found
    exact isTable_ofToml_table source inner
  have inDocument : ((Keyed.find? leaf.part members).map (ofToml source)).bind (member? leaf.key) =
      (leaf.inDocument? members).map (ofToml source) := by
    unfold Leaf.inDocument?
    cases found : Keyed.find? leaf.part members with
    | none => rfl
    | some v =>
      obtain ⟨inner, rfl⟩ := tables leaf v found
      exact member?_ofToml_table source (distinct.find? found).hasDistinctKeys leaf.key
  have lower := isTable_laid base document
  have environment := (opened leaf.part).part_isTable
  refine ⟨isTable_laid lower environment, ?_⟩
  rw [layersAt, bind_member?_laid lower environment, bind_member?_laid base document, inDocument]
  rfl

theorem exists_layersAt (leaf : Leaf) :
    ∃ t, layersAt source members overrides leaf.part = some t := by
  obtain ⟨base, isBase⟩ : ∃ base, baseLayer.member? leaf.part = some base := by
    cases leaf <;> exact ⟨_, rfl⟩
  obtain ⟨lower, isLower⟩ :=
    laid_some_left base ((Keyed.find? leaf.part members).map (ofToml source))
  rw [layersAt, isBase, isLower]
  exact laid_some_left lower _

theorem configOf?_eq_some_iff (distinct : (Toml.Value.table members).IsDistinct)
    (tables : HasTables members) (opened : ∀ part, IsOpen part overrides) (c : Config) :
    reading.configOf? (layersAt source members overrides "logging")
        (layersAt source members overrides "control_plane") = some c ↔
      ∀ leaf : Leaf, Reading.valueOr? (leaf.get {}) leaf.read?
        (leaf.layered? source members overrides) = some (leaf.get c) := by
  have pieces (leaf : Leaf) := bind_layersAt source leaf distinct tables opened
  obtain ⟨logging, isLogging⟩ : ∃ t, layersAt source members overrides "logging" = some t :=
    exists_layersAt source .filter
  obtain ⟨controlPlane, isControlPlane⟩ :
      ∃ t, layersAt source members overrides "control_plane" = some t :=
    exists_layersAt source .endpointUrl
  have loggingTable := (pieces .filter).1 logging isLogging
  have controlPlaneTable := (pieces .endpointUrl).1 controlPlane isControlPlane
  rw [isLogging, isControlPlane, Reading.configOf?_eq_some_iff, Reading.valueOr?, Reading.valueOr?,
    Option.elim_some, Option.elim_some, loggingTable.logging?, controlPlaneTable.controlPlane?,
    Reading.loggingOf?_eq_some_iff, Reading.controlPlaneOf?_eq_some_iff, and_assoc, and_assoc]
  simp only [Leaf.forall_iff, ← (pieces _).2, Leaf.part, isLogging, isControlPlane,
    Option.bind_some]
  exact Iff.rfl

end Config

namespace Leaf

variable {members : List (String × Toml.Value)} {environment : List (String × String)}

/-- The configuration of four values. -/
theorem exists_get_eq (values : (leaf : Leaf) → leaf.Value) :
    ∃ c : Config, ∀ leaf : Leaf, leaf.get c = values leaf := by
  refine ⟨⟨⟨values .filter, values .format, values .ansi⟩, ⟨values .endpointUrl⟩⟩, fun leaf => ?_⟩
  cases leaf <;> rfl

theorem takes_of_iff {loaded : Except ConfigError Config}
    (h : ∀ c, loaded = .ok c ↔
      ∀ leaf : Leaf, leaf.chosen? members environment = some (leaf.get c)) :
    Takes loaded members environment := by
  refine ⟨h, fun ⟨c, isOk⟩ leaf => ?_, fun chosen => ?_⟩
  · rw [(h c).1 isOk leaf]
    rfl
  · obtain ⟨c, same⟩ :=
      exists_get_eq fun leaf => (leaf.chosen? members environment).get (chosen leaf)
    refine ⟨c, (h c).2 fun leaf => ?_⟩
    rw [same]
    exact (Option.some_get _).symm

theorem SetsLeaves.inEnvironment?_eq (sets : SetsLeaves environment)
    {entry : List String × String} (member : entry ∈ settingTexts environment) {leaf : Leaf}
    (isPath : entry.1 = leaf.path) : leaf.inEnvironment? environment = some entry.2 := by
  obtain ⟨before, behind, split⟩ := List.append_of_mem member
  have once := sets.once
  rw [split, List.map_append, List.map_cons] at once
  refine List.lookup_eq_some_iff.2 ⟨before, behind, ?_, fun other earlier => ?_⟩
  · rw [split, ← isPath]
  · have distinct := (List.nodup_append.1 once).2.2 other.1
      (List.mem_map.2 ⟨other, earlier, rfl⟩) entry.1 List.mem_cons_self
    rw [bne_iff_ne, ← isPath]
    exact distinct.symm

/-- Where every leaf has a value, all settings of the environment can be read. -/
theorem SetsLeaves.isSome_ofEnvironment? (sets : SetsLeaves environment)
    (chosen : ∀ leaf : Leaf, (leaf.chosen? members environment).isSome) :
    (Settings.ofEnvironment? environment).isSome := by
  refine Tree.isSome_ofEnvironment?_iff.2 fun entry member => ?_
  obtain ⟨leaf, isPath⟩ := sets.only entry member
  have value := chosen leaf
  rw [chosen?, sets.inEnvironment?_eq member isPath] at value
  exact Option.isSome_of_isSome_bind value

theorem below_takes_leaves (source : Settings.Source)
    (distinct : (Toml.Value.table members).IsDistinct) (tables : HasTables members)
    (sets : SetsLeaves environment) :
    Takes (Config.below environment (Config.ofLayers source members)) members environment := by
  refine takes_of_iff fun c => ?_
  rw [Config.below]
  cases read : Settings.ofEnvironment? environment with
  | none =>
    refine iff_of_false nofun fun chosen => ?_
    have readable := sets.isSome_ofEnvironment? fun leaf => by
      rw [chosen leaf]
      rfl
    rw [read] at readable
    exact Bool.false_ne_true readable
  | some overrides =>
    have paths : ∀ entry ∈ settingTexts environment, ∃ part key, entry.1 = [part, key] := by
      intro entry member
      obtain ⟨leaf, isPath⟩ := sets.only entry member
      exact ⟨leaf.part, leaf.key, isPath⟩
    obtain ⟨opened, pieces⟩ := Tree.at?_ofEnvironment? paths sets.once read
    have all := Tree.isSome_ofEnvironment?_iff.1 (Option.isSome_of_mem read)
    have readable (leaf : Leaf) :
        ∀ s ∈ leaf.inEnvironment? environment, (Tree.ofText? s).isSome := by
      intro s given
      obtain ⟨before, behind, split, -⟩ := List.lookup_eq_some_iff.1 given
      exact all (leaf.path, s) (split ▸ List.mem_append_cons_self)
    show Config.ofLayers source members overrides = .ok c ↔ _
    rw [← toOption_eq_some_iff, Config.ofLayers_toOption source distinct.hasDistinctKeys
      (opened "logging").isTable fun part _ inner found =>
        ((opened part).part_isTable inner found).isOrdered,
      Config.configOf?_eq_some_iff source distinct tables opened]
    simp only [valueOr?_layered _ source (readable _) (pieces _ _)]

end Leaf

open Leaf (HasTables SetsLeaves Takes)

/-- Loading takes each leaf by itself from the environment if a variable sets it, else from the
document if it sets it, else from the defaults; it succeeds just if each value that is taken is of
the type of its leaf.  A value of the environment that would have to be cut inside a character is of
no type.  Without a file the same holds with an empty document. -/
theorem Config.load_takes_leaves {text : String} {members : List (String × Toml.Value)}
    {environment : List (String × String)} (path shown : String)
    (parsed : Toml.parse? text = some members) (tables : HasTables members)
    (sets : SetsLeaves environment) :
    Takes (load path (.file shown text.toUTF8) environment) members environment ∧
      Takes (loadFromEnvironment environment) [] environment ∧
        (∀ leaf : Leaf, keyPath? leaf.variableName = some leaf.path) ∧
          keyPath? pathVariable = none := by
  refine ⟨?_, ?_, ?_, rfl⟩
  · rw [load_of_parse? path shown environment parsed]
    exact Leaf.below_takes_leaves _ (Toml.parse?_isDistinct parsed) tables sets
  · exact Leaf.below_takes_leaves _ (.table List.nodup_nil nofun) nofun sets
  · intro leaf
    cases leaf <;> rfl

namespace Overridden

/-- A document with a leaf of the wrong type. -/
def document : String := "[logging]\nansi = 5\nformat = \"json\"\n"

def members : List (String × Toml.Value) :=
  [("logging", .table [("ansi", .integer 5), ("format", .string "json")])]

def environment : List (String × String) :=
  [("START_FLINK_CONFIG", "a.toml"),
    ("START_FLINK_CONTROL_PLANE__ENDPOINT_URL", "http://localhost:4566"),
    ("START_FLINK_LOGGING__ANSI", "true")]

theorem parse?_document : Toml.parse? document = some members := by cbv

theorem hasTables_members : HasTables members := by
  intro leaf v found
  cases leaf <;> cases found <;> exact ⟨_, rfl⟩

theorem setsLeaves_environment : SetsLeaves environment := by
  have texts : settingTexts environment =
      [(Leaf.endpointUrl.path, "http://localhost:4566"), (Leaf.ansi.path, "true")] := by
    decide +kernel
  refine ⟨?_, by rw [texts]; decide⟩
  rw [texts]
  exact List.forall_mem_cons.2 ⟨⟨.endpointUrl, rfl⟩, List.forall_mem_singleton.2 ⟨.ansi, rfl⟩⟩

end Overridden

open Overridden in
/-- The leaf of the wrong type does no harm, and its sibling in the document stays in force. -/
theorem Config.load_takes_leaves_of_overridden :
    Toml.parse? document = some members ∧ HasTables members ∧ SetsLeaves environment ∧
      load "a.toml" (.file "a.toml" document.toUTF8) environment =
        .ok ⟨⟨"info", .json, true⟩, ⟨some "http://localhost:4566"⟩⟩ ∧
      loadFromEnvironment environment =
        .ok ⟨⟨"info", .text, true⟩, ⟨some "http://localhost:4566"⟩⟩ := by
  have taken :=
    load_takes_leaves "a.toml" "a.toml" parse?_document hasTables_members setsLeaves_environment
  refine ⟨parse?_document, hasTables_members, setsLeaves_environment,
    (taken.1.1 _).2 fun leaf => ?_, (taken.2.1.1 _).2 fun leaf => ?_⟩
  · cases leaf <;> decide +kernel
  · cases leaf <;> decide +kernel

end StartOnReady
