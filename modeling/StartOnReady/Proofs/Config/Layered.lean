import StartOnReady.Config.Load
import StartOnReady.Proofs.Config.Reading
import StartOnReady.Proofs.Settings.Layers

/-!
# Configurations from layers

A configuration is read from three layers: the defaults, a document and the settings of the
environment.  `Config.ofLayers_toOption` gives it by what the layers have at the key of each part,
laid over each other.
-/

namespace StartOnReady

namespace Settings.Tree

variable {t : Tree}

theorem IsOrdered.hasDistinctKeys (h : t.IsOrdered) : t.HasDistinctKeys := by
  cases t with
  | table _ _ => exact Keyed.IsSorted.nodup_keys h
  | _ => trivial

theorem isOrdered_laid {lower upper : Option Tree} (l : ∀ t ∈ lower, t.IsOrdered)
    (u : ∀ t ∈ upper, t.IsOrdered) : ∀ t ∈ laid lower upper, t.IsOrdered := by
  cases upper with
  | none => exact l
  | some upper =>
    cases lower with
    | none => exact u
    | some lower =>
      rintro _ ⟨⟩
      exact (l lower rfl).merge (u upper rfl)

namespace IsTable

theorem fields? (h : IsTable t) : reading.fields? t = some fun key _ => t.member? key := by
  obtain ⟨_, members, rfl, -⟩ := h
  rfl

theorem logging? (h : IsTable t) : reading.logging? t =
    reading.loggingOf? (t.member? "filter") (t.member? "format") (t.member? "ansi") := by
  rw [Reading.logging?, h.fields?]
  rfl

theorem controlPlane? (h : IsTable t) :
    reading.controlPlane? t = reading.controlPlaneOf? (t.member? "endpoint_url") := by
  rw [Reading.controlPlane?, h.fields?]
  rfl

theorem config? (h : IsTable t) : reading.config? t =
    reading.configOf? (t.member? "logging") (t.member? "control_plane") := by
  rw [Reading.config?, h.fields?]
  rfl

end IsTable

end Settings.Tree

namespace Config

open Settings (Source Tree reading)
open Settings.Tree

theorem fromSettings_toOption_of_isTable {t : Tree} (path : List String) (h : IsTable t)
    (ordered : ∀ part ∈ parts, ∀ inner ∈ t.member? part, inner.IsOrdered) :
    (fromSettings path t).toOption =
      reading.configOf? (t.member? "logging") (t.member? "control_plane") := by
  rw [← h.config?]
  obtain ⟨source, members, rfl, sorted⟩ := h
  refine fromSettings_toOption path sorted.nodup_keys fun m known isPart => ?_
  exact (ordered m.1 isPart m.2 (Keyed.find?_of_mem sorted.nodup_keys known)).hasDistinctKeys

/-! ### The layers -/

theorem isTable_loggingSettings (c : LoggingConfig) : IsTable c.toSettings :=
  ⟨_, _, rfl, Keyed.isSorted_of_keys
    (show ["ansi", "filter", "format"].Pairwise (· < ·) by decide)⟩

theorem isTable_controlPlaneSettings (c : ControlPlaneConfig) : IsTable c.toSettings :=
  ⟨_, _, rfl, List.pairwise_singleton _ _⟩

theorem isTable_baseLayer : IsTable baseLayer :=
  ⟨_, _, rfl, Keyed.isSorted_of_keys
    (show ["control_plane", "logging"].Pairwise (· < ·) by decide)⟩

theorem isTable_of_mem_baseLayer {part : String} {inner : Tree}
    (h : baseLayer.member? part = some inner) : IsTable inner := by
  have member := Keyed.mem_of_find? h
  rcases List.mem_cons.1 member with first | later
  · cases first
    exact isTable_controlPlaneSettings {}
  · cases List.mem_singleton.1 later
    exact isTable_loggingSettings {}

/-- What the layers have at a key. -/
def layersAt (source : Source) (members : List (String × Toml.Value)) (overrides : Tree)
    (key : String) : Option Tree :=
  laid (laid (baseLayer.member? key) ((Keyed.find? key members).map (ofToml source)))
    (overrides.member? key)

theorem ofLayers_toOption (source : Source) {members : List (String × Toml.Value)}
    {overrides : Tree} (keys : (members.map Prod.fst).Nodup) (table : IsTable overrides)
    (ordered : ∀ part ∈ parts, ∀ inner ∈ overrides.member? part, inner.IsOrdered) :
    (ofLayers source members overrides).toOption =
      reading.configOf? (layersAt source members overrides "logging")
        (layersAt source members overrides "control_plane") := by
  have document := isTable_ofToml_table source members
  have lower := isTable_baseLayer.merge document
  have member (key : String) :
      ((baseLayer.merge (ofToml source (.table members))).merge overrides).member? key =
        layersAt source members overrides key := by
    rw [lower.member?_merge table, isTable_baseLayer.member?_merge document,
      member?_ofToml_table source keys, layersAt]
  have read := fromSettings_toOption_of_isTable [] (lower.merge table) fun part isPart => by
    rw [member]
    refine isOrdered_laid (isOrdered_laid ?_ ?_) (ordered part isPart)
    · exact fun inner base => (isTable_of_mem_baseLayer base).isOrdered
    · intro inner given
      obtain ⟨v, -, rfl⟩ := Option.map_eq_some_iff.1 given
      exact isOrdered_ofToml source v
  rw [member, member] at read
  rw [← read, ofLayers]
  cases fromSettings [] _ <;> rfl

/-! ### Files -/

theorem fromUTF8?_toUTF8 (s : String) : String.fromUTF8? s.toUTF8 = some s :=
  dif_pos s.isValidUTF8

/-- A file that holds a document is the middle layer. -/
theorem load_of_parse? (path shown : String) (environment : List (String × String))
    {text : String} {members : List (String × Toml.Value)}
    (parsed : Toml.parse? text = some members) :
    load path (.file shown text.toUTF8) environment =
      below environment (ofLayers (.file shown) members) := by
  show below environment (ofContent shown text.toUTF8) = _
  congr 1
  funext overrides
  rw [ofContent, fromUTF8?_toUTF8]
  simp only [parsed]

end Config

end StartOnReady
