import Mathlib
import StartOnReady.Proofs.Config.Leaves

/-!
# Text and file

The text of a document read directly and the same text in a file, without settings in the
environment, come to the same configuration or are both refused (`Config.load_agrees_ofText`).  The
one way in which they differ is a format that is given by a table: read directly, its one member
names the format, but in a file it is refused.  `Toml.wordReading` is the reading in which a format
is a word only; a file is read by it (`Config.ofLayers_eq_wordReading`).
-/

namespace StartOnReady

open Toml (Value)

/-- Whether an error says that a document cannot be read. -/
def ConfigError.IsParse : ConfigError → Prop
  | malformed | notText _ | unsuitable _ | setting _ => True
  | fileNotFound _ | cutSetting | invalid _ => False

/-- Whether two readings come to the same configuration, or both find that there is none to be
read. -/
inductive Config.Agree : (a b : Except ConfigError Config) → Prop
  | same (c : Config) : Agree (.ok c) (.ok c)
  | refused {e e' : ConfigError} (h : e.IsParse) (h' : e'.IsParse) : Agree (.error e) (.error e')

namespace Toml

/-- Whether a value is a table whose one member has the word for a format as its key and nothing
for its value. -/
def Value.IsFormatTable (v : Value) : Prop :=
  ∃ (format : LogFormat) (inner : Value), v = .table [(format.word, inner)] ∧
    (inner = .table [] ∨ inner = .array [] ∨ inner = .elements [])

/-- What a document has for the format: a member of the table for logging, or the second item of the
array. -/
def formatOf? (members : List (String × Value)) : Option Value := do
  let logging ← Keyed.find? "logging" members
  let piece ← reading.fields? logging
  piece "format" 1

/-- Whether a text is a document in which a format is given by a table. -/
def GivesFormatTable (text : String) : Prop :=
  ∃ members v, parse? text = some members ∧ formatOf? members = some v ∧ v.IsFormatTable

/-! ### Formats -/

/-- The reading in which a format is a word only. -/
def wordReading : Reading Value where
  text? := Leaf.filter.ofToml?
  format? := Leaf.format.ofToml?
  boolean? := Leaf.ansi.ofToml?
  endpoint? := Leaf.endpointUrl.ofToml?
  fields? := reading.fields?

theorem text?_eq : reading.text? = wordReading.text? := by
  funext v
  cases v <;> rfl

theorem boolean?_eq : reading.boolean? = wordReading.boolean? := by
  funext v
  cases v <;> rfl

theorem endpoint?_eq : reading.endpoint? = wordReading.endpoint? := by
  funext v
  cases v <;> rfl

theorem LogFormat.word_of_ofWord? {s : String} {format : LogFormat}
    (h : LogFormat.ofWord? s = some format) : s = format.word := by
  unfold LogFormat.ofWord? at h
  split at h
  next isText =>
    cases h
    exact isText
  next =>
    split at h
    next isJson =>
      cases h
      exact isJson
    next => cases h

theorem eq_empty_of_nothing {v : Value} (h : Decoder.nothing v = .ok ()) :
    v = .table [] ∨ v = .array [] ∨ v = .elements [] := by
  unfold Decoder.nothing at h
  split at h <;> first | cases h | skip
  next members => cases members <;> simp_all
  next items => cases items <;> simp_all
  next tables => cases tables <;> simp_all

theorem format?_of_not_table {v : Value} (h : ¬ v.IsFormatTable) :
    reading.format? v = wordReading.format? v := by
  cases v with
  | string s =>
    show (Decoder.choice.chosen _ _ s).toOption = LogFormat.ofWord? s
    unfold Decoder.choice.chosen
    cases LogFormat.ofWord? s <;> rfl
  | table members =>
    match members with
    | [] => rfl
    | [(word, inner)] =>
      show (Decoder.choice.chosen LogFormat.words LogFormat.ofWord? word >>= fun format =>
        Decoder.nothing inner >>= fun _ => .ok format).toOption = none
      unfold Decoder.choice.chosen
      cases isWord : LogFormat.ofWord? word with
      | none => rfl
      | some format =>
        cases empty : Decoder.nothing inner with
        | error _ => rfl
        | ok _ =>
          have same := LogFormat.word_of_ofWord? isWord
          exact absurd ⟨format, inner, same ▸ rfl, eq_empty_of_nothing empty⟩ h
    | _ :: _ :: _ => rfl
  | _ => rfl

theorem wordReading_format?_of_table {v : Value} (h : v.IsFormatTable) :
    wordReading.format? v = none := by
  obtain ⟨format, inner, rfl, -⟩ := h
  rfl

variable {v : Value} {members : List (String × Value)}

theorem logging?_eq_wordReading
    (h : ∀ piece ∈ reading.fields? v, ∀ f ∈ piece "format" 1, ¬ f.IsFormatTable) :
    reading.logging? v = wordReading.logging? v := by
  show (reading.fields? v).bind _ = (reading.fields? v).bind _
  cases known : reading.fields? v with
  | none => rfl
  | some piece =>
    refine Reading.loggingOf?_congr (by rw [text?_eq]) ?_ (by rw [boolean?_eq])
    cases given : piece "format" 1 with
    | none => rfl
    | some f => exact format?_of_not_table (h piece known f given)

theorem controlPlane?_eq_wordReading : reading.controlPlane? v = wordReading.controlPlane? v := by
  show (reading.fields? v).bind _ = (reading.fields? v).bind _
  simp only [Reading.controlPlaneOf?, endpoint?_eq]

theorem config?_eq_wordReading (h : ∀ f ∈ formatOf? members, ¬ f.IsFormatTable) :
    reading.config? (.table members) = wordReading.config? (.table members) := by
  have logging : Reading.valueOr? {} reading.logging? (Keyed.find? "logging" members) =
      Reading.valueOr? {} wordReading.logging? (Keyed.find? "logging" members) := by
    cases given : Keyed.find? "logging" members with
    | none => rfl
    | some v =>
      refine logging?_eq_wordReading fun piece known f isFormat => h f ?_
      rw [formatOf?, given]
      show (reading.fields? v).bind (· "format" 1) = some f
      rw [known]
      exact isFormat
  have controlPlane : reading.controlPlane? = wordReading.controlPlane? :=
    funext fun v => controlPlane?_eq_wordReading
  exact Reading.configOf?_congr logging (by rw [controlPlane])

theorem wordReading_config?_of_table {f : Value} (given : formatOf? members = some f)
    (h : f.IsFormatTable) : wordReading.config? (.table members) = none := by
  obtain ⟨v, isLogging, given⟩ := Option.bind_eq_some_iff.1 given
  obtain ⟨piece, known, isFormat⟩ := Option.bind_eq_some_iff.1 given
  have refused : wordReading.logging? v = none := by
    show (reading.fields? v).bind _ = none
    rw [known, Option.bind_some, Option.eq_none_iff_forall_ne_some]
    intro c read
    have format := (Reading.loggingOf?_eq_some_iff.1 read).2.1
    rw [isFormat] at format
    exact nomatch (wordReading_format?_of_table h).symm.trans format
  rw [Option.eq_none_iff_forall_ne_some]
  intro c read
  have logging : Reading.valueOr? {} wordReading.logging? (Keyed.find? "logging" members) = _ :=
    (Reading.configOf?_eq_some_iff.1 read).1
  rw [isLogging] at logging
  exact nomatch refused.symm.trans logging

end Toml

namespace Config

open Settings Settings.Tree

variable {source : Source} {v : Value}

/-! ### Parts -/

theorem valueOr?_map_ofToml (leaf : Leaf) (v? : Option Value) :
    Reading.valueOr? (leaf.get {}) leaf.read? (v?.map (ofToml source)) =
      Reading.valueOr? (leaf.get {}) leaf.ofToml? v? := by
  cases v? with
  | none => rfl
  | some v => exact leaf.read?_ofToml source v

/-- A field of a document over the defaults is read as if it stood alone. -/
theorem valueOr?_laid_base (leaf : Leaf) (v? : Option Value) :
    Reading.valueOr? (leaf.get {}) leaf.read?
        (laid (baseLayer.at? leaf.part leaf.key) (v?.map (ofToml source))) =
      Reading.valueOr? (leaf.get {}) leaf.ofToml? v? := by
  rw [leaf.valueOr?_laid, leaf.valueOr?_base]
  exact valueOr?_map_ofToml leaf v?

theorem logging?_merge_of_members {upper : Tree} (isTable : IsTable upper)
    {piece : String → Option Value}
    (member : ∀ key, upper.member? key = (piece key).map (ofToml source)) :
    Settings.reading.logging? ((LoggingConfig.toSettings {}).merge upper) =
      Toml.wordReading.loggingOf? (piece "filter") (piece "format") (piece "ansi") := by
  have base := isTable_loggingSettings {}
  rw [(base.merge isTable).logging?, base.member?_merge isTable, base.member?_merge isTable,
    base.member?_merge isTable, member, member, member]
  exact Reading.loggingOf?_congr (valueOr?_laid_base .filter _) (valueOr?_laid_base .format _)
    (valueOr?_laid_base .ansi _)

theorem logging?_ofItems (items : List Value) :
    Settings.reading.logging? (.sequence source (itemsOfToml source items)) =
      Toml.wordReading.loggingOf? items[0]? items[1]? items[2]? := by
  rw [itemsOfToml_eq_map]
  show Settings.reading.loggingOf? (items.map _)[0]? (items.map _)[1]? (items.map _)[2]? = _
  rw [List.getElem?_map, List.getElem?_map, List.getElem?_map]
  exact Reading.loggingOf?_congr (valueOr?_map_ofToml .filter _) (valueOr?_map_ofToml .format _)
    (valueOr?_map_ofToml .ansi _)

/-- What a document has for logging is read over the defaults as if it stood alone. -/
theorem logging?_merge (distinct : v.HasDistinctKeys) :
    Settings.reading.logging? ((LoggingConfig.toSettings {}).merge (ofToml source v)) =
      Toml.wordReading.logging? v := by
  cases v with
  | table members =>
    exact logging?_merge_of_members (isTable_ofToml_table source members)
      (member?_ofToml_table source distinct)
  | moment text =>
    exact logging?_merge_of_members (isTable_ofToml_moment source text)
      (member?_ofToml_moment source text)
  | array items => exact (congrArg _ (by rw [ofToml]; rfl)).trans (logging?_ofItems items)
  | elements items => exact (congrArg _ (by rw [ofToml]; rfl)).trans (logging?_ofItems items)
  | _ => rfl

theorem controlPlane?_merge_of_members {upper : Tree} (isTable : IsTable upper)
    {piece : String → Option Value}
    (member : ∀ key, upper.member? key = (piece key).map (ofToml source)) :
    Settings.reading.controlPlane? ((ControlPlaneConfig.toSettings {}).merge upper) =
      Toml.wordReading.controlPlaneOf? (piece "endpoint_url") := by
  have base := isTable_controlPlaneSettings {}
  rw [(base.merge isTable).controlPlane?, base.member?_merge isTable, member]
  exact Reading.controlPlaneOf?_congr (valueOr?_laid_base .endpointUrl _)

theorem controlPlane?_ofItems (items : List Value) :
    Settings.reading.controlPlane? (.sequence source (itemsOfToml source items)) =
      Toml.wordReading.controlPlaneOf? items[0]? := by
  rw [itemsOfToml_eq_map]
  show Settings.reading.controlPlaneOf? (items.map _)[0]? = _
  rw [List.getElem?_map]
  exact Reading.controlPlaneOf?_congr (valueOr?_map_ofToml .endpointUrl _)

theorem controlPlane?_merge (distinct : v.HasDistinctKeys) :
    Settings.reading.controlPlane? ((ControlPlaneConfig.toSettings {}).merge (ofToml source v)) =
      Toml.wordReading.controlPlane? v := by
  cases v with
  | table members =>
    exact controlPlane?_merge_of_members (isTable_ofToml_table source members)
      (member?_ofToml_table source distinct)
  | moment text =>
    exact controlPlane?_merge_of_members (isTable_ofToml_moment source text)
      (member?_ofToml_moment source text)
  | array items => exact (congrArg _ (by rw [ofToml]; rfl)).trans (controlPlane?_ofItems items)
  | elements items => exact (congrArg _ (by rw [ofToml]; rfl)).trans (controlPlane?_ofItems items)
  | _ => rfl

/-! ### Documents -/

/-- Below an empty environment a document is read as if there were no layers. -/
theorem ofLayers_eq_wordReading (source : Source) {members : List (String × Value)}
    (distinct : (Value.table members).IsDistinct) :
    (ofLayers source members (.table .environment [])).toOption =
      Toml.wordReading.config? (.table members) := by
  have empty (part : String) := isOpen_empty .environment part
  rw [ofLayers_toOption source distinct.hasDistinctKeys (empty "logging").isTable
    fun part _ inner found => ((empty part).part_isTable inner found).isOrdered]
  have logging : Reading.valueOr? {} Settings.reading.logging?
      (layersAt source members (.table .environment []) "logging") =
        Reading.valueOr? {} Toml.wordReading.logging? (Keyed.find? "logging" members) := by
    rw [layersAt]
    cases given : Keyed.find? "logging" members with
    | none => rfl
    | some v => exact logging?_merge (distinct.find? given).hasDistinctKeys
  have controlPlane : Reading.valueOr? {} Settings.reading.controlPlane?
      (layersAt source members (.table .environment []) "control_plane") =
        Reading.valueOr? {} Toml.wordReading.controlPlane?
          (Keyed.find? "control_plane" members) := by
    rw [layersAt]
    cases given : Keyed.find? "control_plane" members with
    | none => rfl
    | some v => exact controlPlane?_merge (distinct.find? given).hasDistinctKeys
  exact Reading.configOf?_congr logging controlPlane

section Agreement

variable {text : String} {members : List (String × Value)} {environment : List (String × String)}

theorem agree_of_toOption {a b : Except ConfigError Config} (same : a.toOption = b.toOption)
    (parseA : ∀ e, a = .error e → e.IsParse) (parseB : ∀ e, b = .error e → e.IsParse) :
    Agree a b := by
  cases a with
  | ok c =>
    rw [toOption_eq_some_iff.1 same.symm]
    exact .same c
  | error e =>
    cases b with
    | ok c => exact nomatch same
    | error e' => exact .refused (parseA e rfl) (parseB e' rfl)

theorem Agree.eq_ok {c : Config} {b : Except ConfigError Config} (h : Agree (.ok c) b) :
    b = .ok c := by
  cases h
  rfl

theorem ofText_of_parse? (parsed : Toml.parse? text = some members) :
    (ofText text).toOption = (fromToml members).toOption := by
  rw [ofText, parsed]
  cases read : fromToml members <;> simp only [read] <;> rfl

theorem ofText_isParse {e : ConfigError} (h : ofText text = .error e) : e.IsParse := by
  unfold ofText at h
  split at h
  · cases h
    trivial
  · split at h <;> cases h
    trivial

theorem ofLayers_isParse {overrides : Tree} {e : ConfigError}
    (h : ofLayers source members overrides = .error e) : e.IsParse := by
  unfold ofLayers at h
  dsimp only at h
  split at h <;> cases h
  trivial

theorem load_of_not_parse? (path shown : String) (none : settingTexts environment = [])
    (parsed : Toml.parse? text = .none) :
    load path (.file shown text.toUTF8) environment = .error .malformed := by
  show below environment (ofContent shown text.toUTF8) = _
  rw [below, ofEnvironment?, none]
  show ofContent shown text.toUTF8 _ = _
  rw [ofContent, fromUTF8?_toUTF8]
  simp only [parsed]

theorem load_of_no_settings (path shown : String) (none : settingTexts environment = [])
    (parsed : Toml.parse? text = some members) :
    load path (.file shown text.toUTF8) environment =
      ofLayers (.file shown) members (.table .environment []) := by
  rw [load_of_parse? path shown environment parsed, below, ofEnvironment?, none]
  rfl

/-- Reading a text directly and loading the file that holds it agree, unless a format is given by a
table; then the file is refused. -/
theorem load_agrees_ofText (path shown text : String) {environment : List (String × String)}
    (none : settingTexts environment = []) :
    (¬ Toml.GivesFormatTable text →
        Agree (ofText text) (load path (.file shown text.toUTF8) environment)) ∧
      (Toml.GivesFormatTable text →
        ∃ e, load path (.file shown text.toUTF8) environment = .error e ∧ e.IsParse) := by
  cases parsed : Toml.parse? text with
  | none =>
    rw [load_of_not_parse? path shown none parsed]
    refine ⟨fun _ => ?_, fun ⟨members, _, isParsed, _⟩ => nomatch parsed.symm.trans isParsed⟩
    rw [ofText, parsed]
    exact .refused trivial trivial
  | some members =>
    have distinct := Toml.parse?_isDistinct parsed
    have file := ofLayers_eq_wordReading (.file shown) distinct
    rw [load_of_no_settings path shown none parsed]
    refine ⟨fun words => ?_, fun ⟨members', f, isParsed, given, isTable⟩ => ?_⟩
    · refine agree_of_toOption ?_ (fun e => ofText_isParse) fun e => ofLayers_isParse
      rw [file, ofText_of_parse? parsed, fromToml_toOption distinct]
      exact Toml.config?_eq_wordReading fun f given isTable =>
        words ⟨members, f, parsed, given, isTable⟩
    · obtain rfl : members = members' := Option.some.inj (parsed.symm.trans isParsed)
      rw [Toml.wordReading_config?_of_table given isTable] at file
      cases loaded : ofLayers (.file shown) members (.table .environment []) with
      | ok c =>
        rw [loaded] at file
        exact nomatch file
      | error e => exact ⟨e, rfl, ofLayers_isParse loaded⟩

/-- A document in which the format is a table. -/
def tableDocument : String := "[logging]\nformat = \x7b json = \x7b\x7d \x7d\n"

/-- A document in which the format is the second item of an array. -/
def arrayDocument : String := "logging = [\"debug\", \"json\"]\n"

theorem parse?_tableDocument : Toml.parse? tableDocument =
    some [("logging", .table [("format", .table [("json", .table [])])])] := by cbv

theorem parse?_arrayDocument : Toml.parse? arrayDocument =
    some [("logging", .array [.string "debug", .string "json"])] := by cbv

theorem ofText_arrayDocument : ofText arrayDocument = .ok ⟨⟨"debug", .json, false⟩, {}⟩ := by
  rw [ofText, parse?_arrayDocument]
  rfl

/-- An array that lists the fields in order is read alike. -/
theorem load_agrees_ofText_of_array : settingTexts [("PATH", "/bin")] = [] ∧
    ofText arrayDocument = .ok ⟨⟨"debug", .json, false⟩, {}⟩ ∧
    load "a.toml" (.file "a.toml" arrayDocument.toUTF8) [("PATH", "/bin")] =
      .ok ⟨⟨"debug", .json, false⟩, {}⟩ := by
  have none : settingTexts [("PATH", "/bin")] = [] := by decide +kernel
  have words : ¬ Toml.GivesFormatTable arrayDocument := by
    rintro ⟨members, f, parsed, given, format, inner, rfl, -⟩
    obtain rfl := Option.some.inj (parse?_arrayDocument.symm.trans parsed)
    have isWord : Toml.formatOf? [("logging", .array [.string "debug", .string "json"])] =
        some (.string "json") := rfl
    exact nomatch isWord.symm.trans given
  have agree := (load_agrees_ofText "a.toml" "a.toml" arrayDocument none).1 words
  rw [ofText_arrayDocument] at agree
  exact ⟨none, ofText_arrayDocument, agree.eq_ok⟩

/-- Read directly, a table is a format; from a file it is none. -/
theorem tableDocument_disagrees :
    ¬ ∀ (path shown text : String) (environment : List (String × String)),
      settingTexts environment = [] →
        Agree (ofText text) (load path (.file shown text.toUTF8) environment) := by
  intro agree
  have read : ofText tableDocument = .ok ⟨⟨"info", .json, false⟩, {}⟩ := by
    rw [ofText, parse?_tableDocument]
    rfl
  have loaded : load "a.toml" (.file "a.toml" tableDocument.toUTF8) [] = .error
      (.setting ⟨.wrongType "map" "unit", ["logging", "format", "json"], .file "a.toml"⟩) := by
    rw [load_of_no_settings "a.toml" "a.toml" rfl parse?_tableDocument]
    cbv
  have same := agree "a.toml" "a.toml" tableDocument [] rfl
  rw [read, loaded] at same
  cases same

end Agreement

end Config

end StartOnReady
