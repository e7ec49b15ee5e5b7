import Mathlib.Data.List.TakeWhile
import StartOnReady.Proofs.Settings.Layers
import StartOnReady.Proofs.Settings.Readable
import StartOnReady.Proofs.Startup.Cuts
import StartOnReady.Startup

/-!
# The gate of a start

A start goes on to its first event just with a configuration that was loaded and is valid, and then
logs by it (`Start.GoesOn`).  Any other start logs one error by the defaults and ends with code 1
(`Start.Fails`); `Surroundings.start_gate` says so of every start in which no text would have to be
cut inside a character.  A start in which one would is halted without a record.
`Surroundings.IsCut` says when that is, and `Surroundings.IsPlain` which texts keep it from being.
-/

namespace StartOnReady

/-! ### Blanks -/

namespace Text

theorem trimChars_eq_nil_iff {cs : List Char} :
    trimChars cs = [] ↔ ∀ c ∈ cs, isBlank c = true := by
  rw [trimChars, List.reverse_eq_nil_iff, List.dropWhile_eq_nil_iff]
  constructor
  · intro blank
    have front : cs.dropWhile isBlank = [] := by
      cases rest : cs.dropWhile isBlank with
      | nil => rfl
      | cons c behind =>
        have more : cs.dropWhile isBlank ≠ [] := rest ▸ List.cons_ne_nil c behind
        have stops := List.head_dropWhile_not isBlank more
        simp only [rest, List.head_cons] at stops
        have member : c ∈ (cs.dropWhile isBlank).reverse := by simp [rest]
        exact absurd (stops.symm.trans (blank c member)) Bool.false_ne_true
    exact List.dropWhile_eq_nil_iff.1 front
  · exact fun blank c member =>
      blank c ((List.dropWhile_sublist isBlank).subset (List.mem_reverse.1 member))

theorem trim_eq_empty_iff {s : String} : trim s = "" ↔ ∀ c ∈ s.toList, isBlank c = true := by
  rw [← trimChars_eq_nil_iff, trim]
  exact String.ofList_eq_empty_iff

end Text

/-! ### Valid configurations -/

/-- Whether a filter holds more than blanks, and an endpoint is one for HTTP. -/
structure Config.IsValid (c : Config) : Prop where
  filter : ∃ ch ∈ c.logging.filter.toList, Text.isBlank ch = false
  endpoint : ∀ url ∈ c.controlPlane.endpointUrl,
    "http://".toList <+: url.toList ∨ "https://".toList <+: url.toList

theorem LoggingConfig.validate_eq_ok_iff {c : LoggingConfig} :
    c.validate = .ok () ↔ ∃ ch ∈ c.filter.toList, Text.isBlank ch = false := by
  have empty_iff := Text.trim_eq_empty_iff (s := c.filter)
  unfold validate
  split
  next empty =>
    refine iff_of_false nofun fun ⟨ch, member, more⟩ => ?_
    exact Bool.false_ne_true (more.symm.trans (empty_iff.1 empty ch member))
  next more =>
    refine iff_of_true rfl (Decidable.byContradiction fun none => more (empty_iff.2 ?_))
    intro ch member
    rw [← Bool.not_eq_false]
    exact fun notBlank => none ⟨ch, member, notBlank⟩

theorem ControlPlaneConfig.validate_eq_ok_iff {c : ControlPlaneConfig} :
    c.validate = .ok () ↔ ∀ url ∈ c.endpointUrl,
      "http://".toList <+: url.toList ∨ "https://".toList <+: url.toList := by
  unfold validate
  cases c.endpointUrl with
  | none => exact iff_of_true rfl nofun
  | some url =>
    simp only [Text.startsWith, Bool.or_eq_true, List.isPrefixOf_iff_prefix, Option.mem_some_iff,
      forall_eq']
    split
    next http => exact iff_of_true rfl http
    next other => exact iff_of_false nofun other

theorem Config.validate_eq_ok_iff {c : Config} : c.validate = .ok () ↔ c.IsValid := by
  have both : c.validate = .ok () ↔
      c.logging.validate = .ok () ∧ c.controlPlane.validate = .ok () := by
    unfold validate
    cases c.logging.validate with
    | error fault => exact iff_of_false nofun nofun
    | ok _ => exact (and_iff_right rfl).symm
  rw [both, LoggingConfig.validate_eq_ok_iff, ControlPlaneConfig.validate_eq_ok_iff]
  exact ⟨fun ⟨filter, endpoint⟩ => ⟨filter, endpoint⟩, fun h => ⟨h.filter, h.endpoint⟩⟩

/-! ### Consoles -/

namespace LoggingConfig

open Log (Console Filter)

variable {c : LoggingConfig} {override : Option String} {console : Console}

/-- Whether a console prints as a configuration says, save that the filter of the variable wins if
all of it can be read. -/
structure Prints (c : LoggingConfig) (override : Option String) (console : Console) : Prop where
  text : c.format = .text → console.layout = .text c.ansi
  json : c.format = .json → console.layout = .json
  filter : (∃ s, override = some s ∧ Filter.parse s = .ok console.filter) ∨
    ((∀ s, override = some s → Filter.parse s = .error .form) ∧
      Filter.ofText c.filter = .ok console.filter)

/-- Whether a filter that is read for a configuration would have to be cut inside a character. -/
def IsCut (c : LoggingConfig) (override : Option String) : Prop :=
  (∃ s, override = some s ∧ Filter.parse s = .error .place) ∨
    ((∀ s, override = some s → Filter.parse s = .error .form) ∧
      Filter.ofText c.filter = .error .place)

theorem effectiveFilter_of_form (passed : ∀ s, override = some s → Filter.parse s = .error .form) :
    c.effectiveFilter override = (Filter.ofText c.filter).toOption := by
  cases override with
  | none => rfl
  | some s =>
    unfold effectiveFilter
    rw [Option.map_some, passed s rfl]

theorem IsCut.ofConfig?_eq_none (h : c.IsCut override) : Console.ofConfig? c override = none := by
  rcases h with ⟨s, rfl, read⟩ | ⟨passed, read⟩
  · unfold Console.ofConfig? effectiveFilter
    rw [Option.map_some, read]
    rfl
  · rw [Console.ofConfig?, effectiveFilter_of_form passed, read]
    rfl

theorem Prints.layout_eq (h : c.Prints override console) : console.layout = c.layout := by
  unfold LoggingConfig.layout
  split
  next isText => exact h.text isText
  next isJson => exact h.json isJson

theorem Prints.ofConfig?_eq_some (h : c.Prints override console) :
    Console.ofConfig? c override = some console := by
  obtain ⟨filter, layout⟩ := console
  obtain rfl : layout = c.layout := h.layout_eq
  obtain ⟨s, rfl, read⟩ | ⟨passed, read⟩ := h.filter
  · unfold Console.ofConfig? effectiveFilter
    rw [Option.map_some, read]
    rfl
  · rw [Console.ofConfig?, effectiveFilter_of_form passed, read]
    rfl

theorem isCut_or_prints (c : LoggingConfig) (override : Option String) :
    c.IsCut override ∨ ∃ console, c.Prints override console := by
  have text : c.format = .text → c.layout = .text c.ansi := fun isText => by rw [layout, isText]
  have json : c.format = .json → c.layout = .json := fun isJson => by rw [layout, isJson]
  have own (passed : ∀ s, override = some s → Filter.parse s = .error .form) :
      c.IsCut override ∨ ∃ console, c.Prints override console := by
    cases read : Filter.ofText c.filter with
    | error e =>
      cases (Filter.ofText_eq_error read).1
      exact Or.inl (Or.inr ⟨passed, read⟩)
    | ok filter => exact Or.inr ⟨⟨filter, c.layout⟩, text, json, Or.inr ⟨passed, read⟩⟩
  cases override with
  | none => exact own nofun
  | some s =>
    cases read : Filter.parse s with
    | ok filter => exact Or.inr ⟨⟨filter, c.layout⟩, text, json, Or.inl ⟨s, rfl, read⟩⟩
    | error e =>
      cases e with
      | place => exact Or.inl (Or.inl ⟨s, rfl, read⟩)
      | form =>
        refine own fun s' same => ?_
        cases same
        exact read

/-- Plain filters are not cut inside a character. -/
theorem not_isCut_of_plain (given : ∀ s, override = some s → Filter.IsPlain s)
    (own : Filter.IsPlain c.filter) : ¬ c.IsCut override := by
  rintro (⟨s, isGiven, cut⟩ | ⟨-, cut⟩)
  · exact Filter.parse_ne_place (given s isGiven) cut
  · exact Filter.ofText_ne_place own cut

end LoggingConfig

/-! ### What a start finds -/

namespace Surroundings

variable {s : Surroundings} {c : Config}

/-- Whether a configuration is loaded, from the file that the variable names or without one. -/
def Loads (s : Surroundings) (loaded : Except ConfigError Config) : Prop :=
  (∃ path, s.lookup? "START_FLINK_CONFIG" = some path ∧
      Config.load path (s.locate path) s.environment = loaded) ∨
    (s.lookup? "START_FLINK_CONFIG" = none ∧
      Config.loadFromEnvironment s.environment = loaded)

/-- Whether a start may go on with a configuration. -/
def Accepts (s : Surroundings) (c : Config) : Prop := s.Loads (.ok c) ∧ c.IsValid

/-- Why a start may not go on: nothing was loaded, or what was loaded is not valid. -/
inductive Refuses (s : Surroundings) : String → Prop
  | fileNotLoaded {path : String} {e : ConfigError}
      (named : s.lookup? "START_FLINK_CONFIG" = some path) (failed : s.Loads (.error e)) :
      Refuses s ("Failed to load config from " ++ Text.quotedPath path ++ ": " ++ e.message)
  | notLoaded {e : ConfigError} (unnamed : s.lookup? "START_FLINK_CONFIG" = none)
      (failed : s.Loads (.error e)) :
      Refuses s ("Failed to load config from environment: " ++ e.message)
  | emptyFilter {c : Config} (loaded : s.Loads (.ok c))
      (blank : ∀ ch ∈ c.logging.filter.toList, Text.isBlank ch = true) :
      Refuses s ("Configuration validation failed: Configuration validation failed: " ++
        "logging.filter cannot be empty")
  | endpointScheme {c : Config} {url : String} (loaded : s.Loads (.ok c))
      (filled : ∃ ch ∈ c.logging.filter.toList, Text.isBlank ch = false)
      (given : c.controlPlane.endpointUrl = some url) (http : ¬ "http://".toList <+: url.toList)
      (https : ¬ "https://".toList <+: url.toList) :
      Refuses s ("Configuration validation failed: Configuration validation failed: " ++
        "control_plane.endpoint_url must start with http:// or https://, got " ++ Text.quoted url)

/-- Whether records are logged by a configuration: the accepted one, or the defaults. -/
def LogsBy (s : Surroundings) (logging : LoggingConfig) : Prop :=
  (∃ c, s.Accepts c ∧ logging = c.logging) ∨
    ((∀ c, ¬ s.Accepts c) ∧ logging = ⟨"info", .text, false⟩)

/-- Whether a start would have to cut a setting or a filter inside a character. -/
def IsCut (s : Surroundings) : Prop :=
  s.Loads (.error .cutSetting) ∨
    ∃ logging, s.LogsBy logging ∧ logging.IsCut (s.lookup? "RUST_LOG")

/-- Whether the texts of a start are plain: in a setting each character in front of a backslash is
one of ASCII, and no directive of a filter has both a blank in front and characters beyond ASCII. -/
structure IsPlain (s : Surroundings) : Prop where
  settings : ∀ entry ∈ s.environment, (Settings.keyPath? entry.1).isSome →
    Settings.EscapesBehindAscii entry.2.toList
  override : ∀ text, s.lookup? "RUST_LOG" = some text → Log.Filter.IsPlain text
  filter : ∀ c, s.Accepts c → Log.Filter.IsPlain c.logging.filter

theorem loads_iff {loaded : Except ConfigError Config} : s.Loads loaded ↔ s.load = loaded := by
  unfold Loads load pathVariable
  cases s.lookup? "START_FLINK_CONFIG" <;> simp

theorem Loads.unique {c' : Config} (h : s.Loads (.ok c)) (h' : s.Loads (.ok c')) : c' = c :=
  Except.ok.inj ((loads_iff.1 h').symm.trans (loads_iff.1 h))

/-- A setting is all that can be cut while a configuration is loaded. -/
theorem below_ne_cutSetting {environment : List (String × String)}
    {read : Settings.Tree → Except ConfigError Config}
    (readable : (Settings.ofEnvironment? environment).isSome)
    (uncut : ∀ overrides, read overrides ≠ .error .cutSetting) :
    Config.below environment read ≠ .error .cutSetting := by
  obtain ⟨overrides, all⟩ := Option.isSome_iff_exists.1 readable
  rw [Config.below, all]
  exact uncut overrides

theorem ofLayers_ne_cutSetting (source : Settings.Source) (members : List (String × Toml.Value))
    (overrides : Settings.Tree) :
    Config.ofLayers source members overrides ≠ .error .cutSetting := by
  unfold Config.ofLayers
  dsimp only
  split <;> nofun

theorem ofContent_ne_cutSetting (shown : String) (content : ByteArray)
    (overrides : Settings.Tree) :
    Config.ofContent shown content overrides ≠ .error .cutSetting := by
  unfold Config.ofContent
  split
  next => nofun
  next =>
    split
    next => nofun
    next => exact ofLayers_ne_cutSetting _ _ _

theorem load_ne_cutSetting (readable : (Settings.ofEnvironment? s.environment).isSome) :
    s.load ≠ .error .cutSetting := by
  have fromEnvironment : Config.loadFromEnvironment s.environment ≠ .error .cutSetting :=
    below_ne_cutSetting readable fun _ => ofLayers_ne_cutSetting _ _ _
  unfold load
  split
  next path _ =>
    unfold Config.load
    split
    next => nofun
    next => exact fromEnvironment
    next => exact below_ne_cutSetting readable fun _ => ofContent_ne_cutSetting _ _ _
  next => exact fromEnvironment

/-- In plain texts nothing is cut inside a character. -/
theorem IsPlain.not_isCut (plain : s.IsPlain) : ¬ s.IsCut := by
  have readable : (Settings.ofEnvironment? s.environment).isSome := by
    refine Settings.Tree.isSome_ofEnvironment?_iff.2 fun entry given => ?_
    obtain ⟨pair, known, isPath⟩ := List.mem_filterMap.1 given
    obtain ⟨path, keyed, rfl⟩ := Option.map_eq_some_iff.1 isPath
    exact Settings.Tree.isSome_ofText? (plain.settings pair known (Option.isSome_of_mem keyed))
  rintro (loads | ⟨logging, ⟨c, accepted, rfl⟩ | ⟨-, rfl⟩, cut⟩)
  · exact load_ne_cutSetting readable (loads_iff.1 loads)
  · exact LoggingConfig.not_isCut_of_plain plain.override (plain.filter c accepted) cut
  · have ascii : Log.Filter.IsPlain "info" := Log.Filter.isPlain_of_ascii (by decide)
    exact LoggingConfig.not_isCut_of_plain plain.override ascii cut

end Surroundings

/-! ### What a start comes to -/

namespace Start

/-- The record of an error that ends a start. -/
def fatalRecord (text : String) : Log.Record := ⟨.error, "Fatal error: " ++ text, [], none⟩

/-- The records of how the receiving of events ends. -/
def endRecords : Except String Unit → List Log.Record
  | .ok () => []
  | .error reason => [fatalRecord ("Lambda runtime error: " ++ reason)]

def endCode : Except String Unit → UInt8
  | .ok () => 0
  | .error _ => 1

/-- The name of a format in the first record. -/
def formatName : LogFormat → String
  | .text => "Text"
  | .json => "Json"

/-- Whether a start goes on to its first event with a configuration and logs by it. -/
structure GoesOn (start : Start) (c : Config) (override : Option String)
    (served : Except String Unit) (found : Service.SharedConfig) : Prop where
  console : c.logging.Prints override start.console
  records : start.records =
    ⟨.info, "Cold start", [.quoted "version" "0.1.0", .plain "config_hash" c.fingerprint,
      .plain "log_format" (formatName c.logging.format)], none⟩ ::
    (c.controlPlane.endpointUrl.toList.map fun url =>
      ⟨.info, "Using control-plane endpoint override " ++ url, [], none⟩) ++
    ⟨.info, "Event handler initialized", [], none⟩ :: endRecords served
  plane : start.plane = some (Service.plane c.controlPlane.endpointUrl found)
  exitCode : start.exitCode = endCode served

/-- Whether a start fails with a text: it logs one error by the defaults and makes no plane. -/
structure Fails (start : Start) (override : Option String) (text : String) : Prop where
  console : LoggingConfig.Prints ⟨"info", .text, false⟩ override start.console
  records : start.records = [fatalRecord text]
  plane : start.plane = none
  exitCode : start.exitCode = 1

end Start

namespace Surroundings

open Start (endCode endRecords)

variable {s : Surroundings} {c : Config} {served : Except String Unit}
  {found : Service.SharedConfig} {console : Log.Console}

theorem configuration_of_accepts (h : s.Accepts c) : s.configuration = .ok c := by
  rw [configuration, loads_iff.1 h.1]
  simp only [Config.validate_eq_ok_iff.2 h.2]

theorem start_of_accepts (accepted : s.Accepts c)
    (prints : c.logging.Prints (s.lookup? "RUST_LOG") console) :
    (s.start served found).GoesOn c (s.lookup? "RUST_LOG") served found := by
  have started : s.start served found = ⟨console, c.startRecords ++ endRecords served,
      some (Service.plane c.controlPlane.endpointUrl found), endCode served⟩ := by
    rw [start, configuration_of_accepts accepted]
    simp only [withConsole, filterVariable, prints.ofConfig?_eq_some]
    cases served with
    | ok _ => rw [endRecords, List.append_nil]; rfl
    | error reason => rfl
  rw [started]
  refine ⟨prints, ?_, rfl, rfl⟩
  have format : c.logging.format.title = Start.formatName c.logging.format := by
    cases c.logging.format <;> rfl
  unfold Config.startRecords Records.coldStart
  rw [format]
  cases c.controlPlane.endpointUrl <;> rfl

/-- The texts for what is not valid. -/
theorem refuses_of_validate_eq_error {fault : ConfigFault} (loaded : s.Loads (.ok c))
    (checked : c.validate = .error fault) : s.Refuses (StartError.invalid fault).message := by
  unfold Config.validate at checked
  by_cases filled : ∃ ch ∈ c.logging.filter.toList, Text.isBlank ch = false
  · rw [LoggingConfig.validate_eq_ok_iff.2 filled] at checked
    have plane : c.controlPlane.validate = .error fault := checked
    unfold ControlPlaneConfig.validate at plane
    split at plane
    next => cases plane
    next url given =>
      split at plane
      next => cases plane
      next other =>
        cases plane
        simp only [Text.startsWith, Bool.or_eq_true, List.isPrefixOf_iff_prefix, not_or] at other
        exact .endpointScheme loaded filled given other.1 other.2
  · have blank : ∀ ch ∈ c.logging.filter.toList, Text.isBlank ch = true := by
      intro ch member
      rw [← Bool.not_eq_false]
      exact fun notBlank => filled ⟨ch, member, notBlank⟩
    rw [LoggingConfig.validate, if_pos (Text.trim_eq_empty_iff.2 blank)] at checked
    cases checked
    exact .emptyFilter loaded blank

theorem exists_refuses (refused : ∀ c, ¬ s.Accepts c) :
    ∃ e, s.Refuses e.message ∧ s.configuration = .error e ∧
      ∀ path, e = .notLoaded path .cutSetting → s.Loads (.error .cutSetting) := by
  unfold configuration
  cases loaded : s.load with
  | error e' =>
    refine ⟨_, ?_, rfl, ?_⟩
    · cases named : s.lookup? "START_FLINK_CONFIG" with
      | none =>
        rw [pathVariable, named]
        exact .notLoaded named (loads_iff.2 loaded)
      | some path =>
        rw [pathVariable, named]
        exact .fileNotLoaded named (loads_iff.2 loaded)
    · rintro path ⟨⟩
      exact loads_iff.2 loaded
  | ok c =>
    cases checked : c.validate with
    | ok _ => exact absurd ⟨loads_iff.2 loaded, Config.validate_eq_ok_iff.1 checked⟩ (refused c)
    | error fault =>
      refine ⟨.invalid fault, refuses_of_validate_eq_error (loads_iff.2 loaded) checked, ?_, nofun⟩
      simp only [checked]

theorem start_of_refused (refused : ∀ c, ¬ s.Accepts c) (whole : ¬ s.Loads (.error .cutSetting))
    (prints : LoggingConfig.Prints ⟨"info", .text, false⟩ (s.lookup? "RUST_LOG") console) :
    ∃ text, s.Refuses text ∧ (s.start served found).Fails (s.lookup? "RUST_LOG") text := by
  obtain ⟨e, refuses, configured, uncut⟩ := exists_refuses refused
  refine ⟨e.message, refuses, ?_⟩
  have started : s.start served found = ⟨console, [Records.fatal e], none, 1⟩ := by
    unfold start
    rw [configured]
    split
    next path isError =>
      cases isError
      exact absurd (uncut _ rfl) whole
    next e' _ isError =>
      cases isError
      have console := prints.ofConfig?_eq_some
      simp only [withConsole, filterVariable]
      rw [show Log.Console.ofConfig? {} (s.lookup? "RUST_LOG") = _ from console]
    next c isOk => cases isOk
  rw [started]
  exact ⟨prints, rfl, rfl, rfl⟩

theorem start_of_isCut (cut : s.IsCut) : s.start served found = .halted := by
  rcases cut with loads | ⟨logging, ⟨c, accepted, rfl⟩ | ⟨refused, rfl⟩, cut⟩
  · rw [start, configuration, loads_iff.1 loads]
  · rw [start, configuration_of_accepts accepted]
    simp only [withConsole, filterVariable, cut.ofConfig?_eq_none]
  · obtain ⟨e, -, configured, -⟩ := exists_refuses refused
    have none := cut.ofConfig?_eq_none
    unfold start
    rw [configured]
    split
    next => rfl
    next =>
      simp only [withConsole, filterVariable]
      rw [show Log.Console.ofConfig? {} (s.lookup? "RUST_LOG") = _ from none]
    next c isOk => cases isOk

/-- A start that cuts no text goes on with the configuration that was loaded, if it is valid, and
logs by it.  In every other case it logs one error by the defaults and ends with code 1, and there
is no plane to handle events on.  Plain texts are not cut; a start that has to cut one ends with
code 101 and no record. -/
theorem start_gate (s : Surroundings) (served : Except String Unit)
    (found : Service.SharedConfig) :
    let start := s.start served found
    (start.plane.isSome ↔ ¬ s.IsCut ∧ ∃ c, s.Accepts c) ∧
    (¬ s.IsCut →
      (∀ c, s.Accepts c → start.GoesOn c (s.lookup? "RUST_LOG") served found) ∧
      ((∀ c, ¬ s.Accepts c) →
        ∃ text, s.Refuses text ∧ start.Fails (s.lookup? "RUST_LOG") text)) ∧
    (s.IsPlain → ¬ s.IsCut) ∧
    (s.IsCut → start.records = [] ∧ start.plane = none ∧ start.exitCode = 101) := by
  intro start
  have goesOn (whole : ¬ s.IsCut) (c : Config) (accepted : s.Accepts c) :
      start.GoesOn c (s.lookup? "RUST_LOG") served found := by
    rcases c.logging.isCut_or_prints (s.lookup? "RUST_LOG") with cut | ⟨console, prints⟩
    · exact absurd (Or.inr ⟨c.logging, Or.inl ⟨c, accepted, rfl⟩, cut⟩) whole
    · exact start_of_accepts accepted prints
  have fails (whole : ¬ s.IsCut) (refused : ∀ c, ¬ s.Accepts c) :
      ∃ text, s.Refuses text ∧ start.Fails (s.lookup? "RUST_LOG") text := by
    rcases LoggingConfig.isCut_or_prints ⟨"info", .text, false⟩ (s.lookup? "RUST_LOG") with
      cut | ⟨console, prints⟩
    · exact absurd (Or.inr ⟨_, Or.inr ⟨refused, rfl⟩, cut⟩) whole
    · exact start_of_refused refused (fun loads => whole (Or.inl loads)) prints
  have halts (cut : s.IsCut) : start = .halted := start_of_isCut cut
  refine ⟨?_, fun whole => ⟨goesOn whole, fails whole⟩, IsPlain.not_isCut, fun cut => ?_⟩
  · by_cases cut : s.IsCut
    · rw [halts cut]
      exact iff_of_false Bool.false_ne_true fun h => h.1 cut
    · by_cases accepted : ∃ c, s.Accepts c
      · obtain ⟨c, accepts⟩ := accepted
        rw [(goesOn cut c accepts).plane]
        exact iff_of_true rfl ⟨cut, c, accepts⟩
      · obtain ⟨text, -, failed⟩ := fails cut fun c accepts => accepted ⟨c, accepts⟩
        rw [failed.plane]
        exact iff_of_false Bool.false_ne_true fun h => accepted h.2
  · rw [halts cut]
    exact ⟨rfl, rfl, rfl⟩

namespace Overrides

/-- A start with an endpoint and a format of its own. -/
def overriding : Surroundings :=
  ⟨[("RUST_LOG", "start_flink=debug"),
    ("START_FLINK_CONTROL_PLANE__ENDPOINT_URL", "http://localhost:4566"),
    ("START_FLINK_LOGGING__FORMAT", "json")], fun _ => .missing⟩

/-- What it is started with. -/
def overridden : Config := ⟨⟨"info", .json, false⟩, ⟨some "http://localhost:4566"⟩⟩

/-- A start with a filter that is blank. -/
def blank : Surroundings :=
  ⟨[("START_FLINK_LOGGING__FILTER", " "), ("START_FLINK_LOGGING__FORMAT", "json")],
    fun _ => .missing⟩

theorem loads_overriding : overriding.Loads (.ok overridden) := loads_iff.2 (by decide +kernel)

theorem loads_blank : blank.Loads (.ok ⟨⟨"", .json, false⟩, {}⟩) :=
  loads_iff.2 (by decide +kernel)

theorem accepts_overriding : overriding.Accepts overridden := by
  refine ⟨loads_overriding, ⟨'i', by decide, by decide⟩, ?_⟩
  rintro url ⟨⟩
  exact Or.inl (by decide)

theorem rejects_blank (c : Config) : ¬ blank.Accepts c := by
  rintro ⟨loads, ⟨ch, member, -⟩, -⟩
  rw [loads_blank.unique loads] at member
  exact absurd member (by simp)

theorem lookup?_overriding : overriding.lookup? "RUST_LOG" = some "start_flink=debug" := rfl

theorem lookup?_blank : blank.lookup? "RUST_LOG" = none := rfl

theorem console_overriding {console : Log.Console}
    (prints : overridden.logging.Prints (overriding.lookup? "RUST_LOG") console) :
    console = ⟨⟨[{ source := some "start_flink", threshold := some .debug }]⟩, .json⟩ := by
  rw [lookup?_overriding] at prints
  have shown := prints.ofConfig?_eq_some
  have filter : Log.Console.ofConfig? overridden.logging (some "start_flink=debug") =
      some ⟨⟨[{ source := some "start_flink", threshold := some .debug }]⟩, .json⟩ := rfl
  exact Option.some.inj (shown.symm.trans filter)

theorem console_blank {console : Log.Console}
    (prints : LoggingConfig.Prints ⟨"info", .text, false⟩ (blank.lookup? "RUST_LOG") console) :
    console = ⟨⟨[{ threshold := some .info }]⟩, .text false⟩ := by
  rw [lookup?_blank] at prints
  have shown := prints.ofConfig?_eq_some
  have filter : Log.Console.ofConfig? ⟨"info", .text, false⟩ none =
      some ⟨⟨[{ threshold := some .info }]⟩, .text false⟩ := rfl
  exact Option.some.inj (shown.symm.trans filter)

theorem isPlain_overriding : overriding.IsPlain := by
  have unescaped : ∀ entry ∈ overriding.environment, '\\' ∉ entry.2.toList := by simp [overriding]
  refine ⟨fun entry given _ => .of_notMem (unescaped entry given), ?_, ?_⟩
  · intro text given
    rw [lookup?_overriding] at given
    cases given
    exact Log.Filter.isPlain_of_ascii (by decide)
  · intro c accepts
    rw [loads_overriding.unique accepts.1]
    exact Log.Filter.isPlain_of_ascii (by decide)

theorem isPlain_blank : blank.IsPlain := by
  have unescaped : ∀ entry ∈ blank.environment, '\\' ∉ entry.2.toList := by simp [blank]
  refine ⟨fun entry given _ => .of_notMem (unescaped entry given), ?_,
    fun c accepts => absurd accepts (rejects_blank c)⟩
  intro text given
  rw [lookup?_blank] at given
  cases given

end Overrides

open Overrides in
/-- The one start goes on until no event can be received, and the other fails; its format has no
part in how. -/
theorem start_gate_of_overrides :
    (overriding.IsPlain ∧ (overriding.start (.error "no connection")).plane.isSome ∧
      (overriding.start (.error "no connection")).exitCode = 1 ∧
      (overriding.start (.error "no connection")).console =
        ⟨⟨[{ source := some "start_flink", threshold := some .debug }]⟩, .json⟩ ∧
      (overriding.start (.error "no connection")).records =
        [⟨.info, "Cold start", [.quoted "version" "0.1.0",
            .plain "config_hash" "bb62311770c352d8", .plain "log_format" "Json"], none⟩,
          ⟨.info, "Using control-plane endpoint override http://localhost:4566", [], none⟩,
          ⟨.info, "Event handler initialized", [], none⟩,
          ⟨.error, "Fatal error: Lambda runtime error: no connection", [], none⟩]) ∧
    blank.IsPlain ∧ (blank.start (.ok ())).plane = none ∧ (blank.start (.ok ())).exitCode = 1 ∧
      (blank.start (.ok ())).console = ⟨⟨[{ threshold := some .info }]⟩, .text false⟩ ∧
      (blank.start (.ok ())).records =
        [⟨.error, "Fatal error: Configuration validation failed: " ++
          "Configuration validation failed: logging.filter cannot be empty", [], none⟩] := by
  obtain ⟨-, gate, uncut, -⟩ := start_gate overriding (.error "no connection") {}
  obtain ⟨-, gate', uncut', -⟩ := start_gate blank (.ok ()) {}
  have goes := (gate (uncut isPlain_overriding)).1 overridden accepts_overriding
  obtain ⟨text, refuses, fails⟩ := (gate' (uncut' isPlain_blank)).2 rejects_blank
  have hash : overridden.fingerprint = "bb62311770c352d8" := by decide +kernel
  have reason : text = "Configuration validation failed: " ++
      "Configuration validation failed: logging.filter cannot be empty" := by
    have unnamed : blank.lookup? "START_FLINK_CONFIG" = none := rfl
    cases refuses with
    | fileNotLoaded named => cases unnamed.symm.trans named
    | notLoaded _ failed => cases (loads_iff.1 failed).symm.trans (loads_iff.1 loads_blank)
    | emptyFilter => rfl
    | endpointScheme loads filled =>
      obtain ⟨ch, member, -⟩ := filled
      rw [loads_blank.unique loads] at member
      exact absurd member (by simp)
  refine ⟨⟨isPlain_overriding, ?_, goes.exitCode, console_overriding goes.console, ?_⟩,
    isPlain_blank, fails.plane, fails.exitCode, console_blank fails.console, ?_⟩
  · rw [goes.plane]
    rfl
  · rw [goes.records, hash]
    rfl
  · rw [fails.records, reason]
    rfl

/-- Without any setting the defaults are loaded, and they are valid. -/
theorem accepts_default {environment : List (String × String)} (locate : String → Files.Located)
    (noPath : Keyed.find? "START_FLINK_CONFIG" environment = none)
    (none : Settings.settingTexts environment = []) :
    (⟨environment, locate⟩ : Surroundings).Accepts {} := by
  refine ⟨Or.inr ⟨noPath, ?_⟩, ⟨'i', by decide, by decide⟩, nofun⟩
  rw [Config.loadFromEnvironment, Config.below, Settings.ofEnvironment?, none]
  cbv

/-- A blank in front of a directive whose source starts with a character beyond ASCII keeps a valid
configuration from being started with. -/
theorem not_gate_of_blank_before_directive :
    ¬ ∀ (s : Surroundings) (served : Except String Unit),
      (s.start served).plane.isSome ↔ ∃ c, s.Accepts c := by
  intro gate
  let s : Surroundings := ⟨[("RUST_LOG", "start_flink=info, é=info")], fun _ => .missing⟩
  have accepted : s.Accepts {} := accepts_default _ rfl rfl
  have read : Log.Filter.parse "start_flink=info, é=info" = .error .place := rfl
  have cut : s.IsCut := Or.inr ⟨_, Or.inl ⟨{}, accepted, rfl⟩, Or.inl ⟨_, rfl, read⟩⟩
  have goesOn := (gate s (.ok ())).2 ⟨{}, accepted⟩
  rw [start_of_isCut cut] at goesOn
  exact Bool.false_ne_true goesOn

end Surroundings

end StartOnReady
