import StartOnReady.Config.Settings
import StartOnReady.Config.Toml
import StartOnReady.Proofs.Toml.Distinct

/-!
# What is read of a configuration

Trees of settings and documents are read by the same rules: each field is read from its own piece,
and without one it takes its default.  A `Reading` says how single pieces are read and how a record
is taken apart into pieces, and `Reading.config?` reads a configuration by these rules.  Both
readers of the program follow it where each key stands once (`Config.fromSettings_toOption`,
`Config.fromToml_toOption`).
-/

namespace StartOnReady

variable {α β σ : Type}

/-- The keys of the parts of a configuration. -/
def Config.parts : List String := ["logging", "control_plane"]

/-- How the pieces of a configuration are read. -/
structure Reading (β : Type) where
  text? : β → Option String
  format? : β → Option LogFormat
  boolean? : β → Option Bool
  endpoint? : β → Option (Option String)
  /-- The pieces of a record by the key and the place of a field; `none` if there is no record. -/
  fields? : β → Option (String → Nat → Option β)

namespace Reading

/-- The value of a field, from the piece for it if there is one. -/
def valueOr? (default : α) (read? : β → Option α) (piece : Option β) : Option α :=
  piece.elim (some default) read?

variable (r : Reading β)

/-- The logging settings from the pieces for their fields. -/
def loggingOf? (filter format ansi : Option β) : Option LoggingConfig := do
  let c : LoggingConfig := {}
  let filter ← valueOr? c.filter r.text? filter
  let format ← valueOr? c.format r.format? format
  let ansi ← valueOr? c.ansi r.boolean? ansi
  some ⟨filter, format, ansi⟩

def logging? (b : β) : Option LoggingConfig := do
  let piece ← r.fields? b
  r.loggingOf? (piece "filter" 0) (piece "format" 1) (piece "ansi" 2)

/-- The control-plane settings from the piece for their field. -/
def controlPlaneOf? (endpointUrl : Option β) : Option ControlPlaneConfig :=
  (valueOr? none r.endpoint? endpointUrl).map ControlPlaneConfig.mk

def controlPlane? (b : β) : Option ControlPlaneConfig := do
  let piece ← r.fields? b
  r.controlPlaneOf? (piece "endpoint_url" 0)

/-- A configuration from the pieces for its parts. -/
def configOf? (logging controlPlane : Option β) : Option Config := do
  let logging ← valueOr? {} r.logging? logging
  let controlPlane ← valueOr? {} r.controlPlane? controlPlane
  some ⟨logging, controlPlane⟩

def config? (b : β) : Option Config := do
  let piece ← r.fields? b
  r.configOf? (piece "logging" 0) (piece "control_plane" 1)

variable {r}

theorem loggingOf?_eq_some_iff {filter format ansi : Option β} {c : LoggingConfig} :
    r.loggingOf? filter format ansi = some c ↔
      valueOr? "info" r.text? filter = some c.filter ∧
        valueOr? .text r.format? format = some c.format ∧
          valueOr? false r.boolean? ansi = some c.ansi := by
  obtain ⟨x, y, z⟩ := c
  simp only [loggingOf?]
  cases valueOr? "info" r.text? filter <;> cases valueOr? .text r.format? format <;>
    cases valueOr? false r.boolean? ansi <;> simp

theorem controlPlaneOf?_eq_some_iff {endpointUrl : Option β} {c : ControlPlaneConfig} :
    r.controlPlaneOf? endpointUrl = some c ↔
      valueOr? none r.endpoint? endpointUrl = some c.endpointUrl := by
  obtain ⟨x⟩ := c
  simp [controlPlaneOf?]

theorem configOf?_eq_some_iff {logging controlPlane : Option β} {c : Config} :
    r.configOf? logging controlPlane = some c ↔
      valueOr? {} r.logging? logging = some c.logging ∧
        valueOr? {} r.controlPlane? controlPlane = some c.controlPlane := by
  obtain ⟨x, y⟩ := c
  simp [configOf?, Option.bind_eq_some_iff]

/-! Two readings agree on a record if they agree on each of its fields. -/

section Congr

variable {γ : Type} {r' : Reading γ}

theorem loggingOf?_congr {filter format ansi : Option β} {filter' format' ansi' : Option γ}
    (f : valueOr? "info" r.text? filter = valueOr? "info" r'.text? filter')
    (g : valueOr? .text r.format? format = valueOr? .text r'.format? format')
    (a : valueOr? false r.boolean? ansi = valueOr? false r'.boolean? ansi') :
    r.loggingOf? filter format ansi = r'.loggingOf? filter' format' ansi' := by
  simp only [loggingOf?, f, g, a]

theorem controlPlaneOf?_congr {endpointUrl : Option β} {endpointUrl' : Option γ}
    (e : valueOr? none r.endpoint? endpointUrl = valueOr? none r'.endpoint? endpointUrl') :
    r.controlPlaneOf? endpointUrl = r'.controlPlaneOf? endpointUrl' := by
  simp only [controlPlaneOf?, e]

theorem configOf?_congr {logging controlPlane : Option β} {logging' controlPlane' : Option γ}
    (l : valueOr? {} r.logging? logging = valueOr? {} r'.logging? logging')
    (p : valueOr? {} r.controlPlane? controlPlane = valueOr? {} r'.controlPlane? controlPlane') :
    r.configOf? logging controlPlane = r'.configOf? logging' controlPlane' := by
  simp only [configOf?, l, p]

end Congr

end Reading

/-! ### Slots

Members are read one after another into slots.  `slot?` is what a slot holds when the piece for it,
if there is one, was read.
-/

/-- What a slot holds behind the piece for it. -/
def slot? (read? : β → Option α) (held : Option α) (piece : Option β) : Option (Option α) :=
  piece.elim (some held) fun b => (read? b).map some

theorem slot?_map_getD (read? : β → Option α) (default : α) (piece : Option β) :
    (slot? read? none piece).map (·.getD default) = Reading.valueOr? default read? piece := by
  cases piece with
  | none => rfl
  | some b => simp [slot?, Reading.valueOr?, Function.comp_def]

/-- A run over members is given by what it leaves for the piece at each key, if that is given for
no pieces and for one piece more. -/
theorem foldlM_members {step? : σ → String → β → Option σ}
    (reads? : σ → (String → Option β) → Option σ)
    (nothing : ∀ s, reads? s (fun _ => none) = some s)
    (further : ∀ s key b piece, piece key = none →
      reads? s (fun k => if k = key then some b else piece k) =
        (step? s key b).bind (reads? · piece))
    {members : List (String × β)} (distinct : (members.map Prod.fst).Nodup) (s : σ) :
    members.foldlM (fun s m => step? s m.1 m.2) s = reads? s (Keyed.find? · members) := by
  induction members generalizing s with
  | nil => exact (nothing s).symm
  | cons m members ih =>
    obtain ⟨fresh, distinct⟩ := List.nodup_cons.1 distinct
    have pieces : (Keyed.find? · (m :: members)) =
        fun k => if k = m.1 then some m.2 else Keyed.find? k members := rfl
    rw [pieces, further s m.1 m.2 _ (Keyed.find?_eq_none_iff.2 fresh), List.foldlM_cons]
    exact congrArg _ (funext (ih distinct))

namespace Reading

variable (r : Reading β)

def loggingStep? (s : LoggingConfig.Slots) (key : String) (b : β) : Option LoggingConfig.Slots :=
  match key with
  | "filter" => (r.text? b).map fun x => { s with filter := some x }
  | "format" => (r.format? b).map fun x => { s with format := some x }
  | "ansi" => (r.boolean? b).map fun x => { s with ansi := some x }
  | _ => some s

def loggingSlots? (s : LoggingConfig.Slots) (filter format ansi : Option β) :
    Option LoggingConfig.Slots := do
  let filter ← slot? r.text? s.filter filter
  let format ← slot? r.format? s.format format
  let ansi ← slot? r.boolean? s.ansi ansi
  some ⟨filter, format, ansi⟩

theorem loggingSlots?_filled (filter format ansi : Option β) :
    (r.loggingSlots? {} filter format ansi).map LoggingConfig.Slots.filled =
      r.loggingOf? filter format ansi := by
  simp only [loggingOf?, ← slot?_map_getD]
  simp [loggingSlots?, LoggingConfig.Slots.filled, Function.comp_def, Option.bind_map]

theorem foldlM_loggingStep? {members : List (String × β)}
    (distinct : (members.map Prod.fst).Nodup) (s : LoggingConfig.Slots) :
    members.foldlM (fun s m => r.loggingStep? s m.1 m.2) s =
      r.loggingSlots? s (Keyed.find? "filter" members) (Keyed.find? "format" members)
        (Keyed.find? "ansi" members) := by
  refine foldlM_members
    (fun s piece => r.loggingSlots? s (piece "filter") (piece "format") (piece "ansi"))
    (fun s => rfl) (fun s key b piece absent => ?_) distinct s
  unfold loggingStep?
  split
  next => cases read : r.text? b <;> simp [loggingSlots?, slot?, absent, read]
  next => cases read : r.format? b <;> simp [loggingSlots?, slot?, absent, read]
  next => cases read : r.boolean? b <;> simp [loggingSlots?, slot?, absent, read]
  next filter format ansi => simp [Ne.symm filter, Ne.symm format, Ne.symm ansi]

def controlPlaneStep? (s : ControlPlaneConfig.Slots) (key : String) (b : β) :
    Option ControlPlaneConfig.Slots :=
  match key with
  | "endpoint_url" => (r.endpoint? b).map fun x => { s with endpointUrl := some x }
  | _ => some s

def controlPlaneSlots? (s : ControlPlaneConfig.Slots) (endpointUrl : Option β) :
    Option ControlPlaneConfig.Slots :=
  (slot? r.endpoint? s.endpointUrl endpointUrl).map ControlPlaneConfig.Slots.mk

theorem controlPlaneSlots?_filled (endpointUrl : Option β) :
    (r.controlPlaneSlots? {} endpointUrl).map ControlPlaneConfig.Slots.filled =
      r.controlPlaneOf? endpointUrl := by
  rw [controlPlaneOf?, ← slot?_map_getD]
  simp [controlPlaneSlots?, ControlPlaneConfig.Slots.filled, Function.comp_def]

theorem foldlM_controlPlaneStep? {members : List (String × β)}
    (distinct : (members.map Prod.fst).Nodup) (s : ControlPlaneConfig.Slots) :
    members.foldlM (fun s m => r.controlPlaneStep? s m.1 m.2) s =
      r.controlPlaneSlots? s (Keyed.find? "endpoint_url" members) := by
  refine foldlM_members (fun s piece => r.controlPlaneSlots? s (piece "endpoint_url"))
    (fun s => rfl) (fun s key b piece absent => ?_) distinct s
  unfold controlPlaneStep?
  split
  next => cases read : r.endpoint? b <;> simp [controlPlaneSlots?, slot?, absent, read]
  next endpointUrl => simp [Ne.symm endpointUrl]

def configStep? (s : Config.Slots) (key : String) (b : β) : Option Config.Slots :=
  match key with
  | "logging" => (r.logging? b).map fun x => { s with logging := some x }
  | "control_plane" => (r.controlPlane? b).map fun x => { s with controlPlane := some x }
  | _ => some s

def configSlots? (s : Config.Slots) (logging controlPlane : Option β) : Option Config.Slots := do
  let logging ← slot? r.logging? s.logging logging
  let controlPlane ← slot? r.controlPlane? s.controlPlane controlPlane
  some ⟨logging, controlPlane⟩

theorem configSlots?_filled (logging controlPlane : Option β) :
    (r.configSlots? {} logging controlPlane).map Config.Slots.filled =
      r.configOf? logging controlPlane := by
  simp only [configOf?, ← slot?_map_getD]
  simp [configSlots?, Config.Slots.filled, Function.comp_def, Option.bind_map]

theorem foldlM_configStep? {members : List (String × β)}
    (distinct : (members.map Prod.fst).Nodup) (s : Config.Slots) :
    members.foldlM (fun s m => r.configStep? s m.1 m.2) s =
      r.configSlots? s (Keyed.find? "logging" members) (Keyed.find? "control_plane" members) := by
  refine foldlM_members
    (fun s piece => r.configSlots? s (piece "logging") (piece "control_plane"))
    (fun s => rfl) (fun s key b piece absent => ?_) distinct s
  unfold configStep?
  split
  next => cases read : r.logging? b <;> simp [configSlots?, slot?, absent, read]
  next => cases read : r.controlPlane? b <;> simp [configSlots?, slot?, absent, read]
  next logging controlPlane => simp [Ne.symm logging, Ne.symm controlPlane]

end Reading

/-! ### Results -/

section Results

variable {ε : Type} {f : α → Except ε β}

theorem toOption_bind (x : Except ε α) :
    (x >>= f).toOption = x.toOption.bind fun a => (f a).toOption := by
  cases x <;> rfl

theorem toOption_map (x : Except ε α) (g : α → β) : (x.map g).toOption = x.toOption.map g := by
  cases x <;> rfl

theorem toOption_eq_some_iff {x : Except ε α} {a : α} : x.toOption = some a ↔ x = .ok a := by
  cases x <;> simp [Except.toOption]

theorem toOption_bind_ok {x : Except ε α} {x? : Option α} (same : x.toOption = x?) (g : α → β) :
    (x >>= fun a => .ok (g a)).toOption = x?.map g := by
  subst same
  cases x <;> rfl

end Results

/-! ### Trees of settings -/

namespace Settings

open Extractor (foldMembers itemAt)

/-- How the pieces of a tree of settings are read. -/
def reading : Reading Tree where
  text? t := (Extractor.text [] t).toOption
  format? t := (LogFormat.fromSettings [] t).toOption
  boolean? t := (Extractor.boolean [] t).toOption
  endpoint? t := (Extractor.optional Extractor.text [] t).toOption
  fields?
    | .table _ members => some fun key _ => Keyed.find? key members
    | .sequence _ items => some fun _ place => items[place]?
    | .leaf _ _ => none

/-! The path of a piece is only of use to the messages. -/

variable (path : List String) (t : Tree)

theorem text_toOption : (Extractor.text path t).toOption = reading.text? t := by
  rcases t with ⟨_, _ | _⟩ | _ | _ <;> rfl

theorem boolean_toOption : (Extractor.boolean path t).toOption = reading.boolean? t := by
  rcases t with ⟨_, _ | _⟩ | _ | _ <;> rfl

theorem endpoint_toOption :
    (Extractor.optional Extractor.text path t).toOption = reading.endpoint? t := by
  rcases t with ⟨_, _ | _⟩ | _ | _ <;> rfl

theorem format_toOption : (LogFormat.fromSettings path t).toOption = reading.format? t := by
  rcases t with ⟨_, s | _⟩ | _ | ⟨_, _ | ⟨⟨key, piece⟩, members⟩⟩
  case leaf.text =>
    simp only [reading, LogFormat.fromSettings, Extractor.choice]
    cases LogFormat.ofWord? s <;> rfl
  case table.cons =>
    simp only [reading, LogFormat.fromSettings, Extractor.choice]
    cases LogFormat.ofWord? key <;> rfl
  all_goals rfl

theorem foldMembers_toOption {step : σ → String → Extractor σ}
    {step? : σ → String → Tree → Option σ} {members : List (String × Tree)}
    (same : ∀ m ∈ members, ∀ s path, (step s m.1 path m.2).toOption = step? s m.1 m.2)
    (path : List String) (s : σ) :
    (foldMembers step path members s).toOption =
      members.foldlM (fun s m => step? s m.1 m.2) s := by
  induction members generalizing s with
  | nil => rfl
  | cons m members ih =>
    obtain ⟨first, later⟩ := List.forall_mem_cons.1 same
    rw [foldMembers, toOption_bind, first, List.foldlM_cons]
    exact congrArg _ (funext (ih later))

theorem itemAt_toOption {read : Extractor α} {read? : Tree → Option α}
    (same : ∀ path t, (read path t).toOption = read? t) (path : List String) (items : List Tree)
    (place : Nat) : (itemAt path items place read).toOption = slot? read? none items[place]? := by
  unfold itemAt
  cases items[place]? with
  | none => rfl
  | some t => rw [slot?, Option.elim_some, ← same (path ++ [toString place]), toOption_map]

/-- Whether each key of a piece stands once. -/
def Tree.HasDistinctKeys : Tree → Prop
  | .table _ members => (members.map Prod.fst).Nodup
  | _ => True

end Settings

section OfSettings

open Settings Settings.Extractor

variable (path : List String) {t : Tree}

theorem LoggingConfig.addSetting_toOption (s : Slots) (key : String) (path : List String)
    (t : Tree) : (s.addSetting key path t).toOption = reading.loggingStep? s key t := by
  unfold Slots.addSetting Reading.loggingStep?
  split
  next => exact toOption_bind_ok (text_toOption path t) _
  next => exact toOption_bind_ok (format_toOption path t) _
  next => exact toOption_bind_ok (boolean_toOption path t) _
  next => simp [Except.toOption]

theorem LoggingConfig.fromSettings_toOption (distinct : t.HasDistinctKeys) :
    (LoggingConfig.fromSettings path t).toOption = reading.logging? t := by
  cases t with
  | leaf source datum => rfl
  | sequence source items =>
    refine Eq.trans ?_ (reading.loggingSlots?_filled items[0]? items[1]? items[2]?)
    simp only [LoggingConfig.fromSettings, record, toOption_bind,
      itemAt_toOption text_toOption, itemAt_toOption format_toOption,
      itemAt_toOption boolean_toOption]
    simp only [Reading.loggingSlots?, Except.toOption, Option.bind_eq_bind, Option.map_bind,
      Function.comp_def, Option.map_some]
  | table source members =>
    rw [LoggingConfig.fromSettings, record, toOption_map,
      foldMembers_toOption fun m _ s path => addSetting_toOption s m.1 path m.2,
      reading.foldlM_loggingStep? distinct]
    exact reading.loggingSlots?_filled _ _ _

theorem ControlPlaneConfig.addSetting_toOption (s : Slots) (key : String) (path : List String)
    (t : Tree) : (s.addSetting key path t).toOption = reading.controlPlaneStep? s key t := by
  unfold Slots.addSetting Reading.controlPlaneStep?
  split
  next => exact toOption_bind_ok (endpoint_toOption path t) _
  next => simp [Except.toOption]

theorem ControlPlaneConfig.fromSettings_toOption (distinct : t.HasDistinctKeys) :
    (ControlPlaneConfig.fromSettings path t).toOption = reading.controlPlane? t := by
  cases t with
  | leaf source datum => rfl
  | sequence source items =>
    refine Eq.trans ?_ (reading.controlPlaneSlots?_filled items[0]?)
    refine (toOption_bind_ok (itemAt_toOption endpoint_toOption path items 0) _).trans ?_
    simp [Reading.controlPlaneSlots?, Function.comp_def]
  | table source members =>
    rw [ControlPlaneConfig.fromSettings, record, toOption_map,
      foldMembers_toOption fun m _ s path => addSetting_toOption s m.1 path m.2,
      reading.foldlM_controlPlaneStep? distinct]
    exact reading.controlPlaneSlots?_filled _

theorem Config.addSetting_toOption (s : Slots) {key : String} (path : List String)
    (distinct : key ∈ parts → t.HasDistinctKeys) :
    (s.addSetting key path t).toOption = reading.configStep? s key t := by
  unfold Slots.addSetting Reading.configStep?
  split
  next =>
    exact toOption_bind_ok (LoggingConfig.fromSettings_toOption path (distinct (by decide))) _
  next =>
    exact toOption_bind_ok (ControlPlaneConfig.fromSettings_toOption path (distinct (by decide))) _
  next => simp [Except.toOption]

/-- A table of settings is read as its reading says. -/
theorem Config.fromSettings_toOption {source : Source} {members : List (String × Tree)}
    (keys : (members.map Prod.fst).Nodup)
    (inner : ∀ m ∈ members, m.1 ∈ parts → m.2.HasDistinctKeys) :
    (Config.fromSettings path (.table source members)).toOption =
      reading.config? (.table source members) := by
  rw [Config.fromSettings, record, toOption_map,
    foldMembers_toOption fun m known s path => addSetting_toOption s path (inner m known),
    reading.foldlM_configStep? keys]
  exact reading.configSlots?_filled _ _

end OfSettings

/-! ### Documents -/

namespace Toml

open Decoder (foldMembers itemAt momentMember)

/-- How the pieces of a document are read. -/
def reading : Reading Value where
  text? v := (Decoder.text v).toOption
  format? v := (LogFormat.fromToml v).toOption
  boolean? v := (Decoder.boolean v).toOption
  endpoint? v := (Decoder.text v).toOption.map some
  fields?
    | .table members => some fun key _ => Keyed.find? key members
    | .moment text => some fun key _ => Keyed.find? key [(momentMember, .string text)]
    | .array items | .elements items => some fun _ place => items[place]?
    | _ => none

theorem foldMembers_toOption {step : σ → String → Decoder σ}
    {step? : σ → String → Value → Option σ} {members : List (String × Value)}
    (same : ∀ m ∈ members, ∀ s, (step s m.1 m.2).toOption = step? s m.1 m.2) (s : σ) :
    (foldMembers step members s).toOption = members.foldlM (fun s m => step? s m.1 m.2) s := by
  induction members generalizing s with
  | nil => rfl
  | cons m members ih =>
    obtain ⟨first, later⟩ := List.forall_mem_cons.1 same
    rw [foldMembers, toOption_bind, first, List.foldlM_cons]
    exact congrArg _ (funext (ih later))

theorem itemAt_toOption (read : Decoder α) (items : List Value) (place : Nat) :
    (itemAt items place read).toOption =
      slot? (fun v => (read v).toOption) none items[place]? := by
  unfold itemAt
  cases items[place]? with
  | none => rfl
  | some v => exact toOption_map _ _

theorem nodup_momentKeys (text : String) :
    ([(momentMember, Value.string text)].map Prod.fst).Nodup := List.pairwise_singleton _ _

/-- Whether each key of a piece stands once. -/
def Value.HasDistinctKeys : Value → Prop
  | .table members => (members.map Prod.fst).Nodup
  | _ => True

theorem Value.IsDistinct.hasDistinctKeys {v : Value} (h : v.IsDistinct) : v.HasDistinctKeys := by
  cases h with
  | table keys _ => exact keys
  | _ => trivial

end Toml

section OfToml

open Toml Toml.Decoder

variable {v : Value}

theorem LoggingConfig.addToml_toOption (s : Slots) (key : String) (v : Value) :
    (s.addToml key v).toOption = reading.loggingStep? s key v := by
  unfold Slots.addToml Reading.loggingStep?
  split
  next => exact toOption_bind_ok rfl _
  next => exact toOption_bind_ok rfl _
  next => exact toOption_bind_ok rfl _
  next => simp [Except.toOption]

theorem LoggingConfig.ofMembers_toOption {members : List (String × Value)}
    (distinct : (members.map Prod.fst).Nodup) :
    ((foldMembers Slots.addToml members {}).map Slots.filled).toOption =
      reading.loggingOf? (Keyed.find? "filter" members) (Keyed.find? "format" members)
        (Keyed.find? "ansi" members) := by
  rw [toOption_map, foldMembers_toOption fun m _ s => addToml_toOption s m.1 m.2,
    reading.foldlM_loggingStep? distinct]
  exact reading.loggingSlots?_filled _ _ _

theorem LoggingConfig.ofItems_toOption (items : List Value) :
    (LoggingConfig.fromToml (.array items)).toOption =
      reading.loggingOf? items[0]? items[1]? items[2]? := by
  refine Eq.trans ?_ (reading.loggingSlots?_filled items[0]? items[1]? items[2]?)
  simp only [LoggingConfig.fromToml, record, toOption_bind, itemAt_toOption]
  simp only [Reading.loggingSlots?, reading, Except.toOption, Option.bind_eq_bind,
    Option.map_bind, Function.comp_def, Option.map_some]

theorem LoggingConfig.fromToml_toOption (distinct : v.HasDistinctKeys) :
    (LoggingConfig.fromToml v).toOption = reading.logging? v := by
  cases v with
  | table members => exact ofMembers_toOption distinct
  | moment text => exact ofMembers_toOption (nodup_momentKeys text)
  | array items => exact ofItems_toOption items
  | elements items => exact ofItems_toOption items
  | _ => rfl

theorem ControlPlaneConfig.addToml_toOption (s : Slots) (key : String) (v : Value) :
    (s.addToml key v).toOption = reading.controlPlaneStep? s key v := by
  unfold Slots.addToml Reading.controlPlaneStep?
  split
  next =>
    rw [toOption_bind]
    show _ = ((text v).toOption.map some).map _
    cases (text v).toOption <;> rfl
  next => simp [Except.toOption]

theorem ControlPlaneConfig.ofMembers_toOption {members : List (String × Value)}
    (distinct : (members.map Prod.fst).Nodup) :
    ((foldMembers Slots.addToml members {}).map Slots.filled).toOption =
      reading.controlPlaneOf? (Keyed.find? "endpoint_url" members) := by
  rw [toOption_map, foldMembers_toOption fun m _ s => addToml_toOption s m.1 m.2,
    reading.foldlM_controlPlaneStep? distinct]
  exact reading.controlPlaneSlots?_filled _

theorem ControlPlaneConfig.ofItems_toOption (items : List Value) :
    (ControlPlaneConfig.fromToml (.array items)).toOption =
      reading.controlPlaneOf? items[0]? := by
  refine (toOption_bind_ok (itemAt_toOption text items 0) _).trans ?_
  rw [Reading.controlPlaneOf?, Reading.valueOr?]
  cases items[0]? with
  | none => rfl
  | some v => simp [slot?, reading, Slots.filled, Function.comp_def]

theorem ControlPlaneConfig.fromToml_toOption (distinct : v.HasDistinctKeys) :
    (ControlPlaneConfig.fromToml v).toOption = reading.controlPlane? v := by
  cases v with
  | table members => exact ofMembers_toOption distinct
  | moment text => exact ofMembers_toOption (nodup_momentKeys text)
  | array items => exact ofItems_toOption items
  | elements items => exact ofItems_toOption items
  | _ => rfl

theorem Config.addToml_toOption (s : Slots) (key : String) (distinct : v.HasDistinctKeys) :
    (s.addToml key v).toOption = reading.configStep? s key v := by
  unfold Slots.addToml Reading.configStep?
  split
  next => exact toOption_bind_ok (LoggingConfig.fromToml_toOption distinct) _
  next => exact toOption_bind_ok (ControlPlaneConfig.fromToml_toOption distinct) _
  next => simp [Except.toOption]

/-- A document is read as its reading says. -/
theorem Config.fromToml_toOption {members : List (String × Value)}
    (distinct : (Value.table members).IsDistinct) :
    (Config.fromToml members).toOption = reading.config? (.table members) := by
  cases distinct with
  | table keys inner =>
    rw [Config.fromToml, toOption_map,
      foldMembers_toOption fun m known s => addToml_toOption s m.1 (inner m known).hasDistinctKeys,
      reading.foldlM_configStep? keys]
    exact reading.configSlots?_filled _ _

end OfToml

end StartOnReady
