import StartOnReady.Config.Slots
import StartOnReady.Json.Decode

/-!
# Configurations in JSON

A configuration as a value, and its decoder.  Every field may be left out for its default.
-/

namespace StartOnReady

open Json (Document DecodeError Decoder Value)

/-! ### Formats -/

/-- A format as a value. -/
def LogFormat.toJson (format : LogFormat) : Value := .string format.word

/-- The format that a word names, or its fault. -/
def LogFormat.ofText (s : String) : Except DecodeError LogFormat :=
  match LogFormat.ofWord? s with
  | some format => .ok format
  | none => .error (.unsuitable (.unknownVariant s LogFormat.words))

/-- Reads a format: a word, or an object whose one member has the word as its name and holds
`null`. -/
def LogFormat.decoder : Decoder LogFormat
  | .string pieces => do LogFormat.ofText (← Decoder.text (.string pieces))
  | .object ((name, item) :: members) closed => do
    let format ← LogFormat.ofText (← Decoder.memberName name)
    let () ←
      match item with
      | .null => .ok ()
      | item => Decoder.refuse "unit" item
    if closed && members.isEmpty then .ok format else .error .malformed
  | _ => .error .malformed

/-! ### Logging -/

namespace LoggingConfig

/-- The settings as a value. -/
def toJson (c : LoggingConfig) : Value :=
  .object [("filter", .string c.filter), ("format", c.format.toJson), ("ansi", .boolean c.ansi)]

/-- Reads one member. -/
def Slots.step (s : Slots) (member : String) : Decoder Slots := fun d =>
  match member with
  | "filter" => do .ok { s with filter := ← Decoder.once "filter" s.filter (Decoder.text d) }
  | "format" => do
    .ok { s with format := ← Decoder.once "format" s.format (LogFormat.decoder d) }
  | "ansi" => do .ok { s with ansi := ← Decoder.once "ansi" s.ansi (Decoder.boolean d) }
  | _ => do
    Decoder.skip d
    .ok s

/-- Reads the settings. -/
def decoder : Decoder LoggingConfig :=
  Decoder.record "LoggingConfig" 3
    (fun members closed => (Decoder.foldMembers Slots.step members closed {}).map Slots.filled)
    (fun items closed => do
      let filter ← Decoder.itemAt items closed 0 Decoder.text
      let format ← Decoder.itemAt items closed 1 LogFormat.decoder
      let ansi ← Decoder.itemAt items closed 2 Decoder.boolean
      .ok (Slots.filled ⟨filter, format, ansi⟩))

end LoggingConfig

/-! ### The control plane -/

namespace ControlPlaneConfig

/-- The settings as a value. -/
def toJson (c : ControlPlaneConfig) : Value :=
  .object [("endpoint_url", (c.endpointUrl.map Value.string).getD .null)]

/-- Reads one member. -/
def Slots.step (s : Slots) (member : String) : Decoder Slots := fun d =>
  match member with
  | "endpoint_url" => do
    let read := Decoder.optional Decoder.text d
    .ok { s with endpointUrl := ← Decoder.once "endpoint_url" s.endpointUrl read }
  | _ => do
    Decoder.skip d
    .ok s

/-- Reads the settings. -/
def decoder : Decoder ControlPlaneConfig :=
  Decoder.record "ControlPlaneConfig" 1
    (fun members closed => (Decoder.foldMembers Slots.step members closed {}).map Slots.filled)
    (fun items closed => do
      let endpointUrl ← Decoder.itemAt items closed 0 (Decoder.optional Decoder.text)
      .ok (Slots.filled ⟨endpointUrl⟩))

end ControlPlaneConfig

/-! ### Configurations -/

namespace Config

/-- A configuration as a value. -/
def toJson (c : Config) : Value :=
  .object [("logging", c.logging.toJson), ("control_plane", c.controlPlane.toJson)]

/-- Reads one member. -/
def Slots.step (s : Slots) (member : String) : Decoder Slots := fun d =>
  match member with
  | "logging" => do
    .ok { s with logging := ← Decoder.once "logging" s.logging (LoggingConfig.decoder d) }
  | "control_plane" => do
    let read := ControlPlaneConfig.decoder d
    .ok { s with controlPlane := ← Decoder.once "control_plane" s.controlPlane read }
  | _ => do
    Decoder.skip d
    .ok s

/-- Reads a configuration. -/
def decoder : Decoder Config :=
  Decoder.record "Config" 2
    (fun members closed => (Decoder.foldMembers Slots.step members closed {}).map Slots.filled)
    (fun items closed => do
      let logging ← Decoder.itemAt items closed 0 LoggingConfig.decoder
      let controlPlane ← Decoder.itemAt items closed 1 ControlPlaneConfig.decoder
      .ok (Slots.filled ⟨logging, controlPlane⟩))

end Config

end StartOnReady
