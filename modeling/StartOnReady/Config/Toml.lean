import StartOnReady.Config.Slots
import StartOnReady.Toml.Decode

/-!
# Configurations in TOML

Every field may be left out for its default; members that no field is named for are passed over.
-/

namespace StartOnReady

open Toml (Decoder DecodeError Value)

/-- Reads a format. -/
def LogFormat.fromToml : Decoder LogFormat := Decoder.choice LogFormat.words LogFormat.ofWord?

namespace LoggingConfig

/-- Reads one member. -/
def Slots.addToml (s : Slots) (member : String) : Decoder Slots := fun v =>
  match member with
  | "filter" => do .ok { s with filter := some (← Decoder.text v) }
  | "format" => do .ok { s with format := some (← LogFormat.fromToml v) }
  | "ansi" => do .ok { s with ansi := some (← Decoder.boolean v) }
  | _ => .ok s

/-- Reads the settings. -/
def fromToml : Decoder LoggingConfig :=
  Decoder.record "LoggingConfig"
    (fun members => (Decoder.foldMembers Slots.addToml members {}).map Slots.filled)
    (fun items => do
      let filter ← Decoder.itemAt items 0 Decoder.text
      let format ← Decoder.itemAt items 1 LogFormat.fromToml
      let ansi ← Decoder.itemAt items 2 Decoder.boolean
      .ok (Slots.filled ⟨filter, format, ansi⟩))

end LoggingConfig

namespace ControlPlaneConfig

/-- Reads one member. -/
def Slots.addToml (s : Slots) (member : String) : Decoder Slots := fun v =>
  match member with
  | "endpoint_url" => do .ok { s with endpointUrl := some (some (← Decoder.text v)) }
  | _ => .ok s

/-- Reads the settings. -/
def fromToml : Decoder ControlPlaneConfig :=
  Decoder.record "ControlPlaneConfig"
    (fun members => (Decoder.foldMembers Slots.addToml members {}).map Slots.filled)
    (fun items => do
      let endpointUrl ← Decoder.itemAt items 0 Decoder.text
      .ok (Slots.filled ⟨endpointUrl.map some⟩))

end ControlPlaneConfig

namespace Config

/-- Reads one member. -/
def Slots.addToml (s : Slots) (member : String) : Decoder Slots := fun v =>
  match member with
  | "logging" => do .ok { s with logging := some (← LoggingConfig.fromToml v) }
  | "control_plane" => do .ok { s with controlPlane := some (← ControlPlaneConfig.fromToml v) }
  | _ => .ok s

/-- Reads the members of a document. -/
def fromToml (members : List (String × Value)) : Except DecodeError Config :=
  (Decoder.foldMembers Slots.addToml members {}).map Slots.filled

end Config

end StartOnReady
