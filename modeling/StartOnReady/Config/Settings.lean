import StartOnReady.Config.Slots
import StartOnReady.Settings.Extract

/-!
# Configurations and settings

A configuration as a layer of settings, and its extraction from a tree.
-/

namespace StartOnReady

open Settings (Extractor Fault Tree)

/-- Reads a format. -/
def LogFormat.fromSettings : Extractor LogFormat :=
  Extractor.choice "LogFormat" LogFormat.words LogFormat.ofWord?

namespace LoggingConfig

/-- The settings as a table of the lowest layer. -/
def toSettings (c : LoggingConfig) : Tree :=
  .table .defaults [("ansi", .leaf .defaults (.boolean c.ansi)),
    ("filter", .leaf .defaults (.text c.filter)),
    ("format", .leaf .defaults (.text c.format.word))]

/-- Reads one member. -/
def Slots.addSetting (s : Slots) (key : String) : Extractor Slots := fun path t =>
  match key with
  | "filter" => do .ok { s with filter := some (← Extractor.text path t) }
  | "format" => do .ok { s with format := some (← LogFormat.fromSettings path t) }
  | "ansi" => do .ok { s with ansi := some (← Extractor.boolean path t) }
  | _ => .ok s

/-- Reads the settings. -/
def fromSettings : Extractor LoggingConfig :=
  Extractor.record "LoggingConfig"
    (fun path members =>
      (Extractor.foldMembers Slots.addSetting path members {}).map Slots.filled)
    (fun path items => do
      let filter ← Extractor.itemAt path items 0 Extractor.text
      let format ← Extractor.itemAt path items 1 LogFormat.fromSettings
      let ansi ← Extractor.itemAt path items 2 Extractor.boolean
      .ok (Slots.filled ⟨filter, format, ansi⟩))

end LoggingConfig

namespace ControlPlaneConfig

/-- The settings as a table of the lowest layer. -/
def toSettings (c : ControlPlaneConfig) : Tree :=
  .table .defaults
    [("endpoint_url", .leaf .defaults ((c.endpointUrl.map Settings.Datum.text).getD .absent))]

/-- Reads one member. -/
def Slots.addSetting (s : Slots) (key : String) : Extractor Slots := fun path t =>
  match key with
  | "endpoint_url" => do
    .ok { s with endpointUrl := some (← Extractor.optional Extractor.text path t) }
  | _ => .ok s

/-- Reads the settings. -/
def fromSettings : Extractor ControlPlaneConfig :=
  Extractor.record "ControlPlaneConfig"
    (fun path members =>
      (Extractor.foldMembers Slots.addSetting path members {}).map Slots.filled)
    (fun path items => do
      let endpointUrl ← Extractor.itemAt path items 0 (Extractor.optional Extractor.text)
      .ok (Slots.filled ⟨endpointUrl⟩))

end ControlPlaneConfig

namespace Config

/-- A configuration as the lowest layer. -/
def toSettings (c : Config) : Tree :=
  .table .defaults
    [("control_plane", c.controlPlane.toSettings), ("logging", c.logging.toSettings)]

/-- Reads one member. -/
def Slots.addSetting (s : Slots) (key : String) : Extractor Slots := fun path t =>
  match key with
  | "logging" => do .ok { s with logging := some (← LoggingConfig.fromSettings path t) }
  | "control_plane" => do
    .ok { s with controlPlane := some (← ControlPlaneConfig.fromSettings path t) }
  | _ => .ok s

/-- Reads a configuration. -/
def fromSettings : Extractor Config :=
  Extractor.record "Config"
    (fun path members =>
      (Extractor.foldMembers Slots.addSetting path members {}).map Slots.filled)
    (fun path items => do
      let logging ← Extractor.itemAt path items 0 LoggingConfig.fromSettings
      let controlPlane ← Extractor.itemAt path items 1 ControlPlaneConfig.fromSettings
      .ok (Slots.filled ⟨logging, controlPlane⟩))

end Config

end StartOnReady
