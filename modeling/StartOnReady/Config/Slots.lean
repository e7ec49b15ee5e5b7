import StartOnReady.Config.Basic

/-!
# Configurations in the making

The fields that a reader has met so far; what it never met takes its default.
-/

namespace StartOnReady

/-- The fields of the logging settings. -/
structure LoggingConfig.Slots where
  filter : Option String := none
  format : Option LogFormat := none
  ansi : Option Bool := none

/-- The settings with defaults for the empty slots. -/
def LoggingConfig.Slots.filled (s : Slots) : LoggingConfig :=
  let c : LoggingConfig := {}
  ⟨s.filter.getD c.filter, s.format.getD c.format, s.ansi.getD c.ansi⟩

/-- The fields of the control-plane settings. -/
structure ControlPlaneConfig.Slots where
  endpointUrl : Option (Option String) := none

/-- The settings with defaults for the empty slots. -/
def ControlPlaneConfig.Slots.filled (s : Slots) : ControlPlaneConfig := ⟨s.endpointUrl.getD none⟩

/-- The parts of a configuration. -/
structure Config.Slots where
  logging : Option LoggingConfig := none
  controlPlane : Option ControlPlaneConfig := none

/-- The configuration with defaults for the empty slots. -/
def Config.Slots.filled (s : Slots) : Config := ⟨s.logging.getD {}, s.controlPlane.getD {}⟩

end StartOnReady
