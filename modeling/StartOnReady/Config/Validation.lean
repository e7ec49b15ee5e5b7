import StartOnReady.Config.Basic
import StartOnReady.Config.Error
import StartOnReady.Text.Blank
import StartOnReady.Text.Search

/-!
# Validation of configurations

A filter has to hold more than blanks, and an endpoint has to be reached over HTTP.
-/

namespace StartOnReady

/-- Checks how records are logged. -/
def LoggingConfig.validate (c : LoggingConfig) : Except ConfigFault Unit :=
  if Text.trim c.filter = "" then .error .emptyFilter else .ok ()

/-- Checks how the service is reached. -/
def ControlPlaneConfig.validate (c : ControlPlaneConfig) : Except ConfigFault Unit :=
  match c.endpointUrl with
  | none => .ok ()
  | some url =>
    if Text.startsWith "http://" url || Text.startsWith "https://" url then .ok ()
    else .error (.endpointScheme url)

/-- Checks a configuration; the first fault counts. -/
def Config.validate (c : Config) : Except ConfigFault Unit := do
  c.logging.validate
  c.controlPlane.validate

end StartOnReady
