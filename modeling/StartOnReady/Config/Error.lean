import StartOnReady.Settings.Extract
import StartOnReady.Toml.Decode

/-!
# Errors of configurations
-/

namespace StartOnReady

/-- What is wrong with the values of a configuration. -/
inductive ConfigFault where
  | emptyFilter
  | endpointScheme (url : String)
  deriving DecidableEq, Repr

/-- The words for a fault. -/
def ConfigFault.words : ConfigFault → String
  | emptyFilter => "logging.filter cannot be empty"
  | endpointScheme url =>
    "control_plane.endpoint_url must start with http:// or https://, got " ++ Text.quoted url

/-- Why there is no configuration. -/
inductive ConfigError where
  | fileNotFound (path : String)
  /-- The text is not TOML. -/
  | malformed
  /-- The file is not text. -/
  | notText (path : String)
  /-- A setting of the environment would have to be cut inside a character. -/
  | cutSetting
  /-- A document does not suit the type. -/
  | unsuitable (fault : Toml.DecodeError)
  /-- A setting does not suit the type. -/
  | setting (fault : Settings.Fault)
  /-- The configuration is of the right type and yet refused. -/
  | invalid (fault : ConfigFault)
  deriving DecidableEq, Repr

/-- The message of an error. -/
def ConfigError.message : ConfigError → String
  | fileNotFound path => "Configuration file not found: " ++ path
  | malformed => "Failed to parse configuration: TOML parse error"
  | notText path =>
    "Failed to parse configuration: stream did not contain valid UTF-8\n in " ++
      (Settings.Source.file path).words
  | cutSetting => "Failed to parse configuration: a setting is cut inside a character"
  | unsuitable fault => "Failed to parse configuration: " ++ fault.message
  | setting fault => "Failed to parse configuration: " ++ fault.message
  | invalid fault => "Configuration validation failed: " ++ fault.words

end StartOnReady
