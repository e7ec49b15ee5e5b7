import StartOnReady.Config.Fingerprint
import StartOnReady.Config.Load
import StartOnReady.Config.Validation
import StartOnReady.Log.Console
import StartOnReady.Service.Client

/-!
# Starting

A start loads a configuration, from the file that a variable names or from the environment alone,
validates it and only then logs by it and makes the plane that events are handled on.  A rejected
configuration has no influence on how its error is logged.  A start that would have to cut a text
inside a character halts at once.
-/

namespace StartOnReady

/-- The variable that names the file of a configuration. -/
def pathVariable : String := "START_FLINK_CONFIG"

/-- The version that is logged. -/
def version : String := "0.1.0"

/-- The source of the records of a start. -/
def startSource : String := "start_flink"

/-- What a start finds. -/
structure Surroundings where
  /-- The environment in the order of the names. -/
  environment : List (String × String)
  /-- Looks for the file of a path. -/
  locate : String → Files.Located

/-- The text of a variable. -/
def Surroundings.lookup? (s : Surroundings) (name : String) : Option String :=
  Keyed.find? name s.environment

/-- Why a start fails. -/
inductive StartError where
  /-- Nothing could be loaded, from the file of a path or without one. -/
  | notLoaded (path : Option String) (error : ConfigError)
  | invalid (fault : ConfigFault)
  /-- Events can no longer be received. -/
  | notServed (reason : String)
  deriving DecidableEq, Repr

/-- The message of an error. -/
def StartError.message : StartError → String
  | notLoaded (some path) error =>
    "Failed to load config from " ++ Text.quotedPath path ++ ": " ++ error.message
  | notLoaded none error => "Failed to load config from environment: " ++ error.message
  | invalid fault => "Configuration validation failed: " ++ (ConfigError.invalid fault).message
  | notServed reason => "Lambda runtime error: " ++ reason

/-! ### Records -/

namespace Records

open Log (Record)

def coldStart (c : Config) : Record :=
  ⟨.info, "Cold start",
    [.quoted "version" version, .plain "config_hash" c.fingerprint,
      .plain "log_format" c.logging.format.title], none⟩

def endpointReplaced (url : String) : Record :=
  ⟨.info, "Using control-plane endpoint override " ++ url, [], none⟩

def handlerReady : Record := ⟨.info, "Event handler initialized", [], none⟩

def fatal (error : StartError) : Record := ⟨.error, "Fatal error: " ++ error.message, [], none⟩

end Records

/-! ### The configuration -/

namespace Surroundings

/-- Loads the configuration that the variables ask for. -/
def load (s : Surroundings) : Except ConfigError Config :=
  match s.lookup? pathVariable with
  | some path => Config.load path (s.locate path) s.environment
  | none => Config.loadFromEnvironment s.environment

/-- The configuration to start with. -/
def configuration (s : Surroundings) : Except StartError Config :=
  match s.load with
  | .error e => .error (.notLoaded (s.lookup? pathVariable) e)
  | .ok c =>
    match c.validate with
    | .error fault => .error (.invalid fault)
    | .ok () => .ok c

end Surroundings

/-! ### The start -/

/-- What a start comes to. -/
structure Start where
  console : Log.Console
  records : List Log.Record
  /-- The plane that events are handled on. -/
  plane : Option (ControlPlane Service.Network)
  exitCode : UInt8

/-- The records of a start up to its first event. -/
def Config.startRecords (c : Config) : List Log.Record :=
  Records.coldStart c ::
    (match c.controlPlane.endpointUrl with
      | some url => [Records.endpointReplaced url]
      | none => []) ++
    [Records.handlerReady]

/-- The end of a start that cannot go on and prints nothing. -/
def Start.halted : Start := ⟨⟨⟨[]⟩, .json⟩, [], none, 101⟩

namespace Surroundings

/-- Goes on with the console of a logging configuration, if there is one. -/
def withConsole (s : Surroundings) (c : LoggingConfig) (next : Log.Console → Start) : Start :=
  match Log.Console.ofConfig? c (s.lookup? filterVariable) with
  | some console => next console
  | none => .halted

/-- Starts with what is found.  `served` is how the receiving of events ends, and `found` are the
settings that the clients of the service find by themselves. -/
def start (s : Surroundings) (served : Except String Unit) (found : Service.SharedConfig := {}) :
    Start :=
  match s.configuration with
  | .error (.notLoaded _ .cutSetting) => .halted
  | .error e => s.withConsole {} fun console => ⟨console, [Records.fatal e], none, 1⟩
  | .ok c =>
    let plane := Service.plane c.controlPlane.endpointUrl found
    s.withConsole c.logging fun console =>
      match served with
      | .ok () => ⟨console, c.startRecords, some plane, 0⟩
      | .error reason =>
        ⟨console, c.startRecords ++ [Records.fatal (.notServed reason)], some plane, 1⟩

end Surroundings

/-- The lines that a start prints. -/
def Start.lines (s : Start) : List String := s.console.lines startSource s.records

end StartOnReady
