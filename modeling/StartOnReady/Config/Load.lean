import StartOnReady.Config.Error
import StartOnReady.Config.Settings
import StartOnReady.Config.Toml
import StartOnReady.Files.Tree
import StartOnReady.Settings.Environment
import StartOnReady.Settings.Toml
import StartOnReady.Toml.Reader

/-!
# Loading configurations

The settings of a file are laid over the defaults, and those of the environment over both.  The text
of a document can also be read directly, without an environment.
-/

namespace StartOnReady.Config

/-- The layer of the defaults. -/
def baseLayer : Settings.Tree := toSettings {}

/-- Reads a configuration from the members of a document below the settings of the environment. -/
def ofLayers (source : Settings.Source) (members : List (String × Toml.Value))
    (overrides : Settings.Tree) : Except ConfigError Config :=
  let document := Settings.Tree.ofToml source (.table members)
  match fromSettings [] ((baseLayer.merge document).merge overrides) with
  | .ok c => .ok c
  | .error fault => .error (.setting fault)

/-- Reads a configuration from the content of a file below the settings of the environment. -/
def ofContent (shown : String) (content : ByteArray) (overrides : Settings.Tree) :
    Except ConfigError Config :=
  match String.fromUTF8? content with
  | none => .error (.notText shown)
  | some text =>
    match Toml.parse? text with
    | none => .error .malformed
    | some members => ofLayers (.file shown) members overrides

/-- Reads a configuration below the settings of an environment, if they can be read. -/
def below (environment : List (String × String))
    (read : Settings.Tree → Except ConfigError Config) : Except ConfigError Config :=
  match Settings.ofEnvironment? environment with
  | some overrides => read overrides
  | none => .error .cutSetting

/-- Loads a configuration from the environment, whose variables are in the order of their names. -/
def loadFromEnvironment (environment : List (String × String)) : Except ConfigError Config :=
  below environment (ofLayers .environment [])

/-- Loads a configuration from the file that was found for a path, and the environment. -/
def load (path : String) (found : Files.Located) (environment : List (String × String)) :
    Except ConfigError Config :=
  match found with
  | .missing => .error (.fileNotFound path)
  | .noFile => loadFromEnvironment environment
  | .file shown content => below environment (ofContent shown content)

/-- Reads a configuration from the text of a document. -/
def ofText (text : String) : Except ConfigError Config :=
  match Toml.parse? text with
  | none => .error .malformed
  | some members =>
    match fromToml members with
    | .ok c => .ok c
    | .error fault => .error (.unsuitable fault)

end StartOnReady.Config
