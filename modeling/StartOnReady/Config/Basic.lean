/-!
# Configurations

What can be set: how records are logged, and which endpoint replaces that of the service.
-/

namespace StartOnReady

/-- The form in which records are printed. -/
inductive LogFormat where
  | text
  | json
  deriving DecidableEq, Repr

namespace LogFormat

/-- The word for a format. -/
def word : LogFormat → String
  | text => "text"
  | json => "json"

/-- The name of a format in records. -/
def title : LogFormat → String
  | text => "Text"
  | json => "Json"

/-- All words for formats. -/
def words : List String := [text.word, json.word]

/-- The format that a word names. -/
def ofWord? (s : String) : Option LogFormat :=
  if s = text.word then some text else if s = json.word then some json else none

end LogFormat

/-- How records are logged. -/
structure LoggingConfig where
  /-- Which records are printed. -/
  filter : String := "info"
  format : LogFormat := .text
  /-- Whether text is coloured. -/
  ansi : Bool := false
  deriving DecidableEq, Repr

/-- How the service is reached. -/
structure ControlPlaneConfig where
  /-- The address that replaces the endpoint of every region. -/
  endpointUrl : Option String := none
  deriving DecidableEq, Repr

/-- A configuration. -/
structure Config where
  logging : LoggingConfig := {}
  controlPlane : ControlPlaneConfig := {}
  deriving DecidableEq, Repr

end StartOnReady
