import StartOnReady.Config.Basic
import StartOnReady.Log.Layout

/-!
# Consoles

A console prints the records that its filter allows.  The filter of a variable wins over that of the
configuration if all of it can be read.  There is no console if a filter would have to be cut inside
a character.
-/

namespace StartOnReady

/-- The variable whose filter wins. -/
def filterVariable : String := "RUST_LOG"

namespace LoggingConfig

/-- The layout of a configuration; only text is coloured. -/
def layout (c : LoggingConfig) : Log.Layout :=
  match c.format with
  | .text => .text c.ansi
  | .json => .json

/-- The filter in force, given the text of the variable if it is set. -/
def effectiveFilter (c : LoggingConfig) (override : Option String) : Option Log.Filter :=
  match override.map Log.Filter.parse with
  | some (.ok filter) => some filter
  | some (.error .place) => none
  | _ => (Log.Filter.ofText c.filter).toOption

end LoggingConfig

namespace Log

/-- What prints records. -/
structure Console where
  filter : Filter
  layout : Layout
  deriving DecidableEq, Repr

/-- The console of a configuration, given the text of the variable if it is set. -/
def Console.ofConfig? (c : LoggingConfig) (override : Option String) : Option Console :=
  (c.effectiveFilter override).map (⟨·, c.layout⟩)

/-- The lines for records of a source. -/
def Console.lines (c : Console) (source : String) (records : List Record) : List String :=
  (records.filter (c.filter.allows source)).map (c.layout.line source)

end Log

end StartOnReady
