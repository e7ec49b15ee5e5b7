/-!
# Log records

A record has a level, a message, named fields and, inside a span, the span it belongs to.
-/

namespace StartOnReady.Log

/-- The weight of a record; the first is the gravest. -/
inductive Level where
  | error
  | warn
  | info
  | debug
  | trace
  deriving DecidableEq, Repr

/-- The number of a level, from one for the gravest. -/
def Level.rank : Level → Nat
  | error => 1
  | warn => 2
  | info => 3
  | debug => 4
  | trace => 5

/-- The word for a level. -/
def Level.text : Level → String
  | error => "ERROR"
  | warn => "WARN"
  | info => "INFO"
  | debug => "DEBUG"
  | trace => "TRACE"

/-- A named text. -/
structure Field where
  name : String
  text : String
  /-- Whether the text is shown between quotes among others. -/
  isQuoted : Bool
  deriving DecidableEq, Repr

/-- A field whose text is shown as it is. -/
def Field.plain (name text : String) : Field := ⟨name, text, false⟩

/-- A field whose text is shown between quotes. -/
def Field.quoted (name text : String) : Field := ⟨name, text, true⟩

/-- A stretch of work that records belong to. -/
structure Span where
  name : String
  fields : List Field
  deriving DecidableEq, Repr

/-- One record. -/
structure Record where
  level : Level
  message : String
  fields : List Field := []
  span : Option Span := none
  deriving DecidableEq, Repr

/-- The record as part of a span. -/
def Record.within (span : Span) (record : Record) : Record := { record with span := some span }

end StartOnReady.Log
