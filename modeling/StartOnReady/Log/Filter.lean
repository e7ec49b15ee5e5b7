import StartOnReady.Log.Directive
import StartOnReady.Text.Search

/-!
# Filters

A filter is a list of directives between commas.  Of those that concern a record the most specific
one decides whether it is printed, and the last of several alike; if none does, it is not.
-/

namespace StartOnReady.Log

open Text (ReadError)

/-- The field under which the message of a record counts. -/
def messageField : String := "message"

/-- Whether a record has a field. -/
def Record.hasField (r : Record) (name : String) : Bool :=
  name == messageField || r.fields.any (·.name == name)

namespace Directive

/-- Whether a directive concerns a record outside of every span. -/
def concerns (d : Directive) (source : String) (r : Record) : Bool :=
  !d.needsSpan && d.source.all (Text.startsWith · source) && d.field.all r.hasField

/-- The length of the start of names that a directive asks for, none being the shortest. -/
def reach (d : Directive) : Nat :=
  match d.source with
  | none => 0
  | some s => s.length + 1

/-- Whether a directive is more specific than another: by the source, then by the field. -/
def outranks (a b : Directive) : Bool :=
  b.reach < a.reach ||
    (a.reach == b.reach &&
      match a.field, b.field with
      | some x, some y => decide (y < x)
      | some _, none => true
      | none, _ => false)

end Directive

/-- The directives of a filter. -/
structure Filter where
  directives : List Directive
  deriving DecidableEq, Repr

namespace Filter

/-- The texts of the directives. -/
def texts (s : String) : List (List Char) :=
  (Text.parts ',' s.toList).filter fun part => !part.isEmpty

/-- Reads a filter of which every part is a directive. -/
def parse (s : String) : Except ReadError Filter :=
  ((texts s).mapM Directive.ofChars).map Filter.mk

/-- The filter of the grave records of every source. -/
def errors : Filter := ⟨[{ threshold := some .error }]⟩

/-- The directives among the texts, without the texts that have another form. -/
def directivesIn : List (List Char) → Except ReadError (List Directive)
  | [] => .ok []
  | text :: texts =>
    match Directive.ofChars text with
    | .ok d => (directivesIn texts).map (d :: ·)
    | .error .form => directivesIn texts
    | .error .place => .error .place

/-- Reads a filter and passes over what is no directive.  Without any directive only errors are
printed. -/
def ofText (s : String) : Except ReadError Filter :=
  (directivesIn (texts s)).map fun directives =>
    if directives.isEmpty then errors else ⟨directives⟩

/-- The directive that decides about a record. -/
def decisive? (f : Filter) (source : String) (r : Record) : Option Directive :=
  (f.directives.filter (·.concerns source r)).foldl
    (fun best d =>
      match best with
      | none => some d
      | some b => if b.outranks d then some b else some d)
    none

/-- Whether a record of a source is printed. -/
def allows (f : Filter) (source : String) (r : Record) : Bool :=
  match f.decisive? source r with
  | some { threshold := some level, .. } => r.level.rank ≤ level.rank
  | _ => false

end Filter

end StartOnReady.Log
