import StartOnReady.Json.Printer
import StartOnReady.Log.Filter
import StartOnReady.Text.Quoted

/-!
# Layouts of records

A record becomes one line of text, with colours or without, or one JSON object.  The name of its
source is shown; a span is not.
-/

namespace StartOnReady.Log

/-- The form of a line. -/
inductive Layout where
  | text (coloured : Bool)
  | json
  deriving DecidableEq, Repr

/-! ### Text -/

/-- The level, five characters wide. -/
def Level.padded (l : Level) : String :=
  String.ofList (List.replicate (5 - l.text.length) ' ') ++ l.text

/-- A way of showing text on a terminal. -/
inductive Paint where
  | red
  | green
  | yellow
  | blue
  | purple
  | dim
  | italic
  deriving DecidableEq, Repr

/-- The number of a paint among the terminal's renditions. -/
def Paint.code : Paint → String
  | dim => "2"
  | italic => "3"
  | red => "31"
  | green => "32"
  | yellow => "33"
  | blue => "34"
  | purple => "35"

/-- The text between the marks that switch a paint on and off. -/
def Paint.apply (p : Paint) (coloured : Bool) (s : String) : String :=
  if coloured then "\x1b[" ++ p.code ++ "m" ++ s ++ "\x1b[0m" else s

/-- The colour of a level. -/
def Level.paint : Level → Paint
  | error => .red
  | warn => .yellow
  | info => .green
  | debug => .blue
  | trace => .purple

/-- How a character stands in a message: a terminal must not take it for a command. -/
def messageChar (c : Char) : List Char :=
  if c = '\x1b' || c = '\x07' || c = '\x08' || c = '\x0c' || c = '\x7f' then
    ['\\', 'x'] ++ Text.hexPadded 2 c.toNat
  else if 0x80 ≤ c.toNat && c.toNat ≤ 0x9f then
    ['\\', 'u', '\x7b'] ++ Text.hex c.toNat ++ ['\x7d']
  else [c]

/-- A message without commands to a terminal. -/
def shownMessage (s : String) : String := String.ofList (s.toList.flatMap messageChar)

/-- The text of a field as it is shown. -/
def Field.shown (f : Field) : String := if f.isQuoted then Text.quoted f.text else f.text

/-- A field with a space before it. -/
def Field.item (coloured : Bool) (f : Field) : String :=
  " " ++ Paint.italic.apply coloured f.name ++ Paint.dim.apply coloured "=" ++ f.shown

/-- The line of a record as text. -/
def Record.textLine (coloured : Bool) (source : String) (r : Record) : String :=
  r.level.paint.apply coloured r.level.padded ++ " " ++ Paint.dim.apply coloured source ++
    Paint.dim.apply coloured ":" ++ " " ++ shownMessage r.message ++
    String.join (r.fields.map (·.item coloured))

/-! ### JSON -/

/-- A record as an object. -/
def Record.toJson (source : String) (r : Record) : Json.Value :=
  let message : String × Json.Value := (messageField, .string r.message)
  .object [("level", .string r.level.text),
    ("fields", .object (message :: r.fields.map fun f => (f.name, .string f.text))),
    ("target", .string source)]

/-- The line of a record. -/
def Layout.line (l : Layout) (source : String) (r : Record) : String :=
  match l with
  | text coloured => r.textLine coloured source
  | json => (r.toJson source).render

end StartOnReady.Log
