import StartOnReady.Decimal.Whole
import StartOnReady.Log.Pattern
import StartOnReady.Log.Record
import StartOnReady.Text.Search
import StartOnReady.Text.Slice

/-!
# Directives

A directive sets the level for a source of records.  It is written `level`, `source` or
`source=level`, where a source covers all whose names it begins.  Brackets behind the source ask for
a span, and braces inside them for a field.
-/

namespace StartOnReady.Log

open Text (ReadError)

/-- What a directive lets through: nothing, or the records up to a level. -/
abbrev Threshold := Option Level

/-- A directive. -/
structure Directive where
  /-- The start of the names of the sources; without it, every source. -/
  source : Option String := none
  /-- Whether only records inside some span are meant. -/
  needsSpan : Bool := false
  /-- The field that a record needs. -/
  field : Option String := none
  threshold : Threshold := some .trace
  deriving DecidableEq, Repr

/-! ### Levels -/

/-- The word without regard to the case of its letters. -/
def caseless (word : List Char) : List Char := word.map Char.toLower

/-- The threshold with this number. -/
def thresholdOfNumber? : Nat → Option Threshold
  | 0 => some none
  | 1 => some (some .error)
  | 2 => some (some .warn)
  | 3 => some (some .info)
  | 4 => some (some .debug)
  | 5 => some (some .trace)
  | _ => none

/-- The threshold that a word names, by its number or its name. -/
def readThreshold? (word : List Char) : Option Threshold :=
  match Decimal.unsigned64? word with
  | some n => thresholdOfNumber? n
  | none =>
    if caseless word = "off".toList then some none
    else
      ([.error, .warn, .info, .debug, .trace] : List Level).findSome? fun level =>
        if caseless word = caseless level.text.toList then some (some level) else none

/-- The threshold behind the sign; if nothing is there, all records. -/
def readThresholdOrAll? (word : List Char) : Option Threshold :=
  if word.isEmpty then some (some .trace) else readThreshold? word

/-! ### Reading a directive -/

/-- Whether a directive can start with a character. -/
def startsDirective (c : Char) : Bool :=
  c == '[' || c == '-' || c == ':' || c == '_' || Text.isAlphanumeric c

/-- A mark of a directive: its place in bytes and the characters behind it. -/
structure Mark where
  char : Char
  place : Nat
  rest : List Char
  deriving DecidableEq, Repr

/-- The place behind a mark. -/
def Mark.after (m : Mark) : Nat := m.place + m.char.utf8Size

/-- The first of some marks among the characters from a place on. -/
def findMark (marks : List Char) (place : Nat) (cs : List Char) : Except ReadError Mark :=
  let isMark (c : Char) : Bool := marks.contains c
  match cs.dropWhile (!isMark ·) with
  | [] => .error .form
  | c :: rest => .ok ⟨c, place + Text.bytesOf (cs.takeWhile (!isMark ·)), rest⟩

/-- Reads a threshold behind its sign. -/
def Directive.withThreshold (d : Directive) (word : List Char) : Except ReadError Directive :=
  match readThresholdOrAll? word with
  | some t => .ok { d with threshold := t }
  | none => .error .form

/-- Reads what follows the bracket that closes a scope. -/
def afterScope (text : List Char) (place : Nat) (rest : List Char) (d : Directive) :
    Except ReadError Directive :=
  match rest with
  | [] => .ok d
  | '=' :: _ => do d.withThreshold (← Text.suffix (place + 1) text)
  | _ => .error .form

/-- The field that a scope asks for: a name, or a name and a value behind a sign.  A field with a
value is known only in a span. -/
def Directive.withField (d : Directive) (field : List Char) : Except ReadError Directive :=
  match Text.parts '=' field with
  | name :: parts =>
    if field.isEmpty || !(parts.take 1).all isValue then .error .form
    else
      .ok { d with
        field := some (String.ofList name)
        needsSpan := d.needsSpan || !parts.isEmpty }
  | [] => .error .form

/-- Reads the field behind an opening brace. -/
def fieldScope (text : List Char) (opening : Mark) (d : Directive) :
    Except ReadError Directive := do
  let closing ← findMark ['\x7d'] opening.after opening.rest
  let d ← d.withField (← Text.slice opening.after closing.place text)
  match closing.rest with
  | ']' :: rest => afterScope text (closing.after + 1) rest d
  | _ => .error .form

/-- Reads the scope behind an opening bracket. -/
def scope (text : List Char) (opening : Mark) (d : Directive) : Except ReadError Directive := do
  let mark ← findMark [']', '\x7b'] opening.after opening.rest
  let span ← Text.slice opening.after mark.place text
  if mark.char = ']' then afterScope text mark.after mark.rest { d with needsSpan := true }
  else fieldScope text mark { d with needsSpan := !span.isEmpty }

/-- Reads a directive without a scope or a sign. -/
def bareDirective (text : List Char) : Directive :=
  match readThreshold? text with
  | some t => { threshold := t }
  | none => { source := some (String.ofList text) }

/-- Reads a directive whose source ends at a mark. -/
def sourced (text : List Char) (mark : Mark) : Except ReadError Directive := do
  let source ← Text.slice 0 mark.place text
  let d : Directive := { source := some (String.ofList source) }
  if mark.char = '[' then scope text mark d else d.withThreshold (← Text.suffix mark.after text)

/-- Reads a directive.  The places of the marks are counted without the blanks around the text, and
the parts are cut from the text with its blanks. -/
def Directive.ofChars (text : List Char) : Except ReadError Directive :=
  let scan := Text.trimChars text
  match scan with
  | [] => .error .form
  | '[' :: rest => scope text ⟨'[', 0, rest⟩ {}
  | c :: _ =>
    if startsDirective c then
      match findMark ['=', '['] 0 scan with
      | .ok mark => sourced text mark
      | .error _ => .ok (bareDirective text)
    else .error .form

end StartOnReady.Log
