import StartOnReady.Toml.Assembly
import StartOnReady.Toml.Key
import StartOnReady.Toml.Moment
import StartOnReady.Toml.Number

/-!
# Reading TOML

`parse?` gives the table of a document, and `none` if the text is not TOML.
-/

namespace StartOnReady.Toml

/-! ### Values -/

/-- A string value. -/
def asString (read : Option (List Char × List Char)) : Option (Value × List Char) :=
  read.map fun (chars, cs) => (.string (String.ofList chars), cs)

/-- A moment or a number. -/
def readScalar? (cs : List Char) : Option (Value × List Char) :=
  match readMoment? cs with
  | some rest => some (.moment (String.ofList (cs.take (cs.length - rest.length))), rest)
  | none => readNumber? cs

/-- The most levels of arrays and inline tables. -/
def maxLevels : Nat := 79

mutual

/-- A value with at most `levels` levels, and the text behind it.  `steps` bounds the number of
values below it. -/
def readValue? : (steps levels : Nat) → List Char → Option (Value × List Char)
  | 0, _, _ => none
  | steps + 1, levels, cs =>
    match cs with
    | '"' :: '"' :: '"' :: cs => asString (readLongBasic? (cs.length + 1) (dropNewline cs))
    | '"' :: cs => asString (readBasic? (cs.length + 1) cs)
    | '\'' :: '\'' :: '\'' :: cs => asString (readLongLiteral? (dropNewline cs))
    | '\'' :: cs => asString (readLiteral? cs)
    | '[' :: cs =>
      match levels with
      | 0 => none
      | levels + 1 => (readItems? steps levels cs).map fun (items, cs) => (.array items, cs)
    | '\x7b' :: cs =>
      match levels, skipBlanks cs with
      | 0, _ => none
      | _ + 1, '\x7d' :: cs => some (.table [], cs)
      | levels + 1, cs => do
        let (assignments, cs) ← readAssignments? steps levels cs
        let v ← tableOf? assignments
        some (v, cs)
    | 't' :: 'r' :: 'u' :: 'e' :: cs => some (.boolean true, cs)
    | 'f' :: 'a' :: 'l' :: 's' :: 'e' :: cs => some (.boolean false, cs)
    | cs => readScalar? cs

/-- The items up to the closing bracket. -/
def readItems? : (steps levels : Nat) → List Char → Option (List Value × List Char)
  | 0, _, _ => none
  | steps + 1, levels, cs =>
    match skipGaps false cs with
    | ']' :: cs => some ([], cs)
    | cs => do
      let (item, cs) ← readValue? steps levels cs
      match skipGaps false cs with
      | ']' :: cs => some ([item], cs)
      | ',' :: cs =>
        let (items, cs) ← readItems? steps levels cs
        some (item :: items, cs)
      | _ => none

/-- The assignments up to the closing brace. -/
def readAssignments? : (steps levels : Nat) → List Char →
    Option (List (List String × Value) × List Char)
  | 0, _, _ => none
  | steps + 1, levels, cs => do
    let (path, cs) ← readPath? cs
    let cs ← readMark? '=' cs
    let (v, cs) ← readValue? steps levels (skipBlanks cs)
    match skipBlanks cs with
    | '\x7d' :: cs => some ([(path, v)], cs)
    | ',' :: cs =>
      let (assignments, cs) ← readAssignments? steps levels cs
      some ((path, v) :: assignments, cs)
    | _ => none

end

/-! ### Documents -/

/-- One statement of a document. -/
inductive Statement where
  | assign (path : List String) (v : Value)
  | openTable (path : List String)
  | openElement (path : List String)

/-- A path up to its closing brackets. -/
def readHeader? (closing : List Char) (cs : List Char) : Option (List String × List Char) := do
  let (path, cs) ← readPath? cs
  if closing.isPrefixOf cs then some (path, cs.drop closing.length) else none

/-- A statement up to the end of its line. -/
def readStatement? : List Char → Option (Statement × List Char)
  | '[' :: '[' :: cs => do
    let (path, cs) ← readHeader? [']', ']'] cs
    let cs ← readLineEnd? cs
    some (.openElement path, cs)
  | '[' :: cs => do
    let (path, cs) ← readHeader? [']'] cs
    let cs ← readLineEnd? cs
    some (.openTable path, cs)
  | cs => do
    let (path, cs) ← readPath? cs
    let cs ← readMark? '=' cs
    let (v, cs) ← readValue? (2 * cs.length + 2) maxLevels (skipBlanks cs)
    let cs ← readLineEnd? cs
    some (.assign path v, cs)

/-- All statements of a document. -/
def readStatements? : (steps : Nat) → List Char → Option (List Statement)
  | 0, _ => none
  | steps + 1, cs =>
    match skipGaps false cs with
    | [] => some []
    | cs => do
      let (statement, cs) ← readStatement? cs
      let statements ← readStatements? steps cs
      some (statement :: statements)

/-- The table of a document and the path of the table that was opened last. -/
structure Draft where
  members : Members := []
  path : List String := []

/-- Carries out one statement. -/
def Draft.step (d : Draft) : Statement → Option Draft
  | .assign path v => do
    some { d with members := ← changeAt false (Toml.assign path v) d.path .opened d.members }
  | .openTable path => do
    some ⟨← atLastKey false Toml.openTable path .opened d.members, path⟩
  | .openElement path => do
    some ⟨← atLastKey false Toml.openElement path .opened d.members, path⟩

/-- A text without the mark of byte order at its start. -/
def dropByteOrderMark : List Char → List Char
  | '\ufeff' :: cs => cs
  | cs => cs

/-- The members of the table that a text describes. -/
def parse? (text : String) : Option (List (String × Value)) := do
  let cs := dropByteOrderMark text.toList
  let statements ← readStatements? (cs.length + 1) cs
  let draft ← statements.foldlM Draft.step {}
  some (memberValues draft.members)

end StartOnReady.Toml
