import StartOnReady.Decimal.Literal
import StartOnReady.Decimal.Whole
import StartOnReady.Settings.Tree
import StartOnReady.Text.Blank
import StartOnReady.Text.Slice
import StartOnReady.Toml.Key

/-!
# Settings written as text

The value of a variable is read as a truth value, a number, a table in braces, a sequence in
brackets, a quoted string or a single quoted character.  What is none of these is the text itself.
A quoted string is cut in front of its first escape, which a text can forbid.
-/

namespace StartOnReady.Settings

open Decimal (Literal)
open Text (ReadError)

/-! ### Bare words -/

/-- The characters that end a bare word. -/
def isSeparator (c : Char) : Bool :=
  c == ',' || c == '\x7b' || c == '\x7d' || c == '[' || c == ']'

/-- A number with a point. -/
def real? (cs : List Char) : Option Decimal.Binary64 :=
  if cs.contains '.' then (Literal.ofChars? cs).map Literal.nearest else none

/-- What a bare word stands for. -/
def Datum.ofWord (cs : List Char) : Datum :=
  match real? cs with
  | some x => .real x
  | none =>
    match Decimal.unsigned64? cs with
    | some n => .unsigned n
    | none =>
      match Decimal.signed64? cs with
      | some i => .signed i
      | none => .text (String.ofList cs)

/-! ### Values -/

/-- The text from its first character that is no blank. -/
def skipBlanks (cs : List Char) : List Char := cs.dropWhile Text.isAsciiBlank

/-- A setting of the environment. -/
def setting (datum : Datum) : Tree := .leaf .environment datum

/-! ### Quoted strings -/

/-- The characters between two quotes as they are written, and the text behind them. -/
def readQuotes? : List Char → Option (List Char × List Char)
  | [] => none
  | '"' :: cs => some ([], cs)
  | '\\' :: c :: cs => (readQuotes? cs).map fun (written, rest) => ('\\' :: c :: written, rest)
  | c :: cs => (readQuotes? cs).map fun (written, rest) => (c :: written, rest)

/-- The characters that stand for others by escapes, and those that stand for themselves. -/
def escaped (written : List Char) : Except ReadError (List Char) :=
  match Toml.readBasic? (written.length + 2) (written ++ ['"']) with
  | some (chars, _) => .ok chars
  | none => .error .form

/-- What is written between quotes.  In front of the first escape as many bytes are kept as there
are characters. -/
def unquoted (written : List Char) : Except ReadError (List Char) :=
  let plain := written.takeWhile (· != '\\')
  match written.dropWhile (· != '\\') with
  | [] => escaped plain
  | rest => do
    let chars ← escaped plain
    let kept ← Text.slice 0 chars.length chars
    .ok (kept ++ (← escaped rest))

/-- A string behind its opening quote. -/
def readQuoted (cs : List Char) : Except ReadError (String × List Char) :=
  match readQuotes? cs with
  | some (written, rest) => do .ok (String.ofList (← unquoted written), rest)
  | none => .error .form

/-- A key: a bare word or a string between double quotes. -/
def readMemberKey : List Char → Except ReadError (String × List Char)
  | '"' :: cs => readQuoted cs
  | '\'' :: _ => .error .form
  | cs =>
    match Toml.readKey? cs with
    | some found => .ok found
    | none => .error .form

/-! ### Trees -/

mutual

/-- A value without the blanks around it, and the text behind them.  `steps` bounds the number of
values below it. -/
def readValue : (steps : Nat) → List Char → Except ReadError (Tree × List Char)
  | 0, _ => .error .form
  | steps + 1, cs => do
    let (tree, cs) ←
      match skipBlanks cs with
      | 't' :: 'r' :: 'u' :: 'e' :: cs => .ok (setting (.boolean true), cs)
      | 'f' :: 'a' :: 'l' :: 's' :: 'e' :: cs => .ok (setting (.boolean false), cs)
      | '\x7b' :: cs => do
        let (members, cs) ← readMembers steps cs
        .ok (.table .environment (Keyed.ofList members), cs)
      | '[' :: cs => do
        let (items, cs) ← readItems steps cs
        .ok (.sequence .environment items, cs)
      | '"' :: cs => do
        let (s, cs) ← readQuoted cs
        .ok (setting (.text s), cs)
      | '\'' :: c :: '\'' :: cs => .ok (setting (.letter c), cs)
      | '\'' :: _ => .error .form
      | cs =>
        .ok (setting (.ofWord (Text.trimChars (cs.takeWhile (!isSeparator ·)))),
          cs.dropWhile (!isSeparator ·))
    .ok (tree, skipBlanks cs)

/-- The items up to the closing bracket. -/
def readItems : (steps : Nat) → List Char → Except ReadError (List Tree × List Char)
  | 0, _ => .error .form
  | _ + 1, ']' :: cs => .ok ([], cs)
  | steps + 1, cs => do
    let (item, cs) ← readValue steps cs
    match cs with
    | ']' :: cs => .ok ([item], cs)
    | ',' :: cs => do
      let (items, cs) ← readItems steps cs
      .ok (item :: items, cs)
    | _ => .error .form

/-- The members up to the closing brace. -/
def readMembers : (steps : Nat) → List Char → Except ReadError (List (String × Tree) × List Char)
  | 0, _ => .error .form
  | _ + 1, '\x7d' :: cs => .ok ([], cs)
  | steps + 1, cs => do
    let (key, cs) ← readMemberKey (skipBlanks cs)
    match skipBlanks cs with
    | '=' :: cs => do
      let (item, cs) ← readValue steps cs
      match cs with
      | '\x7d' :: cs => .ok ([(key, item)], cs)
      | ',' :: cs => do
        let (members, cs) ← readMembers steps cs
        .ok ((key, item) :: members, cs)
      | _ => .error .form
    | _ => .error .form

end

/-- The setting that a text stands for, unless a string in it would be cut inside a character. -/
def Tree.ofText? (s : String) : Option Tree :=
  let cs := s.toList
  match readValue (2 * cs.length + 2) cs with
  | .ok (tree, []) => some tree
  | .error .place => none
  | _ => some (setting (.text s))

end StartOnReady.Settings
