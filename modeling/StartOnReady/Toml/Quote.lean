import StartOnReady.Text.Hex
import StartOnReady.Toml.Line

/-!
# TOML strings

Basic strings stand between double quotes and know escapes, literal strings stand between single
quotes and know none.  Either may be long: between three quotes it can hold line ends.
-/

namespace StartOnReady.Toml

/-! ### Escapes -/

/-- The character behind a backslash stands for this one. -/
def escape? : Char → Option Char
  | 'b' => some '\x08'
  | 't' => some '\t'
  | 'n' => some '\n'
  | 'f' => some '\x0c'
  | 'r' => some '\r'
  | '"' => some '"'
  | '\\' => some '\\'
  | _ => none

/-- The character that `count` hexadecimal digits name. -/
def readCode? (count : Nat) (cs : List Char) : Option (Char × List Char) := do
  let (n, cs) ← Text.readHex? count 0 cs
  let c ← Text.charOf? n
  some (c, cs)

/-- The character of an escape whose backslash has been read. -/
def readEscape? : List Char → Option (Char × List Char)
  | 'u' :: cs => readCode? 4 cs
  | 'U' :: cs => readCode? 8 cs
  | c :: cs => (escape? c).map (·, cs)
  | [] => none

/-- A character before the rest of a string. -/
def before (c : Char) (rest : Option (List Char × List Char)) : Option (List Char × List Char) :=
  rest.map fun (chars, cs) => (c :: chars, cs)

/-! ### Short strings -/

/-- The characters up to the closing quote, and the text behind it. -/
def readBasic? : (steps : Nat) → List Char → Option (List Char × List Char)
  | 0, _ => none
  | _ + 1, [] => none
  | _ + 1, '"' :: cs => some ([], cs)
  | steps + 1, '\\' :: cs => do
    let (c, cs) ← readEscape? cs
    before c (readBasic? steps cs)
  | steps + 1, c :: cs => if isTextChar c then before c (readBasic? steps cs) else none

/-- The characters up to the closing quote, and the text behind it. -/
def readLiteral? : List Char → Option (List Char × List Char)
  | [] => none
  | '\'' :: cs => some ([], cs)
  | c :: cs => if isTextChar c then before c (readLiteral? cs) else none

/-! ### Long strings -/

/-- The text without a line end at its start. -/
def dropNewline (cs : List Char) : List Char := (readNewline? cs).getD cs

/-- Behind the three quotes that close a long string up to two more belong to it. -/
def readClosing? (quote : Char) (cs : List Char) : Option (List Char × List Char) :=
  let extra := cs.takeWhile (· == quote)
  if extra.length ≤ 2 then some (extra, cs.drop extra.length) else none

/-- Behind a backslash at the end of a line: the text from the next character that is neither blank
nor line end. -/
def readContinuation? (cs : List Char) : Option (List Char) := do
  let cs ← readNewline? (skipBlanks cs)
  some (skipLines cs)
where
  /-- Passes over blanks and line ends. -/
  skipLines : List Char → List Char
    | '\r' :: '\n' :: cs => skipLines cs
    | c :: cs => if isBlank c || c == '\n' then skipLines cs else c :: cs
    | [] => []

/-- The characters up to the closing quotes, and the text behind them. -/
def readLongBasic? : (steps : Nat) → List Char → Option (List Char × List Char)
  | 0, _ => none
  | _ + 1, [] => none
  | _ + 1, '"' :: '"' :: '"' :: cs => readClosing? '"' cs
  | steps + 1, '\\' :: cs =>
    match readContinuation? cs with
    | some cs => readLongBasic? steps cs
    | none => do
      let (c, cs) ← readEscape? cs
      before c (readLongBasic? steps cs)
  | steps + 1, '\r' :: '\n' :: cs => before '\n' (readLongBasic? steps cs)
  | steps + 1, c :: cs =>
    if isTextChar c || c == '\n' then before c (readLongBasic? steps cs) else none

/-- The characters up to the closing quotes, and the text behind them. -/
def readLongLiteral? : List Char → Option (List Char × List Char)
  | [] => none
  | '\'' :: '\'' :: '\'' :: cs => readClosing? '\'' cs
  | '\r' :: '\n' :: cs => before '\n' (readLongLiteral? cs)
  | c :: cs => if isTextChar c || c == '\n' then before c (readLongLiteral? cs) else none

end StartOnReady.Toml
