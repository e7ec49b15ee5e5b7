import StartOnReady.Json.Document
import StartOnReady.Text.Hex

/-!
# Reading JSON text

`Document.read` turns any text into a document and says whether nothing but blanks follows it.
`Value.parse?` is the value of a text that is JSON throughout.
-/

namespace StartOnReady.Json

/-- The deepest nesting of containers in a value. -/
def maxLevels : Nat := 127

/-- The four characters that may stand between tokens. -/
def isJsonBlank (c : Char) : Bool := c == ' ' || c == '\t' || c == '\n' || c == '\r'

/-- The text from its first character that is not blank. -/
def skipBlanks (cs : List Char) : List Char := cs.dropWhile isJsonBlank

/-! ### Numbers -/

/-- One or more digits and the text behind them. -/
def readDigits? (cs : List Char) : Option (List Char × List Char) :=
  match cs.takeWhile Char.isDigit with
  | [] => none
  | digits => some (digits, cs.dropWhile Char.isDigit)

/-- Digits without a leading zero. -/
def readWhole? : List Char → Option (List Char × List Char)
  | '0' :: c :: cs => if c.isDigit then none else some (['0'], c :: cs)
  | cs => readDigits? cs

/-- An optional point with digits behind it. -/
def readFraction? : List Char → Option (Option (List Char) × List Char)
  | '.' :: cs => (readDigits? cs).map fun (digits, rest) => (some digits, rest)
  | cs => some (none, cs)

/-- An optional exponent. -/
def readExponent? : List Char → Option (Option (Bool × List Char) × List Char)
  | c :: cs =>
    if c = 'e' ∨ c = 'E' then
      let (negative, cs) :=
        match cs with
        | '-' :: cs => (true, cs)
        | '+' :: cs => (false, cs)
        | cs => (false, cs)
      (readDigits? cs).map fun (digits, rest) => (some (negative, digits), rest)
    else some (none, c :: cs)
  | [] => some (none, [])

/-- A number behind its sign. -/
def readMagnitude? (negative : Bool) (cs : List Char) : Option (Decimal.Literal × List Char) := do
  let (whole, cs) ← readWhole? cs
  let (fraction, cs) ← readFraction? cs
  let (exponent, cs) ← readExponent? cs
  some (⟨negative, whole, fraction, exponent⟩, cs)

/-! ### Strings -/

/-- The character behind a backslash stands for this one. -/
def escape? : Char → Option Char
  | '"' => some '"'
  | '\\' => some '\\'
  | '/' => some '/'
  | 'b' => some '\x08'
  | 'f' => some '\x0c'
  | 'n' => some '\n'
  | 'r' => some '\r'
  | 't' => some '\t'
  | _ => none

/-- The pieces of a string up to its closing quote, and the text behind it. -/
def readPieces? : List Char → Option (List Piece × List Char)
  | [] => none
  | '"' :: cs => some ([], cs)
  | '\\' :: 'u' :: a :: b :: c :: d :: cs => do
    let (n, _) ← Text.readHex? 4 0 [a, b, c, d]
    let (pieces, rest) ← readPieces? cs
    some (.unit n :: pieces, rest)
  | '\\' :: c :: cs => do
    let c ← escape? c
    let (pieces, rest) ← readPieces? cs
    some (.escaped c :: pieces, rest)
  | c :: cs =>
    if c.toNat < 0x20 || c == '\\' then none
    else do
      let (pieces, rest) ← readPieces? cs
      some (.plain c :: pieces, rest)

/-! ### Documents -/

/-- The text behind a word, if it starts with it. -/
def readWord? : (word : List Char) → List Char → Option (List Char)
  | [], cs => some cs
  | w :: word, c :: cs => if w = c then readWord? word cs else none
  | _ :: _, [] => none

/-- A document and the text behind it, or the fault. -/
def orBroken : Option (Document × List Char) → Document × List Char
  | some found => found
  | none => (.broken, [])

mutual

/-- The document at the start of a text and the text behind it.  `steps` bounds the number of
containers and items below it; twice the length of the text is always enough. -/
def readDocument : (steps : Nat) → List Char → Document × List Char
  | 0, _ => (.broken, [])
  | steps + 1, cs =>
    match skipBlanks cs with
    | 'n' :: cs => orBroken ((readWord? ['u', 'l', 'l'] cs).map (.null, ·))
    | 't' :: cs => orBroken ((readWord? ['r', 'u', 'e'] cs).map (.boolean true, ·))
    | 'f' :: cs => orBroken ((readWord? ['a', 'l', 's', 'e'] cs).map (.boolean false, ·))
    | '"' :: cs => orBroken ((readPieces? cs).map fun (pieces, rest) => (.string pieces, rest))
    | '-' :: cs => orBroken ((readMagnitude? true cs).map fun (l, rest) => (.number l, rest))
    | '[' :: cs =>
      match skipBlanks cs with
      | ']' :: cs => (.array [] true, cs)
      | cs =>
        let (items, closed, rest) := readItems steps cs
        (.array items closed, rest)
    | '\x7b' :: cs =>
      match skipBlanks cs with
      | '\x7d' :: cs => (.object [] true, cs)
      | cs =>
        let (members, closed, rest) := readMembers steps cs
        (.object members closed, rest)
    | cs => orBroken ((readMagnitude? false cs).map fun (l, rest) => (.number l, rest))

/-- The items up to the closing bracket, and whether it was found. -/
def readItems : (steps : Nat) → List Char → List Document × Bool × List Char
  | 0, _ => ([], false, [])
  | steps + 1, cs =>
    let (item, cs) := readDocument steps cs
    match skipBlanks cs with
    | ']' :: cs => ([item], true, cs)
    | ',' :: cs =>
      let (items, closed, rest) := readItems steps cs
      (item :: items, closed, rest)
    | _ => ([item], false, [])

/-- The members up to the closing brace, and whether it was found. -/
def readMembers : (steps : Nat) → List Char → List (Document × Document) × Bool × List Char
  | 0, _ => ([], false, [])
  | steps + 1, cs =>
    let (name, cs) := readDocument steps cs
    match name.isString, skipBlanks cs with
    | true, ':' :: cs =>
      let (item, cs) := readDocument steps cs
      match skipBlanks cs with
      | '\x7d' :: cs => ([(name, item)], true, cs)
      | ',' :: cs =>
        let (members, closed, rest) := readMembers steps cs
        ((name, item) :: members, closed, rest)
      | _ => ([(name, item)], false, [])
    | _, _ => ([(name, .broken)], false, [])

end

/-- The document of a text, and whether nothing but blanks follows it. -/
def Document.read (text : String) : Document × Bool :=
  let cs := text.toList
  let (document, rest) := readDocument (2 * cs.length + 2) cs
  (document, (skipBlanks rest).isEmpty)

/-- The value of a text that is JSON throughout. -/
def Value.parse? (text : String) : Option Value :=
  match Document.read text with
  | (document, true) => document.toValue? maxLevels
  | (_, false) => none

end StartOnReady.Json
