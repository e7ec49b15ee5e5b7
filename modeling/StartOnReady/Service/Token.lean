import StartOnReady.Json.Reader

/-!
# Tokens of a body

A body is read token by token, and more freely than JSON.  A number may have zeros in front and
may leave out the digits on one side of its point; behind the backslash of a string only one
character is looked at.  What a string means is asked where somebody reads it.
-/

namespace StartOnReady.Service

/-- A token.  A body without one at some place ends there with a `fault`. -/
inductive Token where
  | openObject
  | closeObject
  | openArray
  | closeArray
  | colon
  | comma
  | null
  | boolean (b : Bool)
  | number (literal : Decimal.Literal)
  /-- A string by the characters that are written between its quotes. -/
  | string (written : List Char)
  | fault
  deriving DecidableEq, Repr

namespace Token

/-! ### Strings -/

/-- Whether a character may stand behind a backslash. -/
def isEscape (c : Char) : Bool := c == 'u' || (Json.escape? c).isSome

/-- The characters of a string up to its closing quote, and the text behind it. -/
def readWritten? : List Char → Option (List Char × List Char)
  | [] => none
  | '"' :: cs => some ([], cs)
  | '\\' :: c :: cs =>
    if isEscape c then
      (readWritten? cs).map fun (written, rest) => ('\\' :: c :: written, rest)
    else none
  | c :: cs =>
    if c.toNat < 0x20 || c == '\\' then none
    else (readWritten? cs).map fun (written, rest) => (c :: written, rest)

/-- The text that a string means; `none` if an escape in it means no character. -/
def meaning? (written : List Char) : Option String := do
  let (pieces, _) ← Json.readPieces? (written ++ ['"'])
  (Json.pieceChars? pieces).map String.ofList

/-! ### Numbers -/

/-- The characters of a number. -/
def isNumberChar (c : Char) : Bool :=
  c.isDigit || c == '-' || c == '+' || c == '.' || c == 'e' || c == 'E'

/-! ### The tokens of a text -/

/-- Whether a word or a number may end in front of this text. -/
def endsWord : List Char → Bool
  | [] => true
  | c :: _ => Json.isJsonBlank c || c == '\x7d' || c == ']' || c == ','

/-- A word as a token. -/
def readWord? (word : String) (token : Token) (cs : List Char) : Option (Token × List Char) := do
  let rest ← Json.readWord? word.toList cs
  if endsWord rest then some (token, rest) else none

/-- A number as a token. -/
def readNumber? (cs : List Char) : Option (Token × List Char) := do
  let literal ← Decimal.Literal.ofChars? (cs.takeWhile isNumberChar)
  let rest := cs.dropWhile isNumberChar
  if endsWord rest then some (.number literal, rest) else none

/-- The token at the start of a text, and the text behind it. -/
def read? : List Char → Option (Token × List Char)
  | [] => none
  | '\x7b' :: cs => some (.openObject, cs)
  | '\x7d' :: cs => some (.closeObject, cs)
  | '[' :: cs => some (.openArray, cs)
  | ']' :: cs => some (.closeArray, cs)
  | ':' :: cs => some (.colon, cs)
  | ',' :: cs => some (.comma, cs)
  | '"' :: cs => (readWritten? cs).map fun (written, rest) => (.string written, rest)
  | 'n' :: cs => readWord? "null" .null ('n' :: cs)
  | 't' :: cs => readWord? "true" (.boolean true) ('t' :: cs)
  | 'f' :: cs => readWord? "false" (.boolean false) ('f' :: cs)
  | c :: cs => if c == '-' || c.isDigit then readNumber? (c :: cs) else none

/-- The tokens of a text.  A token has one character at least, so that as many `steps` are enough
as the text has characters. -/
def scanFrom : (steps : Nat) → List Char → List Token
  | 0, _ => []
  | steps + 1, cs =>
    match Json.skipBlanks cs with
    | [] => []
    | c :: cs =>
      match read? (c :: cs) with
      | some (token, rest) => token :: scanFrom steps rest
      | none => [.fault]

/-- The tokens of a body. -/
def scan (body : String) : List Token := scanFrom body.toList.length body.toList

end Token

end StartOnReady.Service
