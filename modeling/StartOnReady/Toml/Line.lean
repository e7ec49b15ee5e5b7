/-!
# Lines of TOML

Blanks, line ends and comments.
-/

namespace StartOnReady.Toml

/-- Space and tab. -/
def isBlank (c : Char) : Bool := c == ' ' || c == '\t'

/-- The text from its first character that is no blank. -/
def skipBlanks (cs : List Char) : List Char := cs.dropWhile isBlank

/-- The characters that may stand in a comment or a string: all but the controls other than tab. -/
def isTextChar (c : Char) : Bool := c == '\t' || (0x20 ≤ c.toNat && c != '\x7f')

/-- The text behind a line end. -/
def readNewline? : List Char → Option (List Char)
  | '\n' :: cs => some cs
  | '\r' :: '\n' :: cs => some cs
  | _ => none

/-- The text behind a comment, if one starts here. -/
def skipComment : List Char → List Char
  | '#' :: cs => cs.dropWhile isTextChar
  | cs => cs

/-- The text behind the blanks, the comment and the end of a line. -/
def readLineEnd? (cs : List Char) : Option (List Char) :=
  match skipComment (skipBlanks cs) with
  | [] => some []
  | cs => readNewline? cs

/-- The text behind blanks, comments and line ends; `inComment` says where it starts. -/
def skipGaps : (inComment : Bool) → List Char → List Char
  | _, '\n' :: cs => skipGaps false cs
  | _, '\r' :: '\n' :: cs => skipGaps false cs
  | inComment, c :: cs =>
    if inComment && isTextChar c then skipGaps true cs
    else if isBlank c then skipGaps false cs
    else if c == '#' then skipGaps true cs
    else c :: cs
  | _, [] => []

end StartOnReady.Toml
