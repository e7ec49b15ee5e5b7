import StartOnReady.Toml.Quote

/-!
# TOML keys
-/

namespace StartOnReady.Toml

/-- The characters of a key without quotes. -/
def isKeyChar (c : Char) : Bool := c.isAlphanum || c == '-' || c == '_'

/-- One key. -/
def readKey? : List Char → Option (String × List Char)
  | '"' :: cs => (readBasic? (cs.length + 1) cs).map fun (key, cs) => (String.ofList key, cs)
  | '\'' :: cs => (readLiteral? cs).map fun (key, cs) => (String.ofList key, cs)
  | cs =>
    match cs.takeWhile isKeyChar with
    | [] => none
    | key => some (String.ofList key, cs.dropWhile isKeyChar)

/-- Keys with points between them, and the text from the next character that is no blank. -/
def readKeys? : (steps : Nat) → List Char → Option (List String × List Char)
  | 0, _ => none
  | steps + 1, cs => do
    let (key, cs) ← readKey? (skipBlanks cs)
    match skipBlanks cs with
    | '.' :: cs =>
      let (path, cs) ← readKeys? steps cs
      some (key :: path, cs)
    | cs => some ([key], cs)

/-- The most keys of a path. -/
def maxPath : Nat := 79

/-- A path of keys with points between them, and the text from the next character that is no
blank. -/
def readPath? (cs : List Char) : Option (List String × List Char) := do
  let (path, cs) ← readKeys? cs.length cs
  if path.length ≤ maxPath then some (path, cs) else none

end StartOnReady.Toml
