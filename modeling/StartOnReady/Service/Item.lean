import StartOnReady.Service.Token

/-!
# Items of a body

What the tokens of a body build together.  Strings and names stay as they are written.
-/

namespace StartOnReady.Service

/-- A piece of data in a body. -/
inductive Item where
  | null
  | boolean (b : Bool)
  | number (literal : Decimal.Literal)
  | string (written : List Char)
  | array (items : List Item)
  | object (members : List (List Char × Item))
  deriving Repr, BEq, Inhabited

namespace Item

mutual

/-- The item at the start of the tokens, and the tokens behind it.  `steps` bounds the number of
items below it; twice the number of tokens is always enough. -/
def readItem? : (steps : Nat) → List Token → Option (Item × List Token)
  | 0, _ => none
  | steps + 1, tokens =>
    match tokens with
    | .null :: rest => some (.null, rest)
    | .boolean b :: rest => some (.boolean b, rest)
    | .number literal :: rest => some (.number literal, rest)
    | .string written :: rest => some (.string written, rest)
    | .openArray :: .closeArray :: rest => some (.array [], rest)
    | .openArray :: rest => (readItems? steps rest).map fun (items, rest) => (.array items, rest)
    | .openObject :: .closeObject :: rest => some (.object [], rest)
    | .openObject :: rest =>
      (readMembers? steps rest).map fun (members, rest) => (.object members, rest)
    | _ => none

/-- The items up to the closing bracket, and the tokens behind it. -/
def readItems? : (steps : Nat) → List Token → Option (List Item × List Token)
  | 0, _ => none
  | steps + 1, tokens =>
    match readItem? steps tokens with
    | some (item, .closeArray :: rest) => some ([item], rest)
    | some (item, .comma :: rest) =>
      (readItems? steps rest).map fun (items, rest) => (item :: items, rest)
    | _ => none

/-- The members up to the closing brace, and the tokens behind it. -/
def readMembers? : (steps : Nat) → List Token → Option (List (List Char × Item) × List Token)
  | 0, _ => none
  | steps + 1, tokens =>
    match tokens with
    | .string name :: .colon :: rest =>
      match readItem? steps rest with
      | some (item, .closeObject :: rest) => some ([(name, item)], rest)
      | some (item, .comma :: rest) =>
        (readMembers? steps rest).map fun (members, rest) => ((name, item) :: members, rest)
      | _ => none
    | _ => none

end

/-- The one item that all the tokens build. -/
def ofTokens? (tokens : List Token) : Option Item :=
  match readItem? (2 * tokens.length + 2) tokens with
  | some (item, []) => some item
  | _ => none

/-! ### Items that nobody reads -/

mutual

/-- Whether an item has at most `levels` levels of containers. -/
def keepsLevels : Item → (levels : Nat) → Bool
  | .array items, levels + 1 => allKeepLevels items levels
  | .object members, levels + 1 => valuesKeepLevels members levels
  | .array _, 0 | .object _, 0 => false
  | _, _ => true
termination_by structural item => item

def allKeepLevels : List Item → (levels : Nat) → Bool
  | [], _ => true
  | item :: items, levels => keepsLevels item levels && allKeepLevels items levels
termination_by structural items => items

def valuesKeepLevels : List (List Char × Item) → (levels : Nat) → Bool
  | [], _ => true
  | (_, item) :: members, levels => keepsLevels item levels && valuesKeepLevels members levels
termination_by structural members => members

end

/-- Whether a reader passes over an item: it does not nest too deep. -/
def isPassable (item : Item) : Bool := item.keepsLevels 512

/-! ### What an item holds -/

/-- Whether the item is an object. -/
def isObject : Item → Bool
  | .object _ => true
  | _ => false

/-- The text of a string. -/
def text? : Item → Option String
  | .string written => Token.meaning? written
  | _ => none

/-- The last of the members whose name means this text. -/
def lastOf? (name : String) (members : List (List Char × Item)) : Option Item :=
  (members.reverse.find? fun (written, _) => Token.meaning? written == some name).map Prod.snd

/-- The last member of an object with a name. -/
def member? (name : String) : Item → Option Item
  | .object members => lastOf? name members
  | _ => none

end Item

end StartOnReady.Service
