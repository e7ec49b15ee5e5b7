import StartOnReady.Json.Value

/-!
# JSON documents

A document is the shape of a JSON text before it is given a meaning: strings keep their escapes,
numbers their digits, objects all their members in order.  A text that stops being JSON still has a
document: the fault stands where it was met, as `broken` or as a container that is not closed.

`toValue?` gives a document its value.  It refuses faults, strings with half a surrogate pair,
numbers that are too large, and more levels of nesting than it is told.
-/

namespace StartOnReady.Json

/-- A piece of a string as it was written. -/
inductive Piece where
  | plain (c : Char)
  /-- A character behind a backslash. -/
  | escaped (c : Char)
  /-- A UTF-16 unit given by four digits. -/
  | unit (n : Nat)
  deriving DecidableEq, Repr

/-- The characters that the pieces write; `none` for half a surrogate pair. -/
def pieceChars? : List Piece → Option (List Char)
  | [] => some []
  | .plain c :: rest | .escaped c :: rest => (pieceChars? rest).map (c :: ·)
  | .unit high :: .unit low :: rest =>
    if 0xd800 ≤ high && high < 0xdc00 then
      if 0xdc00 ≤ low && low < 0xe000 then
        (pieceChars? rest).map
          (Char.ofNat (0x10000 + (high - 0xd800) * 0x400 + (low - 0xdc00)) :: ·)
      else none
    else if 0xdc00 ≤ high && high < 0xe000 then none
    else (pieceChars? (.unit low :: rest)).map (Char.ofNat high :: ·)
  | .unit n :: rest =>
    if 0xd800 ≤ n && n < 0xe000 then none else (pieceChars? rest).map (Char.ofNat n :: ·)

/-- The shape of a text. -/
inductive Document where
  | null
  | boolean (b : Bool)
  | number (literal : Decimal.Literal)
  | string (pieces : List Piece)
  | array (items : List Document) (closed : Bool)
  /-- Each member is the document at the place of the name and the one behind the colon. -/
  | object (members : List (Document × Document)) (closed : Bool)
  | broken
  deriving Repr, BEq, Inhabited

namespace Document

/-- The text of a string, where the document is one with a text. -/
def text? : Document → Option String
  | .string pieces => (pieceChars? pieces).map String.ofList
  | _ => none

/-- Whether the document is a string. -/
def isString : Document → Bool
  | .string _ => true
  | _ => false

mutual

/-- The value of a document with at most `levels` levels of containers. -/
def toValue? : Document → (levels : Nat) → Option Value
  | .null, _ => some .null
  | .boolean b, _ => some (.boolean b)
  | .number literal, _ => (Number.ofLiteral? literal).map .number
  | .string pieces, _ => (pieceChars? pieces).map fun cs => .string (String.ofList cs)
  | .array items true, levels + 1 => (toItems? items levels).map .array
  | .object members true, levels + 1 => (toMembers? members levels).map .ofMembers
  | .array _ _, _ => none
  | .object _ _, _ => none
  | .broken, _ => none
termination_by structural d => d

/-- The values of all items. -/
def toItems? : List Document → (levels : Nat) → Option (List Value)
  | [], _ => some []
  | item :: items, levels => do
    let value ← toValue? item levels
    let values ← toItems? items levels
    some (value :: values)
termination_by structural d => d

/-- The names and values of all members, in their order. -/
def toMembers? : List (Document × Document) → (levels : Nat) → Option (List (String × Value))
  | [], _ => some []
  | (name, item) :: members, levels => do
    let name ← name.text?
    let value ← toValue? item levels
    let values ← toMembers? members levels
    some ((name, value) :: values)
termination_by structural d => d

end

mutual

/-- Whether the shape is free of faults.  This is all that is asked of a part nobody reads. -/
def isWhole : Document → Bool
  | .array items closed => closed && areWhole items
  | .object members closed => closed && membersAreWhole members
  | .broken => false
  | _ => true

def areWhole : List Document → Bool
  | [] => true
  | item :: items => isWhole item && areWhole items

def membersAreWhole : List (Document × Document) → Bool
  | [] => true
  | (name, item) :: members => name.isString && isWhole item && membersAreWhole members

end

end Document

end StartOnReady.Json
