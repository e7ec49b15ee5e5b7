import StartOnReady.Decimal.Layout
import StartOnReady.Json.Value
import StartOnReady.Text.Hex

/-!
# JSON text

The compact text of a value: no blanks, members in the order of the value, and escapes only for the
quote, the backslash and the characters below the space.
-/

namespace StartOnReady.Json

/-- How one character stands in a string. -/
def escapedChar (c : Char) : List Char :=
  if c = '"' then ['\\', '"']
  else if c = '\\' then ['\\', '\\']
  else if c = '\x08' then ['\\', 'b']
  else if c = '\x0c' then ['\\', 'f']
  else if c = '\n' then ['\\', 'n']
  else if c = '\r' then ['\\', 'r']
  else if c = '\t' then ['\\', 't']
  else if c.toNat < 0x20 then ['\\', 'u'] ++ Text.hexPadded 4 c.toNat
  else [c]

/-- A string with its quotes. -/
def stringChars (s : String) : List Char := '"' :: s.toList.flatMap escapedChar ++ ['"']

/-- Floating-point numbers from `1e-5` to below `1e16` are written in place, whole ones with
`.0`. -/
def realLayout : Decimal.Layout := ⟨some (-5, 15), true⟩

/-- The text of an integer. -/
def integerChars (i : Int) : List Char :=
  (if i < 0 then ['-'] else []) ++ Nat.toDigits 10 i.natAbs

def Number.chars : Number → List Char
  | .integer i => integerChars i
  | .real x => realLayout.writeFinite x

mutual

/-- The text of a value, as characters. -/
def Value.chars : Value → List Char
  | .null => ['n', 'u', 'l', 'l']
  | .boolean true => ['t', 'r', 'u', 'e']
  | .boolean false => ['f', 'a', 'l', 's', 'e']
  | .number n => n.chars
  | .string s => stringChars s
  | .array items => '[' :: (Value.itemChars items).drop 1 ++ [']']
  | .object members => '\x7b' :: (Value.memberChars members).drop 1 ++ ['\x7d']

/-- The items of an array, a comma before each. -/
def Value.itemChars : List Value → List Char
  | [] => []
  | item :: items => ',' :: item.chars ++ Value.itemChars items

/-- The members of an object, a comma before each. -/
def Value.memberChars : List (String × Value) → List Char
  | [] => []
  | (name, value) :: members =>
    ',' :: stringChars name ++ ':' :: value.chars ++ Value.memberChars members

end

/-- The compact text of a value. -/
def Value.render (v : Value) : String := String.ofList v.chars

end StartOnReady.Json
