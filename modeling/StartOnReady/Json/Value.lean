import StartOnReady.Decimal.Literal
import StartOnReady.Decimal.Whole
import StartOnReady.Keyed

/-!
# JSON values

What a JSON text means: numbers are integers of 64 bits or floating-point numbers.  The members of
an object that was read are in rising order of their names, each name once; a record that becomes an
object keeps the order of its fields.
-/

namespace StartOnReady.Json

/-- A number. -/
inductive Number where
  | integer (i : Int)
  | real (x : Decimal.Finite)
  deriving DecidableEq, Repr

/-- A value. -/
inductive Value where
  | null
  | boolean (b : Bool)
  | number (n : Number)
  | string (s : String)
  | array (items : List Value)
  | object (members : List (String × Value))
  deriving Repr, BEq, Inhabited

/-- The sort of a value. -/
inductive Kind where
  | null
  | boolean
  | number
  | string
  | array
  | object
  deriving DecidableEq, Repr

/-- The words for a sort in messages. -/
def Kind.words : Kind → String
  | .null => "null"
  | .boolean => "a boolean"
  | .number => "a number"
  | .string => "a string"
  | .array => "an array"
  | .object => "an object"

/-- The number that a literal stands for.  An integral literal within 64 bits, signed or unsigned,
stays an integer, except for `-0`; `none` where the magnitude is too large. -/
def Number.ofLiteral? (l : Decimal.Literal) : Option Number :=
  let n := l.wholeValue
  if l.isIntegral && !l.negative && Decimal.isUnsigned64 n then some (.integer n)
  else if l.isIntegral && l.negative && 0 < n && Decimal.isSigned64 (-n) then some (.integer (-n))
  else l.scaled?.map .real

namespace Value

/-- The sort of `v`. -/
def kind : Value → Kind
  | .null => .null
  | .boolean _ => .boolean
  | .number _ => .number
  | .string _ => .string
  | .array _ => .array
  | .object _ => .object

/-- The member of an object with this name. -/
def member? (name : String) : Value → Option Value
  | .object members => Keyed.find? name members
  | _ => none

/-- An integer as a value. -/
def ofInt (i : Int) : Value := .number (.integer i)

/-- The object with these members; a later one of a name wins. -/
def ofMembers (members : List (String × Value)) : Value := .object (Keyed.ofList members)

end Value

end StartOnReady.Json
