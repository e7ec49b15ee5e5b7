import StartOnReady.Text.Quoted

/-!
# Data of the wrong type

The faults of a reading that knows which type it wants, and their messages.
-/

namespace StartOnReady.Typed

/-- What stands where another type is wanted. -/
inductive Found where
  | null
  | boolean (b : Bool)
  | integer (i : Int)
  /-- A floating-point number by its text. -/
  | real (digits : String)
  | text (s : String)
  | sequence
  | map
  deriving DecidableEq, Repr

/-- The text of a truth value. -/
def booleanText (b : Bool) : String := if b then "true" else "false"

/-- A text between backquotes. -/
def ticked (s : String) : String := "`" ++ s ++ "`"

/-- The words for a found piece of data. -/
def Found.words : Found → String
  | .null => "null"
  | .boolean b => "boolean " ++ ticked (booleanText b)
  | .integer i => "integer " ++ ticked (toString i)
  | .real digits => "floating point " ++ ticked digits
  | .text s => "string " ++ Text.quoted s
  | .sequence => "sequence"
  | .map => "map"

/-- What a typed reading finds wrong. -/
inductive Mismatch where
  | missingField (name : String)
  | repeatedField (name : String)
  | unknownVariant (found : String) (variants : List String)
  /-- A sequence too short for a record with this number of fields. -/
  | wrongLength (found : Nat) (record : String) (fields : Nat)
  | wrongType (found : Found) (expected : String)
  | outOfRange (found : Int) (expected : String)
  deriving DecidableEq, Repr

/-- The message of a fault. -/
def Mismatch.message : Mismatch → String
  | .missingField name => "missing field " ++ ticked name
  | .repeatedField name => "duplicate field " ++ ticked name
  | .unknownVariant found variants =>
    "unknown variant " ++ ticked found ++ ", expected " ++
      String.intercalate " or " (variants.map ticked)
  | .wrongLength found record fields =>
    "invalid length " ++ toString found ++ ", expected struct " ++ record ++ " with " ++
      toString fields ++ " elements"
  | .wrongType found expected => "invalid type: " ++ found.words ++ ", expected " ++ expected
  | .outOfRange found expected =>
    "invalid value: integer " ++ ticked (toString found) ++ ", expected " ++ expected

end StartOnReady.Typed
