import StartOnReady.Decimal.Binary64

/-!
# TOML values

The members of a table keep the order in which they were written.
-/

namespace StartOnReady.Toml

/-- A value. -/
inductive Value where
  | string (s : String)
  | integer (i : Int)
  | real (x : Decimal.Binary64)
  | boolean (b : Bool)
  /-- A date, a time of day, or both, as it was written. -/
  | moment (text : String)
  | array (items : List Value)
  /-- An array of tables that were opened one after another. -/
  | elements (tables : List Value)
  | table (members : List (String × Value))
  deriving Repr, BEq, Inhabited

end StartOnReady.Toml
