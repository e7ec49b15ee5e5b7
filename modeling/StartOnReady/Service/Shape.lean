import StartOnReady.Decimal.Whole
import StartOnReady.Service.Item

/-!
# Shapes

What the service promises of an item.  Null suits every shape and says nothing.  A record may have
members that its shape does not name; they are only passed over.
-/

namespace StartOnReady.Service

/-- What an item has to look like. -/
inductive Shape where
  | text
  | truth
  /-- A signed integer of 32 bits. -/
  | integer32
  /-- A signed integer of 64 bits. -/
  | integer64
  /-- A number of seconds. -/
  | moment
  | list (item : Shape)
  | map (value : Shape)
  | record (members : List (String × Shape))
  deriving Repr, Inhabited

namespace Item

/-! ### Numbers -/

/-- The signed integer of 64 bits that shows the same floating-point number. -/
def sameReal? (x : Decimal.Binary64) : Option Int :=
  match x with
  | .finite x => x.toInt?.bind fun n =>
    if Decimal.isSigned64 n then some n
    else if n = 0x8000000000000000 then some (n - 1)
    else none
  | _ => none

/-- The signed integer of 64 bits that a number is.  A numeral that 64 bits hold is taken as it
stands, any other number through the nearest floating-point number. -/
def integer? : Item → Option Int
  | .number literal =>
    let n : Int := if literal.negative then -literal.wholeValue else literal.wholeValue
    if literal.isIntegral && Decimal.isSigned64 n then some n
    else if literal.isIntegral && 0 ≤ n && Decimal.isUnsigned64 n.toNat then none
    else sameReal? literal.nearest
  | _ => none

/-- Whether 32 bits hold a number together with its sign. -/
def isSigned32 (n : Int) : Bool := -0x80000000 ≤ n && n < 0x80000000

/-! ### Items of a shape -/

mutual

/-- Whether an item has a shape. -/
def suits : Item → Shape → Bool
  | .null, _ => true
  | .string written, .text => (Token.meaning? written).isSome
  | .boolean _, .truth => true
  | .number literal, .integer32 => (integer? (.number literal)).any isSigned32
  | .number literal, .integer64 => (integer? (.number literal)).isSome
  | .number literal, .moment => literal.nearest.isFinite
  | .array items, .list shape => allSuit items shape
  | .object members, .map shape => valuesSuit members shape
  | .object members, .record shapes => membersSuit members shapes
  | _, _ => false
termination_by structural item => item

/-- Whether all the items of a list have a shape. -/
def allSuit : List Item → Shape → Bool
  | [], _ => true
  | item :: items, shape => suits item shape && allSuit items shape
termination_by structural items => items

/-- Whether all the values of a map have a shape. -/
def valuesSuit : List (List Char × Item) → Shape → Bool
  | [], _ => true
  | (name, item) :: members, shape =>
    (Token.meaning? name).isSome && suits item shape && valuesSuit members shape
termination_by structural members => members

/-- Whether all the members of a record that are named have their shapes. -/
def membersSuit : List (List Char × Item) → List (String × Shape) → Bool
  | [], _ => true
  | (name, item) :: members, shapes =>
    (match Token.meaning? name with
      | none => false
      | some name =>
        match Keyed.find? name shapes with
        | some shape => suits item shape
        | none => item.isPassable) &&
      membersSuit members shapes
termination_by structural members => members

end

end Item

end StartOnReady.Service
