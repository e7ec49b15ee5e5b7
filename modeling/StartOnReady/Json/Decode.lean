import StartOnReady.Json.Printer
import StartOnReady.Json.Reader
import StartOnReady.Typed.Mismatch

/-!
# Reading documents into types

A decoder reads a document in the order in which it was written and stops at the first fault: the
text stops being JSON (`malformed`), or it does not suit the type (`unsuitable`).  Members that a
type does not know are only asked to be whole.  An array stands for a record when it lists the
fields in order.
-/

namespace StartOnReady.Json

open Typed (Found Mismatch)

/-- Why a text has no value of a type. -/
inductive DecodeError where
  | malformed
  | unsuitable (fault : Mismatch)
  deriving DecidableEq, Repr

/-- A reading of documents. -/
abbrev Decoder (α : Type) := Document → Except DecodeError α

namespace Decoder

variable {α σ : Type}

/-- What a document shows to a reader who wants another type. -/
def found : Decoder Found
  | .null => .ok .null
  | .boolean b => .ok (.boolean b)
  | .number literal =>
    match Number.ofLiteral? literal with
    | some (.integer i) => .ok (.integer i)
    | some (.real x) => .ok (.real (String.ofList (realLayout.writeFinite x)))
    | none => .error .malformed
  | .string pieces =>
    match pieceChars? pieces with
    | some cs => .ok (.text (String.ofList cs))
    | none => .error .malformed
  | .array _ _ => .ok .sequence
  | .object _ _ => .ok .map
  | .broken => .error .malformed

/-- Refuses a document where `expected` is wanted. -/
def refuse (expected : String) : Decoder α := fun d => do
  let found ← found d
  .error (.unsuitable (.wrongType found expected))

/-! ### Single values -/

/-- A string. -/
def text : Decoder String
  | .string pieces =>
    match pieceChars? pieces with
    | some cs => .ok (String.ofList cs)
    | none => .error .malformed
  | d => refuse "a string" d

/-- A truth value. -/
def boolean : Decoder Bool
  | .boolean b => .ok b
  | d => refuse "a boolean" d

/-- A signed integer of 64 bits. -/
def int64 : Decoder Int
  | .number literal =>
    match Number.ofLiteral? literal with
    | some (.integer i) =>
      if Decimal.isSigned64 i then .ok i else .error (.unsuitable (.outOfRange i "i64"))
    | _ => refuse "i64" (.number literal)
  | d => refuse "i64" d

/-- Any value with at most `levels` levels of containers. -/
def value (levels : Nat) : Decoder Value := fun d =>
  match d.toValue? levels with
  | some v => .ok v
  | none => .error .malformed

/-- A value that may be `null`. -/
def optional (read : Decoder α) : Decoder (Option α)
  | .null => .ok none
  | d => (read d).map some

/-- Passes over a value that nobody reads. -/
def skip : Decoder Unit := fun d => if d.isWhole then .ok () else .error .malformed

/-! ### Records -/

/-- The name of a member. -/
def memberName (name : Document) : Except DecodeError String :=
  match name.text? with
  | some s => .ok s
  | none => .error .malformed

/-- Reads the members in order, each by `step`. -/
def foldMembers (step : σ → String → Decoder σ) :
    List (Document × Document) → (closed : Bool) → σ → Except DecodeError σ
  | [], closed, s => if closed then .ok s else .error .malformed
  | (name, item) :: members, closed, s => do
    let name ← memberName name
    let s ← step s name item
    foldMembers step members closed s

/-- Fills the slot of a field, which must still be empty. -/
def once (name : String) (slot : Option α) (read : Except DecodeError α) :
    Except DecodeError (Option α) :=
  match slot with
  | some _ => .error (.unsuitable (.repeatedField name))
  | none => read.map some

/-- The item at a place, if the array reaches that far. -/
def itemAt (items : List Document) (closed : Bool) (place : Nat) (read : Decoder α) :
    Except DecodeError (Option α) :=
  match items[place]? with
  | some item => (read item).map some
  | none => if closed then .ok none else .error .malformed

/-- An array has to end with its last field. -/
def endOfItems (items : List Document) (closed : Bool) (fields : Nat) : Except DecodeError Unit :=
  if closed && items.length ≤ fields then .ok () else .error .malformed

/-- A record by its members or by its fields in order. -/
def record (name : String) (fields : Nat)
    (ofMembers : List (Document × Document) → (closed : Bool) → Except DecodeError α)
    (ofItems : List Document → (closed : Bool) → Except DecodeError α) : Decoder α
  | .object members closed => ofMembers members closed
  | .array items closed => do
    let a ← ofItems items closed
    endOfItems items closed fields
    .ok a
  | d => refuse ("struct " ++ name) d

/-- A field without which there is no record. -/
def required (name : String) : Option α → Except DecodeError α
  | some a => .ok a
  | none => .error (.unsuitable (.missingField name))

/-- A text read as one value of a type. -/
def run (read : Decoder α) (source : String) : Except DecodeError α :=
  match Document.read source with
  | (document, clean) => do
    let a ← read document
    if clean then .ok a else .error .malformed

end Decoder

end StartOnReady.Json
