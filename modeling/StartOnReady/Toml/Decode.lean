import StartOnReady.Decimal.Layout
import StartOnReady.Toml.Value
import StartOnReady.Typed.Mismatch

/-!
# Reading TOML values into types

A decoder reads the members of a table in their order and stops at the first fault.  An array stands
for a record when it lists the fields in order; items behind the last field are passed over.
-/

namespace StartOnReady.Toml

open Typed (Found Mismatch)

/-- Why a value is not one of a type. -/
inductive DecodeError where
  | mismatch (fault : Mismatch)
  /-- A choice is a word or a table. -/
  | noChoice
  /-- A table that makes a choice has one member. -/
  | emptyChoice
  | manyChoices
  /-- The member that makes a choice holds nothing. -/
  | filledTable
  | filledElements
  | notTable (found : String)
  deriving DecidableEq, Repr

/-- The message of a fault. -/
def DecodeError.message : DecodeError → String
  | mismatch fault => fault.message
  | noChoice => "wanted string or table"
  | emptyChoice => "wanted exactly 1 element, found 0 elements"
  | manyChoices => "wanted exactly 1 element, more than 1 element"
  | filledTable => "expected empty table"
  | filledElements => "expected empty array"
  | notTable found => "expected table, found " ++ found

/-- A reading of values. -/
abbrev Decoder (α : Type) := Value → Except DecodeError α

namespace Decoder

variable {α σ : Type}

/-- The name of the member under which a moment is kept. -/
def momentMember : String := "$__toml_private_datetime"

/-- What a value shows to a reader who wants another type. -/
def found : Value → Found
  | .string s => .text s
  | .integer i => .integer i
  | .real x => .real (String.ofList (Decimal.Layout.marked.write x))
  | .boolean b => .boolean b
  | .moment _ => .map
  | .array _ | .elements _ => .sequence
  | .table _ => .map

/-- Refuses a value where `expected` is wanted. -/
def refuse (expected : String) : Decoder α := fun v =>
  .error (.mismatch (.wrongType (found v) expected))

/-- A string. -/
def text : Decoder String
  | .string s => .ok s
  | v => refuse "a string" v

/-- A truth value. -/
def boolean : Decoder Bool
  | .boolean b => .ok b
  | v => refuse "a boolean" v

/-- Reads the members in order, each by `step`. -/
def foldMembers (step : σ → String → Decoder σ) :
    List (String × Value) → σ → Except DecodeError σ
  | [], s => .ok s
  | (name, v) :: members, s => do
    let s ← step s name v
    foldMembers step members s

/-- The item at a place, if the array reaches that far. -/
def itemAt (items : List Value) (place : Nat) (read : Decoder α) : Except DecodeError (Option α) :=
  match items[place]? with
  | some v => (read v).map some
  | none => .ok none

/-- A record by its members or by its fields in order. -/
def record (name : String) (ofMembers : List (String × Value) → Except DecodeError α)
    (ofItems : List Value → Except DecodeError α) : Decoder α
  | .table members => ofMembers members
  | .moment text => ofMembers [(momentMember, .string text)]
  | .array items | .elements items => ofItems items
  | v => refuse ("struct " ++ name) v

/-- Checks that the member that makes a choice holds nothing. -/
def nothing : Decoder Unit
  | .table members => if members.isEmpty then .ok () else .error .filledTable
  | .array items => if items.isEmpty then .ok () else .error .filledTable
  | .elements tables => if tables.isEmpty then .ok () else .error .filledElements
  | .string _ => .error (.notTable "string")
  | .integer _ => .error (.notTable "integer")
  | .real _ => .error (.notTable "float")
  | .boolean _ => .error (.notTable "boolean")
  | .moment _ => .error (.notTable "datetime")

/-- A choice by its word, or by a table whose one member has the word as its name. -/
def choice (words : List String) (ofWord? : String → Option α) : Decoder α
  | .string s => chosen s
  | .table [] => .error .emptyChoice
  | .table [(name, v)] => do
    let a ← chosen name
    nothing v
    .ok a
  | .table _ => .error .manyChoices
  | _ => .error .noChoice
where
  /-- The choice that a word names. -/
  chosen (s : String) : Except DecodeError α :=
    match ofWord? s with
    | some a => .ok a
    | none => .error (.mismatch (.unknownVariant s words))

end Decoder

end StartOnReady.Toml
