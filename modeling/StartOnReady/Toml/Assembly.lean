import StartOnReady.Keyed
import StartOnReady.Toml.Value

/-!
# Building tables

Statements build a table step by step.  A table may be opened once.  One that was only implied by
the path of another may still be opened, and then moves to the end of the table it stands in; one
that dotted keys made can only be added to by dotted keys.
-/

namespace StartOnReady.Toml

/-- How a table came about. -/
inductive Origin where
  /-- It was opened, or is an element of an array of tables. -/
  | opened
  /-- The path of another table implied it. -/
  | implied
  /-- A dotted key made it. -/
  | dotted
  deriving DecidableEq, Repr

/-- What stands under a key while tables are built. -/
inductive Item where
  | value (v : Value)
  | table (origin : Origin) (members : List (String × Item))
  | elements (tables : List (List (String × Item)))

/-- The members of a table while it is built. -/
abbrev Members := List (String × Item)

/-- A change to a table of some origin. -/
abbrev Change := Origin → Members → Option Members

/-- Puts an item at the place of its key. -/
def replaceItem (key : String) (item : Item) (members : Members) : Members :=
  members.map fun (k, old) => if k = key then (k, item) else (k, old)

/-- Changes the table at the end of a path.  Missing tables are made; an array of tables stands for
its last element. -/
def changeAt (viaDots : Bool) (change : Change) : List String → Change
  | [], origin, members => change origin members
  | key :: path, _, members =>
    match Keyed.find? key members with
    | none => do
      let origin : Origin := if viaDots then .dotted else .implied
      let inner ← changeAt viaDots change path origin []
      some (members ++ [(key, .table origin inner)])
    | some (.value _) => none
    | some (.table origin inner) =>
      if viaDots && origin == .opened then none
      else do
        let inner ← changeAt viaDots change path origin inner
        some (replaceItem key (.table origin inner) members)
    | some (.elements tables) => do
      let last ← tables.getLast?
      let last ← changeAt viaDots change path .opened last
      some (replaceItem key (.elements (tables.dropLast ++ [last])) members)

/-- Puts a value under a new key.  Behind a dotted path this takes a table that dots made. -/
def addValue (viaDots : Bool) (key : String) (v : Value) : Change := fun origin members =>
  if (origin == .dotted) == viaDots && (Keyed.find? key members).isNone then
    some (members ++ [(key, .value v)])
  else none

/-- Opens a table. -/
def openTable (key : String) : Change := fun _ members =>
  match Keyed.find? key members with
  | none => some (members ++ [(key, .table .opened [])])
  | some (.table .implied inner) =>
    some (members.filter (·.1 != key) ++ [(key, .table .opened inner)])
  | some _ => none

/-- Opens a further element of an array of tables. -/
def openElement (key : String) : Change := fun _ members =>
  match Keyed.find? key members with
  | none => some (members ++ [(key, .elements [[]])])
  | some (.elements tables) => some (replaceItem key (.elements (tables ++ [[]])) members)
  | some _ => none

/-- Applies a change that names its last key at the end of the path before that key. -/
def atLastKey (viaDots : Bool) (change : String → Change) (path : List String) : Change :=
  fun origin members => do
    let key ← path.getLast?
    changeAt viaDots (change key) path.dropLast origin members

/-- Assigns a value to a path of keys. -/
def assign (path : List String) (v : Value) : Change :=
  atLastKey true (fun key => addValue (1 < path.length) key v) path

/-! ### Values of built tables -/

mutual

/-- The value of an item. -/
def Item.toValue : Item → Value
  | .value v => v
  | .table _ members => .table (memberValues members)
  | .elements tables => .elements (tableValues tables)

def memberValues : List (String × Item) → List (String × Value)
  | [] => []
  | (key, item) :: members => (key, item.toValue) :: memberValues members

def tableValues : List (List (String × Item)) → List Value
  | [] => []
  | members :: tables => .table (memberValues members) :: tableValues tables

end

/-- The table that assignments make by themselves. -/
def tableOf? (assignments : List (List String × Value)) : Option Value := do
  let members ← assignments.foldlM (fun members (path, v) => assign path v .opened members) []
  some (.table (memberValues members))

end StartOnReady.Toml
