import StartOnReady.Decimal.Layout
import StartOnReady.Keyed
import StartOnReady.Text.Quoted
import StartOnReady.Typed.Mismatch

/-!
# Trees of settings

Settings come in layers, and each piece of a tree knows the layer it was set in.  `merge` lays one
tree over another: tables merge key by key, and anything else gives way to what lies above it.
-/

namespace StartOnReady.Settings

/-- The layer in which a piece was set. -/
inductive Source where
  /-- The defaults, which lie below all other layers. -/
  | defaults
  /-- A file, by its path from the working directory. -/
  | file (path : String)
  | environment
  deriving DecidableEq, Repr

/-- A single setting. -/
inductive Datum where
  | text (s : String)
  /-- A single character between single quotes. -/
  | letter (c : Char)
  | boolean (b : Bool)
  | unsigned (n : Nat)
  | signed (i : Int)
  | real (x : Decimal.Binary64)
  /-- A setting that is left open. -/
  | absent
  deriving DecidableEq, Repr

/-- A tree of settings.  The keys of a table are in rising order. -/
inductive Tree where
  | leaf (source : Source) (datum : Datum)
  | sequence (source : Source) (items : List Tree)
  | table (source : Source) (members : List (String × Tree))
  deriving Repr, BEq

namespace Tree

/-- The layer of a piece. -/
def source : Tree → Source
  | leaf s _ | sequence s _ | table s _ => s

/-! ### Layers -/

mutual

/-- Lays `upper` over `lower`. -/
def merge (lower : Tree) : (upper : Tree) → Tree
  | .leaf s d => .leaf s d
  | .sequence s items => .sequence s items
  | .table s members =>
    match lower with
    | .table _ below => .table s (mergeMembers below members)
    | _ => .table s members
termination_by structural upper => upper

/-- Lays members over those of a table. -/
def mergeMembers (below : List (String × Tree)) : (members : List (String × Tree)) →
    List (String × Tree)
  | [] => below
  | (key, upper) :: members =>
    let value :=
      match Keyed.find? key below with
      | some lower => merge lower upper
      | none => upper
    mergeMembers (Keyed.insert key value below) members
termination_by structural members => members

end

/-- A piece under a path of keys. -/
def nested (source : Source) : (path : List String) → Tree → Tree
  | [], t => t
  | key :: path, t => .table source [(key, nested source path t)]

end Tree

/-! ### Words -/

/-- The words for a piece where another was expected. -/
def Tree.words : Tree → String
  | .leaf _ (.text s) => "string " ++ Text.quoted s
  | .leaf _ (.letter c) => "string " ++ Text.quoted (String.singleton c)
  | .leaf _ (.boolean b) => "bool " ++ Typed.booleanText b
  | .leaf _ (.unsigned n) => "unsigned int " ++ Typed.ticked (toString n)
  | .leaf _ (.signed i) => "signed int " ++ Typed.ticked (toString i)
  | .leaf _ (.real x) =>
    "float " ++ Typed.ticked (String.ofList (Decimal.Layout.plain.write x))
  | .leaf _ .absent => "option"
  | .sequence _ _ => "sequence"
  | .table _ _ => "map"

/-- The beginning of the names of variables that hold settings. -/
def environmentLead : String := "START_FLINK_"

/-- The words for a layer. -/
def Source.words : Source → String
  | defaults => "defaults"
  | file path => path ++ " TOML file"
  | environment => Typed.ticked environmentLead ++ " environment variable(s)"

/-- The words for a path of keys in a layer. -/
def Source.keyWords (source : Source) (path : List String) : String :=
  match source with
  | defaults | file _ => String.intercalate "." ("default" :: path)
  | environment =>
    String.intercalate "." (path.map fun key => String.ofList (key.toList.map Char.toUpper))

end StartOnReady.Settings
