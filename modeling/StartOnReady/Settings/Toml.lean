import StartOnReady.Settings.Tree
import StartOnReady.Toml.Decode

/-!
# Settings from TOML
-/

namespace StartOnReady.Settings

mutual

/-- The tree of a value. -/
def Tree.ofToml (source : Source) : Toml.Value → Tree
  | .string s => .leaf source (.text s)
  | .integer i => .leaf source (.signed i)
  | .real x => .leaf source (.real x)
  | .boolean b => .leaf source (.boolean b)
  | .moment text => .table source [(Toml.Decoder.momentMember, .leaf source (.text text))]
  | .array items | .elements items => .sequence source (itemsOfToml source items)
  | .table members => .table source (Keyed.ofList (membersOfToml source members))

def itemsOfToml (source : Source) : List Toml.Value → List Tree
  | [] => []
  | item :: items => Tree.ofToml source item :: itemsOfToml source items

def membersOfToml (source : Source) : List (String × Toml.Value) → List (String × Tree)
  | [] => []
  | (key, v) :: members => (key, Tree.ofToml source v) :: membersOfToml source members

end

end StartOnReady.Settings
