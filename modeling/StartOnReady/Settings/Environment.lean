import StartOnReady.Settings.Value
import StartOnReady.Text.Search

/-!
# Settings from the environment

A variable whose name starts with the lead in any letter case holds a setting.  The rest of the name
is a path of keys, between which two underscores or a point stand.  Later variables are laid over
earlier ones.
-/

namespace StartOnReady.Settings

/-- The characters of a key in lower case. -/
def lowered (cs : List Char) : List Char := cs.map Char.toLower

/-- The text behind the lead, in whichever letter case it stands. -/
def afterLead? (cs : List Char) : Option (List Char) :=
  let lead := environmentLead.toList
  if lowered (cs.take lead.length) = lowered lead then some (cs.drop lead.length) else none

/-- The name of the variable that holds no setting, without its lead. -/
def reservedName : List Char := "config".toList

/-- Two underscores stand for a point. -/
def pointed : List Char → List Char
  | '_' :: '_' :: cs => '.' :: pointed cs
  | c :: cs => c :: pointed cs
  | [] => []

/-- The path of keys that the name of a variable stands for. -/
def keyPath? (name : String) : Option (List String) := do
  let rest ← afterLead? (Text.trim name).toList
  if lowered rest = reservedName then none
  else
    let keys := Text.parts '.' (Text.trimChars (pointed rest))
    if keys.any List.isEmpty then none
    else some (keys.map fun key => String.ofList (lowered key))

/-- The paths of keys and the texts of the variables that hold settings. -/
def settingTexts (environment : List (String × String)) : List (List String × String) :=
  environment.filterMap fun (name, value) => (keyPath? name).map (·, value)

/-- The tree of one setting. -/
def settingTree? (path : List String) (value : String) : Option Tree :=
  (Tree.ofText? value).map (Tree.nested .environment path)

/-- The settings of an environment whose variables are in the order of their names, if each of them
can be read. -/
def ofEnvironment? (environment : List (String × String)) : Option Tree :=
  ((settingTexts environment).mapM fun (path, value) => settingTree? path value).map
    (List.foldl Tree.merge (.table .environment []))

end StartOnReady.Settings
