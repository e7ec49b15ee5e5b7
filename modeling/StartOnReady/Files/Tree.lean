import StartOnReady.Text.Search

/-!
# Trees of files

A tree holds the files below a base directory, one of whose directories is the working directory.
What lies above the base are directories without files.  `locate` looks for a file by its path: a
path that names a directory is looked for as a file in the directories above as well.  Of the paths
from the root only places that every system has are known, and none of them is a file.
-/

namespace StartOnReady.Files

/-- What a search for a file came to. -/
inductive Located where
  | missing
  /-- There is something of this path, but no file. -/
  | noFile
  /-- A file, by its path from the working directory. -/
  | file (path : String) (content : ByteArray)

/-- Files by the names on the way from the base directory. -/
structure Tree where
  files : List (List String × ByteArray)
  /-- The names on the way to the working directory. -/
  here : List String

/-- What stands at a place. -/
inductive Entry where
  | file (content : ByteArray)
  | directory

/-- A place below the base directory, or one above it. -/
inductive Place where
  | below (names : List String)
  | above
  deriving DecidableEq

/-- The place one step up. -/
def Place.up : Place → Place
  | below [] => above
  | below names => below names.dropLast
  | above => above

namespace Tree

/-- What stands at a place. -/
def entry? (t : Tree) : Place → Option Entry
  | .above => some .directory
  | .below names =>
    match t.files.find? fun file => file.1 == names with
    | some file => some (.file file.2)
    | none =>
      if names.isPrefixOf t.here || t.files.any fun file => names.isPrefixOf file.1 then
        some .directory
      else none

/-- What stands at the end of a way of names, which leads through directories. -/
def walk? (t : Tree) : List String → Place → Option Entry
  | [], place => t.entry? place
  | name :: names, place =>
    match t.entry? place with
    | some .directory =>
      if name = "" || name = "." then walk? t names place
      else if name = ".." then walk? t names place.up
      else
        match place with
        | .below before => walk? t names (.below (before ++ [name]))
        | .above => none
    | _ => none

/-- The names of a path. -/
def namesOf (path : String) : List String := (Text.parts '/' path.toList).map String.ofList

/-- A way without the names that lead nowhere. -/
def plainNames (names : List String) : List String := names.filter fun n => n != "" && n != "."

/-- The way from one directory to the end of another way from the base. -/
def wayFrom : (here way : List String) → List String
  | h :: here, w :: way =>
    if h = w then wayFrom here way else ".." :: here.map (fun _ => "..") ++ w :: way
  | here, way => here.map (fun _ => "..") ++ way

/-- How the end of a way is shown from a directory. -/
def shownWay (here way : List String) : String := String.intercalate "/" (wayFrom here way)

/-- How a path is shown from a directory. -/
def shown (here : List String) (path : String) : String :=
  let names := plainNames (namesOf path)
  shownWay here (if Text.startsWith "/" path then names else here ++ names)

/-- The first file at the end of a way from one of the directories. -/
def search (t : Tree) (names : List String) : (directories : List (List String)) → Located
  | [] => .noFile
  | directory :: directories =>
    match t.walk? names (.below directory) with
    | some (.file content) =>
      .file (shownWay t.here (directory ++ plainNames names)) content
    | _ => search t names directories

/-- A directory and those above it. -/
def upwards (directory : List String) : List (List String) :=
  (List.range (directory.length + 1)).map fun n => directory.take (directory.length - n)

/-- The directories of every system, by the names on the way from the root. -/
def rootDirectories : List (List String) := [[], ["dev"], ["etc"], ["proc"], ["tmp"], ["usr"]]

/-- The device of every system that holds nothing. -/
def nullDevice : List String := ["dev", "null"]

/-- Whether a way of names from a directory of every system ends at another or at its device. -/
def isKnown : (names directory : List String) → Bool
  | [], directory => rootDirectories.contains directory
  | name :: names, directory =>
    if name = "" || name = "." then isKnown names directory
    else if name = ".." then isKnown names directory.dropLast
    else
      let place := directory ++ [name]
      if names.isEmpty && place = nullDevice then true
      else rootDirectories.contains place && isKnown names place

/-- Looks for the file of a path. -/
def locate (t : Tree) (path : String) : Located :=
  if path = "" then .missing
  else if Text.startsWith "/" path then
    if isKnown (namesOf path) [] then .noFile else .missing
  else
    match t.walk? (namesOf path) (.below t.here) with
    | none => .missing
    | some _ => t.search (namesOf path) (upwards t.here)

/-- The place that a way of names from a directory ends at, if nothing on it is above the base. -/
def placeFrom : (names directory : List String) → List String
  | [], directory => directory
  | name :: names, directory =>
    if name = "" || name = "." then placeFrom names directory
    else if name = ".." then placeFrom names directory.dropLast
    else placeFrom names (directory ++ [name])

/-- The tree of files that are given by their paths from the working directory. -/
def ofPaths (here : List String) (files : List (String × ByteArray)) : Tree :=
  ⟨files.map fun (path, content) => (placeFrom (namesOf path) here, content), here⟩

end Tree

end StartOnReady.Files
