import StartOnReady.Settings.Tree

/-!
# Reading settings into types

An extractor reads a tree and stops at the first fault, which knows the path of keys and the layer
where it stands.  The members of a table are read in the order of their keys.
-/

namespace StartOnReady.Settings

/-- What is wrong with a piece. -/
inductive Cause where
  | wrongType (found expected : String)
  | unknownVariant (found : String) (words : List String)
  deriving DecidableEq, Repr

/-- A fault with its place. -/
structure Fault where
  cause : Cause
  path : List String
  source : Source
  deriving DecidableEq, Repr

/-- The words for what is wrong. -/
def Cause.words : Cause → String
  | wrongType found expected => "invalid type: found " ++ found ++ ", expected " ++ expected
  | unknownVariant found words =>
    "unknown variant: found " ++ Typed.ticked found ++ ", expected " ++
      Typed.ticked (String.intercalate " or " (words.map Typed.ticked))

/-- The message of a fault. -/
def Fault.message (fault : Fault) : String :=
  fault.cause.words ++ " for key " ++ Text.quoted (fault.source.keyWords fault.path) ++ " in " ++
    fault.source.words

/-- A reading of the piece under a path of keys. -/
abbrev Extractor (α : Type) := (path : List String) → Tree → Except Fault α

namespace Extractor

variable {α σ : Type}

/-- Refuses a piece where `expected` is wanted. -/
def refuse (expected : String) : Extractor α := fun path t =>
  .error ⟨.wrongType t.words expected, path, t.source⟩

/-- A text; a single letter is one, too. -/
def text : Extractor String
  | _, .leaf _ (.text s) => .ok s
  | _, .leaf _ (.letter c) => .ok (String.singleton c)
  | path, t => refuse "a string" path t

/-- A truth value. -/
def boolean : Extractor Bool
  | _, .leaf _ (.boolean b) => .ok b
  | path, t => refuse "a boolean" path t

/-- A setting that may be left open. -/
def optional (read : Extractor α) : Extractor (Option α)
  | _, .leaf _ .absent => .ok none
  | path, t => (read path t).map some

/-- Reads the members in order, each by `step`. -/
def foldMembers (step : σ → String → Extractor σ) (path : List String) :
    List (String × Tree) → σ → Except Fault σ
  | [], s => .ok s
  | (key, t) :: members, s => do
    let s ← step s key (path ++ [key]) t
    foldMembers step path members s

/-- The item at a place, if the sequence reaches that far. -/
def itemAt (path : List String) (items : List Tree) (place : Nat) (read : Extractor α) :
    Except Fault (Option α) :=
  match items[place]? with
  | some t => (read (path ++ [toString place]) t).map some
  | none => .ok none

/-- A record by its members or by its fields in order. -/
def record (name : String) (ofMembers : List String → List (String × Tree) → Except Fault α)
    (ofItems : List String → List Tree → Except Fault α) : Extractor α
  | path, .table _ members => ofMembers path members
  | path, .sequence _ items => ofItems path items
  | path, t => refuse ("struct " ++ name) path t

/-- A choice by its word.  The first member of a table names a choice as well, but would have to
hold nothing, which no piece does. -/
def choice (name : String) (words : List String) (ofWord? : String → Option α) : Extractor α
  | path, .leaf source (.text s) =>
    match ofWord? s with
    | some a => .ok a
    | none => .error ⟨.unknownVariant s words, path, source⟩
  | path, .table _ ((key, t) :: _) =>
    match ofWord? key with
    | some _ => refuse "unit" (path ++ [key]) t
    | none => .error ⟨.unknownVariant key words, path ++ [key], t.source⟩
  | path, .table source [] => refuse "enum" path (.table source [])
  | path, t => refuse ("enum " ++ name) path t

end Extractor

end StartOnReady.Settings
