import StartOnReady.Json.Value

/-!
# What can be wrong with an event

Each position that is read has a dotted path and a type; the messages name both.
-/

namespace StartOnReady

/-- The positions of an event that name its application, in the order in which they are read. -/
inductive EventPath where
  | region
  | detail
  | responseElements
  | applicationDetail
  | applicationName
  deriving DecidableEq, Repr

/-- The dotted path of a position. -/
def EventPath.text : EventPath → String
  | region => "region"
  | detail => "detail"
  | responseElements => "detail.responseElements"
  | applicationDetail => "detail.responseElements.applicationDetail"
  | applicationName => "detail.responseElements.applicationDetail.applicationName"

/-- Why an event cannot be acted on. -/
inductive EventError where
  | notAnObject (found : Json.Kind)
  | missingField (path : EventPath)
  | invalidField (path : EventPath) (expected found : Json.Kind)
  deriving DecidableEq, Repr

/-- The message of an error. -/
def EventError.message : EventError → String
  | notAnObject found => "Event payload is not an object (found " ++ found.words ++ ")"
  | missingField path => "Missing field in event: " ++ path.text
  | invalidField path expected found =>
    "Invalid field in event: " ++ path.text ++ " must be " ++ expected.words ++ ", found " ++
      found.words

end StartOnReady
