/-!
# References to applications

An application is named by its region and its name in that region.
-/

namespace StartOnReady

/-- A region and the name of an application there. -/
structure ApplicationRef where
  region : String
  name : String
  deriving DecidableEq, Repr

/-- The form in messages. -/
def ApplicationRef.display (app : ApplicationRef) : String :=
  app.name ++ " (" ++ app.region ++ ")"

end StartOnReady
