import StartOnReady.Application.Status

/-!
# What a describe call reports
-/

namespace StartOnReady

/-- An application as it was when it was asked for. -/
structure ApplicationSnapshot where
  name : String
  status : ApplicationStatus
  versionId : Option Int
  deriving DecidableEq, Repr

end StartOnReady
