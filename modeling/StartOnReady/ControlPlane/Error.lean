import StartOnReady.Text.Search

/-!
# Errors of control-plane calls
-/

namespace StartOnReady

/-- Why a call failed. -/
inductive ControlPlaneError where
  /-- The application does not exist in its region. -/
  | notFound (application : String)
  /-- The caller may not perform the operation. -/
  | permissionDenied (operation message : String)
  /-- The state of the application conflicts with the request. -/
  | conflict (application message : String)
  /-- The request was rejected. -/
  | invalidRequest (message : String)
  /-- The request never had a response. -/
  | transport (message : String)
  /-- Any other error of the service. -/
  | service (code message : String)
  /-- The response lacks a field. -/
  | missingResponseField (field : String)
  deriving DecidableEq, Repr

namespace ControlPlaneError

/-- The message of an error. -/
def message : ControlPlaneError → String
  | notFound application => "Application not found: " ++ application
  | permissionDenied operation message =>
    "Permission denied for " ++ operation ++ ": " ++ message
  | conflict application message =>
    "Conflicting application state for " ++ application ++ ": " ++ message
  | invalidRequest message => "Invalid request: " ++ message
  | transport message => "Transport error: " ++ message
  | service code message => "Service error (" ++ code ++ "): " ++ message
  | missingResponseField field => "Response missing field: " ++ field

/-- Whether a later call could succeed. -/
def isRetryable : ControlPlaneError → Bool
  | transport _ => true
  | service code _ => Text.contains "Throttl" code || code == "LimitExceededException"
  | _ => false

end ControlPlaneError

end StartOnReady
