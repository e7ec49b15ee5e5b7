import StartOnReady.ControlPlane.Error
import StartOnReady.Service.Exchange

/-!
# Failed calls

How the failures of the service map to the errors of a control plane.
-/

namespace StartOnReady.Service

/-- How a call to the service fails. -/
inductive Failure where
  /-- No request could be made for the region. -/
  | notBuilt
  /-- The request could not be sent or its connection failed. -/
  | notDelivered
  | timedOut
  /-- The response was an error, or a success that nobody can read. -/
  | refused (code : Option String)
  deriving DecidableEq, Repr

namespace Failure

/-- The first words of the text for a failure.  The causes that the client library lists behind them
are left out.  A response that breaks off would have words of its own; no delivery is one. -/
def phrase : Failure → String
  | notBuilt => "failed to construct request"
  | notDelivered => "dispatch failure"
  | timedOut => "request has timed out"
  | refused _ => "service error"

/-- The code of a refusal that gives none. -/
def unknownCode : String := "Unknown"

/-- The error of a control plane for a refusal with a code. -/
def ofCode (operation : Operation) (app : ApplicationRef) (code message : String) :
    ControlPlaneError :=
  if code = "ResourceNotFoundException" then .notFound app.display
  else if code ∈ ["AccessDeniedException", "UnrecognizedClientException"] then
    .permissionDenied operation.name message
  else if code ∈ ["ResourceInUseException", "ConcurrentModificationException"] then
    .conflict app.display message
  else if code ∈ ["InvalidArgumentException", "InvalidRequestException",
      "InvalidApplicationConfigurationException", "ValidationException"] then
    .invalidRequest message
  else .service code message

/-- The error of a control plane for a failure that is described by a message. -/
def classifyAs (operation : Operation) (app : ApplicationRef) (failure : Failure)
    (message : String) : ControlPlaneError :=
  match failure with
  | notBuilt => .invalidRequest message
  | notDelivered | timedOut => .transport message
  | refused code => ofCode operation app (code.getD unknownCode) message

/-- The error of a control plane for a failure. -/
def classify (operation : Operation) (app : ApplicationRef) (failure : Failure) :
    ControlPlaneError := failure.classifyAs operation app failure.phrase

end Failure

end StartOnReady.Service
