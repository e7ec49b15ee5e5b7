import StartOnReady.Application.Json

/-!
# Outcomes

What the handling of one event comes to, its label, and its form as a value.
-/

namespace StartOnReady

/-- What handling an event came to. -/
inductive Outcome where
  /-- The payload is no event. -/
  | ignoredUnrecognizedShape
  /-- The event has no detail. -/
  | ignoredMissingDetail
  /-- Events of this name are not acted on. -/
  | ignoredEventName (eventName : String)
  /-- The application is not ready. -/
  | statusFiltered (application : ApplicationRef) (status : ApplicationStatus)
  /-- A start was accepted. -/
  | startRequested (application : ApplicationRef)
  /-- Something failed for an event that is acted on. -/
  | failed (message : String)
  deriving DecidableEq, Repr

namespace Outcome

/-- The word for an outcome. -/
def label : Outcome → String
  | ignoredUnrecognizedShape => "ignored_unrecognized_shape"
  | ignoredMissingDetail => "ignored_missing_detail"
  | ignoredEventName _ => "ignored_event_name"
  | statusFiltered _ _ => "status_filtered"
  | startRequested _ => "start_requested"
  | failed _ => "failed"

def isFailure : Outcome → Bool
  | failed _ => true
  | _ => false

/-- The name of the outcome as its value carries it. -/
def tag : Outcome → String
  | ignoredUnrecognizedShape => "ignored_unrecognized_shape"
  | ignoredMissingDetail => "ignored_missing_detail"
  | ignoredEventName _ => "ignored_event_name"
  | statusFiltered _ _ => "status_filtered"
  | startRequested _ => "start_requested"
  | failed _ => "failed"

/-- What the value of an outcome carries beside its tag. -/
def content : Outcome → List (String × Json.Value)
  | ignoredEventName eventName => [("event_name", .string eventName)]
  | statusFiltered application status =>
    [("application", application.toJson), ("status", status.toJson)]
  | startRequested application => [("application", application.toJson)]
  | failed message => [("message", .string message)]
  | _ => []

/-- An outcome as a value. -/
def toJson (outcome : Outcome) : Json.Value :=
  .object (("outcome", .string outcome.tag) :: outcome.content)

end Outcome

end StartOnReady
