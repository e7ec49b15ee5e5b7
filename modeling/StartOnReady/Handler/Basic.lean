import StartOnReady.ControlPlane.Basic
import StartOnReady.Event.Change
import StartOnReady.Handler.Outcome

/-!
# Handling an event

`handleEvent` is a program over the calls of a control plane: it filters the event, asks for the
status of its application and, if that is ready, for a start.  No failure leaves it; nothing is
retried or remembered.
-/

namespace StartOnReady

open Effects (Program)

/-- A failure past the filters. -/
inductive HandlerError where
  | event (error : EventError)
  | controlPlane (error : ControlPlaneError)
  deriving DecidableEq, Repr

/-- The message of a failure is that of its cause. -/
def HandlerError.message : HandlerError → String
  | event error => error.message
  | controlPlane error => error.message

/-! ### Records -/

namespace Records

open Log (Field Record)

def unrecognizedShape (error : EventError) : Record :=
  ⟨.info, "Ignoring - unrecognized event shape", [.plain "error" error.message], none⟩

def missingDetail : Record := ⟨.info, "Ignoring - missing .detail", [], none⟩

def incoming (kind : EventKind) : Record :=
  ⟨.info, "Incoming event", [.plain "event_name" kind.text], none⟩

def payload : Record := ⟨.debug, "Incoming event payload", [], none⟩

def nameNotHandled (kind : EventKind) : Record :=
  ⟨.info, "Ignoring - event name not handled", [.plain "event_name" kind.text], none⟩

def described (app : ApplicationRef) (snapshot : ApplicationSnapshot) : Record :=
  let version :=
    match snapshot.versionId with
    | some id => "Some(" ++ toString id ++ ")"
    | none => "None"
  ⟨.debug, "Described application",
    [.plain "application" app.display, .plain "status" snapshot.status.text,
      .plain "version_id" version], none⟩

def statusFiltered (app : ApplicationRef) (status : ApplicationStatus) : Record :=
  ⟨.info, "No-op - application status is filtered",
    [.plain "application" app.display, .plain "status" status.text], none⟩

def started (app : ApplicationRef) (planeName : String) : Record :=
  ⟨.info, "Started application",
    [.plain "application" app.display, .quoted "control_plane" planeName], none⟩

def failed (error : HandlerError) (kind : EventKind) : Record :=
  ⟨.error, "Failed to handle event",
    [.plain "error" error.message, .plain "event_name" kind.text], none⟩

def complete (outcome : Outcome) : Record :=
  ⟨.info, "Invocation complete", [.quoted "outcome" outcome.label], none⟩

end Records

/-! ### The program -/

/-- Starts an application that is ready. -/
def startIfReady (planeName : String) (app : ApplicationRef) :
    Program Calls (Except HandlerError Outcome) := do
  match ← describe app with
  | .error e => return .error (.controlPlane e)
  | .ok snapshot =>
    log (Records.described app snapshot)
    if snapshot.status.isStartable then
      match ← start app with
      | .error e => return .error (.controlPlane e)
      | .ok () =>
        log (Records.started app planeName)
        return .ok (.startRequested app)
    else
      log (Records.statusFiltered app snapshot.status)
      return .ok (.statusFiltered app snapshot.status)

/-- Handles an event of a kind that is acted on. -/
def actOn (planeName : String) (event : ChangeEvent) :
    Program Calls (Except HandlerError Outcome) :=
  match event.applicationRef with
  | .error e => return .error (.event e)
  | .ok app => startIfReady planeName app

/-- Handles an event. -/
def handleEvent (planeName : String) (event : ChangeEvent) : Program Calls Outcome :=
  match event.detail with
  | none => do
    log Records.missingDetail
    return .ignoredMissingDetail
  | some detail => do
    log (Records.incoming detail.kind)
    log Records.payload
    if detail.kind.isActionable then
      match ← actOn planeName event with
      | .ok outcome => return outcome
      | .error e =>
        log (Records.failed e detail.kind)
        return .failed e.message
    else
      log (Records.nameNotHandled detail.kind)
      return .ignoredEventName detail.kind.text

/-- Handles a payload. -/
def handleValue (planeName : String) (payload : Json.Value) : Program Calls Outcome :=
  match ChangeEvent.ofValue payload with
  | .ok event => handleEvent planeName event
  | .error e => do
    log (Records.unrecognizedShape e)
    return .ignoredUnrecognizedShape

/-! ### Running it -/

/-- What one invocation leaves behind. -/
structure Invocation (σ : Type) where
  /-- What the caller is told. -/
  reply : Except String Unit
  outcome : Outcome
  journal : Journal σ

namespace ControlPlane

variable {σ : Type}

/-- Handles an event on a plane. -/
def handle (plane : ControlPlane σ) (event : ChangeEvent) (state : σ) : Outcome × Journal σ :=
  plane.run (handleEvent plane.name event) state

/-- Handles a payload on a plane. -/
def handleValue (plane : ControlPlane σ) (payload : Json.Value) (state : σ) : Outcome × Journal σ :=
  plane.run (StartOnReady.handleValue plane.name payload) state

/-- The span of one invocation. -/
def invocationSpan (requestId : String) : Log.Span :=
  ⟨"invocation", [.plain "request_id" requestId]⟩

/-- Handles a payload as one invocation: every record belongs to its span and the last one tells the
outcome.  The caller is never told of a failure, so it has nothing to deliver again. -/
def invoke (plane : ControlPlane σ) (requestId : String) (payload : Json.Value) (state : σ) :
    Invocation σ :=
  let (outcome, journal) := plane.handleValue payload state
  let records := journal.records ++ [Records.complete outcome]
  { reply := .ok ()
    outcome := outcome
    journal := { journal with records := records.map (·.within (invocationSpan requestId)) } }

end ControlPlane

end StartOnReady
