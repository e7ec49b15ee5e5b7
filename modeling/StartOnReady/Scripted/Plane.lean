import StartOnReady.ControlPlane.Basic
import StartOnReady.Keyed

/-!
# The scripted control plane

A plane for trials: statuses are set by name, an error can be injected into the next call of either
kind, and every call is recorded.  Each call is a program of single accesses to the shared state, so
that calls of several users can also be interleaved access by access; `plane` runs each call in one
go.
-/

namespace StartOnReady.Scripted

open Effects (Interface Program)

/-- A recorded call. -/
structure RecordedCall where
  application : ApplicationRef
  success : Bool
  deriving DecidableEq, Repr

/-- The state of the plane. -/
structure State where
  /-- The status of each application, by name alone. -/
  statuses : List (String × ApplicationStatus) := []
  describes : List RecordedCall := []
  starts : List RecordedCall := []
  nextDescribeError : Option ControlPlaneError := none
  nextStartError : Option ControlPlaneError := none
  deriving DecidableEq, Repr

/-! ### Setting the scene -/

namespace State

/-- The status of the applications with a name. -/
def status (s : State) (name : String) : Option ApplicationStatus := Keyed.find? name s.statuses

/-- Sets the status of the applications with a name. -/
def setStatus (s : State) (name : String) (status : ApplicationStatus) : State :=
  { s with statuses := Keyed.insert name status s.statuses }

/-- Lets the next describe call fail. -/
def setDescribeError (s : State) (error : ControlPlaneError) : State :=
  { s with nextDescribeError := some error }

/-- Lets the next start call fail. -/
def setStartError (s : State) (error : ControlPlaneError) : State :=
  { s with nextStartError := some error }

end State

/-! ### Single accesses -/

/-- One access to the shared state, done without interruption. -/
inductive Access where
  /-- Takes the injected error out of its slot. -/
  | takeDescribeError
  | takeStartError
  | readStatus (name : String)
  /-- Reads a status and, if it is ready, changes it to starting. -/
  | claimStart (name : String)
  | recordDescribe (call : RecordedCall)
  | recordStart (call : RecordedCall)
  deriving DecidableEq, Repr

/-- The answer to each access. -/
def Access.Answer : Access → Type
  | takeDescribeError | takeStartError => Option ControlPlaneError
  | readStatus _ | claimStart _ => Option ApplicationStatus
  | recordDescribe _ | recordStart _ => Unit

/-- The interface of programs over the shared state. -/
def Accesses : Interface := ⟨Access, Access.Answer⟩

/-- Performs one access. -/
def access : (a : Access) → State → a.Answer × State
  | .takeDescribeError, s => (s.nextDescribeError, { s with nextDescribeError := none })
  | .takeStartError, s => (s.nextStartError, { s with nextStartError := none })
  | .readStatus name, s => (s.status name, s)
  | .claimStart name, s =>
    (s.status name, if s.status name = some .ready then s.setStatus name .starting else s)
  | .recordDescribe call, s => ((), { s with describes := s.describes ++ [call] })
  | .recordStart call, s => ((), { s with starts := s.starts ++ [call] })

/-- The access as a program. -/
def perform (a : Access) : Program Accesses a.Answer := .question (I := Accesses) a

/-! ### Calls -/

/-- A describe call: the injected error if there is one, else the status of the name. -/
def describe (app : ApplicationRef) :
    Program Accesses (Except ControlPlaneError ApplicationSnapshot) := do
  match ← perform .takeDescribeError with
  | some e =>
    perform (.recordDescribe ⟨app, false⟩)
    return .error e
  | none =>
    match ← perform (.readStatus app.name) with
    | none =>
      perform (.recordDescribe ⟨app, false⟩)
      return .error (.notFound app.display)
    | some status =>
      perform (.recordDescribe ⟨app, true⟩)
      return .ok ⟨app.name, status, some 1⟩

/-- What a start call comes to, given the status it met. -/
def startResult (app : ApplicationRef) : Option ApplicationStatus → Except ControlPlaneError Unit
  | some .ready => .ok ()
  | some status => .error (.conflict app.display ("application is " ++ status.text))
  | none => .error (.notFound app.display)

/-- Whether a call succeeded. -/
def succeeded {α : Type} : Except ControlPlaneError α → Bool
  | .ok _ => true
  | .error _ => false

/-- A start call: the injected error if there is one, else a claim of the name. -/
def start (app : ApplicationRef) : Program Accesses (Except ControlPlaneError Unit) := do
  match ← perform .takeStartError with
  | some e =>
    perform (.recordStart ⟨app, false⟩)
    return .error e
  | none =>
    let result := startResult app (← perform (.claimStart app.name))
    perform (.recordStart ⟨app, succeeded result⟩)
    return result

/-- A call run in one go. -/
def runCall {α : Type} (call : Program Accesses (Except ControlPlaneError α)) (s : State) :
    Reply State α :=
  let (result, s) := call.run access s
  { result := result, state := s }

/-- The scripted plane. -/
def plane : ControlPlane State where
  name := "mock"
  describe app s := runCall (describe app) s
  start app s := runCall (start app) s

end StartOnReady.Scripted
