import StartOnReady.Application.Reference
import StartOnReady.Application.Snapshot
import StartOnReady.ControlPlane.Error
import StartOnReady.Effects.Program
import StartOnReady.Log.Record

/-!
# Control planes

A control plane over states in `σ` answers two calls, each of which may change its state and log.
`Calls` is the interface of a program that makes such calls, and `ControlPlane.answer` runs the
program against a plane while a journal keeps the calls and records in their order.
-/

namespace StartOnReady

/-- How a plane answers one call. -/
structure Reply (σ α : Type) where
  result : Except ControlPlaneError α
  state : σ
  records : List Log.Record := []

/-- The management interface of the service. -/
structure ControlPlane (σ : Type) where
  name : String
  /-- Reads the status of an application. -/
  describe : ApplicationRef → σ → Reply σ ApplicationSnapshot
  /-- Asks for a start and does not wait for it. -/
  start : ApplicationRef → σ → Reply σ Unit

/-- A call with its result. -/
inductive Call where
  | describe (app : ApplicationRef) (result : Except ControlPlaneError ApplicationSnapshot)
  | start (app : ApplicationRef) (result : Except ControlPlaneError Unit)

namespace Call

/-- The application that a call is about. -/
def app : Call → ApplicationRef
  | describe app _ | start app _ => app

/-- The error of a call that failed. -/
def error? : Call → Option ControlPlaneError
  | describe _ (.error e) | start _ (.error e) => some e
  | _ => none

end Call

/-- What a program can ask of its surroundings. -/
inductive Effect where
  | describe (app : ApplicationRef)
  | start (app : ApplicationRef)
  | log (record : Log.Record)
  deriving DecidableEq, Repr

/-- The answer to each effect. -/
def Effect.Answer : Effect → Type
  | describe _ => Except ControlPlaneError ApplicationSnapshot
  | start _ => Except ControlPlaneError Unit
  | log _ => Unit

/-- The interface of programs that call a control plane and log. -/
def Calls : Effects.Interface := ⟨Effect, Effect.Answer⟩

/-- Asks for the status of an application. -/
def describe (app : ApplicationRef) :
    Effects.Program Calls (Except ControlPlaneError ApplicationSnapshot) :=
  .question (I := Calls) (.describe app)

/-- Asks for a start. -/
def start (app : ApplicationRef) : Effects.Program Calls (Except ControlPlaneError Unit) :=
  .question (I := Calls) (.start app)

/-- Logs a record. -/
def log (record : Log.Record) : Effects.Program Calls Unit :=
  .question (I := Calls) (.log record)

/-- A state with all calls made and records logged so far. -/
structure Journal (σ : Type) where
  state : σ
  calls : List Call := []
  records : List Log.Record := []

namespace ControlPlane

variable {σ α : Type}

/-- Answers one effect. -/
def answer (plane : ControlPlane σ) :
    (effect : Effect) → Journal σ → Effect.Answer effect × Journal σ
  | .describe app, j =>
    let reply := plane.describe app j.state
    (reply.result, ⟨reply.state, j.calls ++ [.describe app reply.result],
      j.records ++ reply.records⟩)
  | .start app, j =>
    let reply := plane.start app j.state
    (reply.result, ⟨reply.state, j.calls ++ [.start app reply.result],
      j.records ++ reply.records⟩)
  | .log record, j => ((), { j with records := j.records ++ [record] })

/-- Runs a program against a plane in a state, with an empty journal. -/
def run (plane : ControlPlane σ) (program : Effects.Program Calls α) (state : σ) : α × Journal σ :=
  program.run plane.answer ⟨state, [], []⟩

end ControlPlane

end StartOnReady
