import StartOnReady.Handler.Basic
import StartOnReady.Scripted.Plane

/-!
# Sessions on the scripted plane

A session is a list of steps on one plane: settings, single calls, and events to handle.  Each step
gives a result and the records it logged.
-/

namespace StartOnReady.Scripted

/-- One step. -/
inductive Step where
  | setStatus (name : String) (status : ApplicationStatus)
  | readStatus (name : String)
  | setDescribeError (error : ControlPlaneError)
  | setStartError (error : ControlPlaneError)
  | describe (app : ApplicationRef)
  | start (app : ApplicationRef)
  | handle (payload : Json.Value)
  | handleEvent (event : ChangeEvent)
  | invoke (requestId : String) (payload : Json.Value)
  | readCalls

/-- What a step gives. -/
inductive Step.Result where
  | nothing
  | status (status : Option ApplicationStatus)
  | described (result : Except ControlPlaneError ApplicationSnapshot)
  | started (result : Except ControlPlaneError Unit)
  | handled (outcome : Outcome)
  | invoked (invocation : Invocation State)
  | calls (describes starts : List RecordedCall)

/-- Takes one step: its result, its records and the next state. -/
def Step.take (s : State) : Step → Result × List Log.Record × State
  | setStatus name status => (.nothing, [], s.setStatus name status)
  | readStatus name => (.status (s.status name), [], s)
  | setDescribeError error => (.nothing, [], s.setDescribeError error)
  | setStartError error => (.nothing, [], s.setStartError error)
  | describe app =>
    let reply := plane.describe app s
    (.described reply.result, reply.records, reply.state)
  | start app =>
    let reply := plane.start app s
    (.started reply.result, reply.records, reply.state)
  | handle payload =>
    let (outcome, journal) := plane.handleValue payload s
    (.handled outcome, journal.records, journal.state)
  | handleEvent event =>
    let (outcome, journal) := plane.handle event s
    (.handled outcome, journal.records, journal.state)
  | invoke requestId payload =>
    let invocation := plane.invoke requestId payload s
    (.invoked invocation, invocation.journal.records, invocation.journal.state)
  | readCalls => (.calls s.describes s.starts, [], s)

/-- The results, records and states after each step. -/
def runSteps : List Step → State → List (Step.Result × List Log.Record × State)
  | [], _ => []
  | step :: steps, s =>
    let taken := step.take s
    taken :: runSteps steps taken.2.2

end StartOnReady.Scripted
