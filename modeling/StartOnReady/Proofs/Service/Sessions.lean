import Mathlib.Data.List.Forall2
import StartOnReady.Proofs.Handler.CallTrace
import StartOnReady.Proofs.Json.RoundTrip
import StartOnReady.Proofs.Service.Regions
import StartOnReady.Proofs.Service.Requests

/-!
# Sessions with the service

A session takes single calls and payloads to handle one after the other on one plane.  `Exchange`
is what one call does on the network, and `run_exchanges` says that a program does nothing else
there, whatever it asks.  `runSteps_exchanges` puts this together for a session: who is called, and
what is sent for it.

Region and name of a call come from events that anybody may have written.  `IsRequestOf` says where
each ends up in the request: the name in the body, the region in the signature and in the host, and
neither in any other place.  The region that the clients share ends up nowhere
(`runSteps_of_region`).
-/

namespace StartOnReady

open Effects (Program)

/-- The operation that a call asks the service for. -/
def Call.operation : Call → Service.Operation
  | .describe _ _ => .describe
  | .start _ _ => .start

/-- The name under which the service knows what a call asks for. -/
def Call.target : Call → String
  | .describe _ _ => "KinesisAnalytics_20180523.DescribeApplication"
  | .start _ _ => "KinesisAnalytics_20180523.StartApplication"

theorem Call.target_operation (call : Call) : call.operation.target = call.target := by
  cases call <;> rfl

namespace Service

variable {shared : SharedConfig} {operation : Operation} {app : ApplicationRef}
  {network : Network} {request : Request} {call : Call} {e : Failure}

/-! ### The request of a call -/

/-- What a request takes from its call. -/
structure IsRequestOf (shared : SharedConfig) (call : Call) (request : Request) : Prop where
  valid : IsDotted call.app.region
  target : request.operation.target = call.target
  body : Json.Value.parse? request.body.render =
    some (.object [("ApplicationName", .string call.app.name)])
  region : request.region = call.app.region
  /-- Unless the endpoint is replaced, the region stands in the host, and nothing but a host stands
  between the scheme and the root. -/
  host : shared.endpointUrl = none → ∃ host, IsHostOf call.app.region host ∧ IsHostText host ∧
    request.uri = "https://" ++ host ++ "/"
  /-- A replacement alone says where the request goes. -/
  replaced : ∀ address, shared.endpointUrl = some address →
    ∃ endpoint, Endpoint.parse? address = some endpoint ∧ request.uri = endpoint.uri

/-- The body of a request is read back as the name it was made for. -/
theorem Request.parse?_body (request : Request) :
    Json.Value.parse? request.body.render =
      some (.object [("ApplicationName", .string request.application)]) := by
  have exact : request.body.isExact = true := rfl
  have name := Json.Value.text?_stringDocument "ApplicationName"
  have value := Json.Value.toValue?_stringDocument request.application
  have shape : request.body.document = .object [(Json.Value.stringDocument "ApplicationName",
      Json.Value.stringDocument request.application)] true := rfl
  rw [Json.Value.parse?, Json.Value.read_render exact, shape]
  simp only [Json.Document.toValue?, Json.maxLevels, Json.Document.toMembers?, name, value]
  rfl

theorem isRequestOf_of_made
    (made : request? shared call.operation call.app = .ok request) :
    IsRequestOf shared call request := by
  obtain ⟨valid, endpoint, read, rfl⟩ := request?_eq_ok_iff.1 made
  refine ⟨(isRegion_iff _).1 valid, call.target_operation, Request.parse?_body _, rfl, ?_, ?_⟩
  · intro free
    rw [free] at read
    exact ⟨_, isHostOf_hostOf _, Endpoint.isHostText_hostOf valid,
      Endpoint.uri_of_region valid read⟩
  · intro address replaced
    rw [replaced] at read
    exact ⟨endpoint, read, rfl⟩

/-! ### Calls on the network -/

/-- What a call does on the network.  For a region that is none it fails before anything is sent;
else its request is sent and takes the next reply, which decides whether the call fails.  Only
without an address is nothing sent for a region, and a region has an address unless it is too
long. -/
inductive Exchange (shared : SharedConfig) (call : Call) (before : Network) : Network → Prop
  | unbuilt (invalid : ¬ IsDotted call.app.region)
      (failed : call.error? = some (.invalidRequest "failed to construct request")) :
      Exchange shared call before before
  | unaddressed (valid : IsDotted call.app.region)
      (unread : endpointFor? shared.endpointUrl call.app.region = none)
      (long : shared.endpointUrl = none → ∃ host, IsHostOf call.app.region host ∧
        65534 < ("https://" ++ host).utf8ByteSize)
      (failed : call.error? = some (.transport "dispatch failure")) :
      Exchange shared call before before
  | sent {request : Request} (made : IsRequestOf shared call request)
      (answered : call.error? = none ↔
        ∃ item, readDelivery call.operation (before.pending.headD .broken) = .ok item) :
      Exchange shared call before ⟨before.pending.tail, before.sent ++ [request]⟩

theorem exchange_of_call {result : Except Failure Item} {after : Network}
    (called : shared.call call.operation call.app network = (result, after))
    (failed : ∀ e, result = .error e → call.error? = some (e.classify call.operation call.app))
    (done : ∀ item, result = .ok item → call.error? = none) :
    Exchange shared call network after := by
  cases made : request? shared call.operation call.app with
  | ok request =>
    rw [call_of_made made] at called
    cases called
    refine .sent (isRequestOf_of_made made) ?_
    cases reply : readDelivery call.operation (network.pending.headD .broken) with
    | ok item => simp [done item reply]
    | error e => simp [failed e reply]
  | error e =>
    rw [call_of_unmade made] at called
    cases called
    rcases request?_eq_error_iff.1 made with ⟨invalid, rfl⟩ | ⟨valid, unread, rfl⟩
    · refine .unbuilt ?_ (failed _ rfl)
      rw [← isRegion_iff, invalid]
      exact Bool.false_ne_true
    · refine .unaddressed ((isRegion_iff _).1 valid) unread ?_ (failed _ rfl)
      intro free
      have long : Endpoint.maxAddress < (Endpoint.addressOf call.app.region).utf8ByteSize := by
        by_contra short
        rw [free, endpointFor?, Option.getD_none, Endpoint.parse?_addressOf valid,
          if_pos (Nat.le_of_not_lt short)] at unread
        cases unread
      exact ⟨_, isHostOf_hostOf _, long⟩

theorem exchange_describe (app : ApplicationRef) (network : Network) :
    Exchange shared (.describe app (shared.plane.describe app network).result) network
      (shared.plane.describe app network).state := by
  simp only [SharedConfig.plane, SharedConfig.describe]
  rcases called : shared.call .describe app network with ⟨e | item, after⟩
  · refine exchange_of_call called (fun e' same => ?_) (fun item same => ?_)
    · cases same
      rfl
    · cases same
  · refine exchange_of_call called (fun e' same => ?_) (fun item' _ => rfl)
    cases same

theorem exchange_start (app : ApplicationRef) (network : Network) :
    Exchange shared (.start app (shared.plane.start app network).result) network
      (shared.plane.start app network).state := by
  simp only [SharedConfig.plane, SharedConfig.start]
  rcases called : shared.call .start app network with ⟨e | item, after⟩
  · refine exchange_of_call called (fun e' same => ?_) (fun item same => ?_)
    · cases same
      rfl
    · cases same
  · refine exchange_of_call called (fun e' same => ?_) (fun item' _ => rfl)
    cases same

/-- Calls one after the other, each on the network that the one before it leaves. -/
inductive Exchanges (shared : SharedConfig) : Network → List Call → Network → Prop
  | nil (network : Network) : Exchanges shared network [] network
  | cons {before between after : Network} {call : Call} {calls : List Call}
      (first : Exchange shared call before between)
      (rest : Exchanges shared between calls after) :
      Exchanges shared before (call :: calls) after

theorem Exchanges.append {before between after : Network} {calls calls' : List Call}
    (left : Exchanges shared before calls between)
    (right : Exchanges shared between calls' after) :
    Exchanges shared before (calls ++ calls') after := by
  induction left with
  | nil => exact right
  | cons first _ ih => exact .cons first (ih right)

/-- A program does nothing on the network but its calls. -/
theorem run_exchanges {α : Type} (shared : SharedConfig) (p : Program Calls α)
    (j : Journal Network) :
    ∃ calls, (p.run shared.plane.answer j).2.calls = j.calls ++ calls ∧
      Exchanges shared j.state calls (p.run shared.plane.answer j).2.state := by
  induction p generalizing j with
  | done a => exact ⟨[], (List.append_nil _).symm, .nil _⟩
  | ask effect next ih =>
    have rest := ih (shared.plane.answer effect j).1 (shared.plane.answer effect j).2
    obtain ⟨calls, made, exchanged⟩ := rest
    cases effect with
    | describe app =>
      exact ⟨_ :: calls, made.trans (List.append_assoc _ [_] _),
        .cons (exchange_describe app j.state) exchanged⟩
    | start app =>
      exact ⟨_ :: calls, made.trans (List.append_assoc _ [_] _),
        .cons (exchange_start app j.state) exchanged⟩
    | log record => exact ⟨calls, made, exchanged⟩

/-- All in all the requests come from some of the calls, one from each, and take one reply each. -/
theorem Exchanges.exists_senders {before after : Network} {calls : List Call}
    (h : Exchanges shared before calls after) :
    ∃ senders requests, senders.Sublist calls ∧
      List.Forall₂ (IsRequestOf shared) senders requests ∧
        after.sent = before.sent ++ requests ∧
          after.pending = before.pending.drop requests.length := by
  induction h with
  | nil network => exact ⟨[], [], .slnil, .nil, by simp, by simp⟩
  | cons first rest ih =>
    obtain ⟨senders, requests, some, made, sent, pending⟩ := ih
    cases first with
    | unbuilt | unaddressed => exact ⟨senders, requests, some.cons _, made, sent, pending⟩
    | @sent request of _ =>
      refine ⟨_ :: senders, request :: requests, some.cons_cons _, .cons of made, ?_, ?_⟩
      · simpa using sent
      · simpa [List.drop_drop, Nat.add_comm] using pending

/-! ### Sessions -/

/-- One step of a session. -/
inductive Step where
  | describe (app : ApplicationRef)
  | start (app : ApplicationRef)
  | handle (payload : Json.Value)

/-- Takes one step. -/
def Step.take (shared : SharedConfig) (network : Network) : Step → Journal Network
  | describe app => (shared.plane.run (StartOnReady.describe app) network).2
  | start app => (shared.plane.run (StartOnReady.start app) network).2
  | handle payload => (shared.plane.handleValue payload network).2

/-- Takes steps one after the other: the calls of each step and the network that is left. -/
def runSteps (shared : SharedConfig) : List Step → Network → List (List Call) × Network
  | [], network => ([], network)
  | step :: steps, network =>
    let journal := step.take shared network
    let (calls, after) := runSteps shared steps journal.state
    (journal.calls :: calls, after)

/-- The calls that a step makes, whatever comes back. -/
inductive Step.Makes : Step → List Call → Prop
  | describe (app : ApplicationRef) (result : Except ControlPlaneError ApplicationSnapshot) :
      Makes (.describe app) [.describe app result]
  | start (app : ApplicationRef) (result : Except ControlPlaneError Unit) :
      Makes (.start app) [.start app result]
  | idle {payload : Json.Value} (idle : ∀ app, ¬ IsFor payload app) : Makes (.handle payload) []
  | asked {payload : Json.Value} {app : ApplicationRef} (about : IsFor payload app)
      (result : Except ControlPlaneError ApplicationSnapshot) :
      Makes (.handle payload) [.describe app result]
  | askedAndStarted {payload : Json.Value} {app : ApplicationRef} (about : IsFor payload app)
      (result : Except ControlPlaneError ApplicationSnapshot)
      (result' : Except ControlPlaneError Unit) :
      Makes (.handle payload) [.describe app result, .start app result']

theorem not_isFor_of_no_calls {payload : Json.Value} {event : ChangeEvent}
    (read : ChangeEvent.ofValue payload = .ok event) {outcome : Outcome}
    {journal : Journal Network}
    (h : ControlPlane.Handling shared.plane event network outcome journal)
    (none : journal.calls = []) (app : ApplicationRef) : ¬ IsFor payload app := by
  rintro ⟨event', read', ⟨detail, present, acted⟩, target⟩
  cases read.symm.trans read'
  rcases h.calls_eq_nil_iff.1 none with absent | ⟨detail', present', idle⟩ | ⟨e, failed⟩
  · cases absent.symm.trans present
  · cases present.symm.trans present'
    cases acted.symm.trans idle
  · cases target.symm.trans failed

theorem Step.makes_of_handling {payload : Json.Value} {event : ChangeEvent}
    (read : ChangeEvent.ofValue payload = .ok event) {outcome : Outcome}
    {journal : Journal Network}
    (h : ControlPlane.Handling shared.plane event network outcome journal) :
    (Step.handle payload).Makes journal.calls := by
  have idle := not_isFor_of_no_calls read h
  cases h with
  | missingDetail | nameNotHandled | notExtracted => exact .idle (idle rfl)
  | describeFailed present acted target | filtered present acted target =>
    exact .asked ⟨event, read, ⟨_, present, acted⟩, target⟩ _
  | startFailed present acted target | started present acted target =>
    exact .askedAndStarted ⟨event, read, ⟨_, present, acted⟩, target⟩ _ _

theorem Step.makes_take (step : Step) (shared : SharedConfig) (network : Network) :
    step.Makes (step.take shared network).calls := by
  cases step with
  | describe app => exact .describe app _
  | start app => exact .start app _
  | handle payload =>
    cases read : ChangeEvent.ofValue payload with
    | error e =>
      rw [Step.take, ControlPlane.handleValue_of_error _ read]
      refine .idle fun app about => ?_
      obtain ⟨event, read', -⟩ := about
      cases read.symm.trans read'
    | ok event =>
      rw [Step.take, ControlPlane.handleValue_of_ok _ read]
      exact makes_of_handling read (ControlPlane.handling _ _ _)

theorem Step.exchanges_take (step : Step) (shared : SharedConfig) (network : Network) :
    Exchanges shared network (step.take shared network).calls
      (step.take shared network).state := by
  have all {α : Type} (p : Program Calls α) : Exchanges shared network
      (shared.plane.run p network).2.calls (shared.plane.run p network).2.state := by
    obtain ⟨calls, made, exchanged⟩ := run_exchanges shared p ⟨network, [], []⟩
    rw [List.nil_append] at made
    rw [ControlPlane.run, made]
    exact exchanged
  cases step with
  | describe app | start app | handle payload => exact all _

/-- The region that the clients share has no part in what is sent. -/
theorem plane_of_region (shared : SharedConfig) (region : Option String) :
    { shared with region := region }.plane = shared.plane := by
  have same : { shared with region := region }.call = shared.call := by
    funext operation app network
    rw [call_eq, call_eq]
    rfl
  have describe : { shared with region := region }.describe = shared.describe := by
    funext app network
    rw [SharedConfig.describe, SharedConfig.describe, same]
  have start : { shared with region := region }.start = shared.start := by
    funext app network
    rw [SharedConfig.start, SharedConfig.start, same]
  rw [SharedConfig.plane, SharedConfig.plane, describe, start]

theorem runSteps_of_region (shared : SharedConfig) (region : Option String) (steps : List Step)
    (network : Network) :
    runSteps { shared with region := region } steps network = runSteps shared steps network := by
  have same (step : Step) (network : Network) :
      step.take { shared with region := region } network = step.take shared network := by
    cases step <;> simp only [Step.take, plane_of_region]
  induction steps generalizing network with
  | nil => rfl
  | cons step steps ih => simp only [runSteps, same, ih]

/-- Whatever the steps of a session, the shared settings and the replies are: every step makes its
own calls, each call is one exchange, and the requests that are sent are those of some of the calls.
The shared region could be any other. -/
theorem runSteps_exchanges (shared : SharedConfig) (steps : List Step) (network : Network) :
    let calls := (runSteps shared steps network).1
    let after := (runSteps shared steps network).2
    List.Forall₂ Step.Makes steps calls ∧
    Exchanges shared network calls.flatten after ∧
    (∀ region, runSteps { shared with region := region } steps network =
      runSteps shared steps network) ∧
    ∃ senders requests, senders.Sublist calls.flatten ∧
      List.Forall₂ (IsRequestOf shared) senders requests ∧
      after.sent = network.sent ++ requests ∧
      after.pending = network.pending.drop requests.length := by
  intro calls after
  have steady : List.Forall₂ Step.Makes steps calls ∧
      Exchanges shared network calls.flatten after := by
    induction steps generalizing network with
    | nil => exact ⟨.nil, .nil network⟩
    | cons step steps ih =>
      obtain ⟨makes, exchanged⟩ := ih (step.take shared network).state
      exact ⟨.cons (step.makes_take shared network) makes,
        (step.exchanges_take shared network).append exchanged⟩
  exact ⟨steady.1, steady.2, fun region => runSteps_of_region shared region steps network,
    steady.2.exists_senders⟩

example : ((runSteps { region := some "eu-west-1" } [.describe ⟨"us-east-1", "a"⟩,
    .start ⟨"us-east-1@x:1/?", "b"⟩, .start ⟨"cn-north-1", "c"⟩] {}).2.sent.map (·.region)) =
      ["us-east-1", "cn-north-1"] := by
  decide +kernel

end Service

end StartOnReady
