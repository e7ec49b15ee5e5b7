import StartOnReady.Event.Sample
import StartOnReady.Proofs.Handler.Handling
import StartOnReady.Service.Client

/-!
# The requests of a handling

Which requests the client of the service sends while a payload is handled, whatever comes back.
`Requesting` lists the ways of a handling by the payload and the replies, `requesting` says that
every handling goes one of them, and `handleValue_requests` reads off when a start is sent.
-/

namespace StartOnReady.Service

open Response (Description)

variable {shared : SharedConfig} {operation : Operation} {app : ApplicationRef}
  {network : Network} {e : Failure} {request : Request}

/-! ### Single calls -/

/-- The request of a call, or why none can be made. -/
def request? (shared : SharedConfig) (operation : Operation) (app : ApplicationRef) :
    Except Failure Request :=
  if isRegion app.region then
    match endpointFor? shared.endpointUrl app.region with
    | none => .error .notDelivered
    | some endpoint => .ok ⟨operation, endpoint.uri, app.region, app.name⟩
  else .error .notBuilt

theorem request?_eq_ok_iff :
    request? shared operation app = .ok request ↔
      isRegion app.region = true ∧
        ∃ endpoint, endpointFor? shared.endpointUrl app.region = some endpoint ∧
          request = ⟨operation, endpoint.uri, app.region, app.name⟩ := by
  unfold request?
  by_cases valid : isRegion app.region = true
  · cases read : endpointFor? shared.endpointUrl app.region with
    | none => simp [valid]
    | some endpoint => simp [valid, @eq_comm _ request]
  · simp [valid]

theorem request?_eq_error_iff :
    request? shared operation app = .error e ↔
      (isRegion app.region = false ∧ e = .notBuilt) ∨
        isRegion app.region = true ∧ endpointFor? shared.endpointUrl app.region = none ∧
          e = .notDelivered := by
  unfold request?
  cases valid : isRegion app.region with
  | false => simp [@eq_comm _ e]
  | true =>
    cases read : endpointFor? shared.endpointUrl app.region with
    | none => simp [@eq_comm _ e]
    | some endpoint => simp

/-- A call is made by the client for its own region, whatever region the clients share. -/
theorem call_eq (shared : SharedConfig) (operation : Operation) (app : ApplicationRef)
    (network : Network) :
    shared.call operation app network =
      match request? shared operation app with
      | .error e => (.error e, network)
      | .ok request =>
        (readDelivery operation (network.send request).1, (network.send request).2) := by
  unfold request? SharedConfig.call Client.call
  dsimp only [SharedConfig.clientFor, Client.inRegion, Client.ofShared]
  cases isRegion app.region with
  | false => rfl
  | true => cases endpointFor? shared.endpointUrl app.region <;> rfl

/-- A call that can be made sends its request and takes the next reply. -/
theorem call_of_made (made : request? shared operation app = .ok request)
    (network : Network) :
    shared.call operation app network =
      (readDelivery operation (network.pending.headD .broken),
        ⟨network.pending.tail, network.sent ++ [request]⟩) := by
  rw [call_eq, made]
  obtain ⟨_ | ⟨delivery, pending⟩, sent⟩ := network <;> rfl

theorem call_of_unmade (unmade : request? shared operation app = .error e)
    (network : Network) : shared.call operation app network = (.error e, network) := by
  rw [call_eq, unmade]

theorem call_eq_ok {item : Item} {after : Network}
    (called : shared.call operation app network = (.ok item, after)) :
    ∃ request, request? shared operation app = .ok request ∧
      readDelivery operation (network.pending.headD .broken) = .ok item ∧
      after = ⟨network.pending.tail, network.sent ++ [request]⟩ := by
  cases made : request? shared operation app with
  | error e =>
    rw [call_of_unmade made] at called
    cases called
  | ok request =>
    rw [call_of_made made, Prod.mk.injEq] at called
    exact ⟨request, rfl, called.1, called.2.symm⟩

theorem call_eq_error {after : Network}
    (called : shared.call operation app network = (.error e, after)) :
    (request? shared operation app = .error e ∧ after = network) ∨
      ∃ request, request? shared operation app = .ok request ∧
        readDelivery operation (network.pending.headD .broken) = .error e ∧
        after = ⟨network.pending.tail, network.sent ++ [request]⟩ := by
  cases made : request? shared operation app with
  | error e' =>
    rw [call_of_unmade made] at called
    cases called
    exact Or.inl ⟨rfl, rfl⟩
  | ok request =>
    rw [call_of_made made, Prod.mk.injEq] at called
    exact Or.inr ⟨request, rfl, called.1, called.2.symm⟩

/-- The calls about an application are sent to one place. -/
theorem request?_start_of_describe (made : request? shared .describe app = .ok request) :
    request.operation = .describe ∧
      request? shared .start app = .ok { request with operation := .start } := by
  obtain ⟨valid, endpoint, read, rfl⟩ := request?_eq_ok_iff.1 made
  exact ⟨rfl, request?_eq_ok_iff.2 ⟨valid, endpoint, read, rfl⟩⟩

theorem readDelivery_eq_ok_iff (delivery : Delivery) (item : Item) :
    readDelivery operation delivery = .ok item ↔
      ∃ response, delivery = .answered response ∧ response.isSuccess = true ∧
        response.object? operation.success = some item := by
  cases delivery with
  | broken | late => simp [readDelivery]
  | answered response =>
    unfold readDelivery
    cases success : response.isSuccess with
    | false => simp [success]
    | true =>
      cases body : response.object? operation.success with
      | none => simp [success, body]
      | some item => simp [success, body]

/-! ### Descriptions -/

/-- The status is ready exactly if the description says so in this very word. -/
theorem isStartable_snapshotOf (app : ApplicationRef) (d : Description) :
    (snapshotOf app d).status.isStartable = true ↔ d.status = some "READY" := by
  rw [ApplicationStatus.isStartable_eq_true_iff, snapshotOf, ApplicationStatus.parse_eq_ready_iff]
  unfold Description.statusWord
  cases d.status with
  | none => simp
  | some word => simp

/-! ### Calls of the plane -/

theorem describe_eq_ok {snapshot : ApplicationSnapshot} {after : Network}
    {records : List Log.Record}
    (described : shared.plane.describe app network = ⟨.ok snapshot, after, records⟩) :
    ∃ item, shared.call .describe app network = (.ok item, after) ∧
      snapshot = snapshotOf app (.ofItem item) := by
  rcases called : shared.call .describe app network with ⟨e | item, network'⟩
  · simp only [SharedConfig.plane, SharedConfig.describe, called] at described
    cases described
  · simp only [SharedConfig.plane, SharedConfig.describe, called] at described
    cases described
    exact ⟨item, rfl, rfl⟩

theorem describe_eq_error {error : ControlPlaneError} {after : Network}
    {records : List Log.Record}
    (described : shared.plane.describe app network = ⟨.error error, after, records⟩) :
    ∃ e : Failure, shared.call .describe app network = (.error e, after) ∧
      error = e.classify .describe app := by
  rcases called : shared.call .describe app network with ⟨e | item, network'⟩
  · simp only [SharedConfig.plane, SharedConfig.describe, called] at described
    cases described
    exact ⟨e, rfl, rfl⟩
  · simp only [SharedConfig.plane, SharedConfig.describe, called] at described
    cases described

theorem start_eq_ok {after : Network} {records : List Log.Record}
    (started : shared.plane.start app network = ⟨.ok (), after, records⟩) :
    ∃ item, shared.call .start app network = (.ok item, after) := by
  rcases called : shared.call .start app network with ⟨e | item, network'⟩
  · simp only [SharedConfig.plane, SharedConfig.start, called] at started
    cases started
  · simp only [SharedConfig.plane, SharedConfig.start, called] at started
    cases started
    exact ⟨item, rfl⟩

theorem start_eq_error {error : ControlPlaneError} {after : Network} {records : List Log.Record}
    (started : shared.plane.start app network = ⟨.error error, after, records⟩) :
    ∃ e : Failure, shared.call .start app network = (.error e, after) ∧
      error = e.classify .start app := by
  rcases called : shared.call .start app network with ⟨e | item, network'⟩
  · simp only [SharedConfig.plane, SharedConfig.start, called] at started
    cases started
    exact ⟨e, rfl, rfl⟩
  · simp only [SharedConfig.plane, SharedConfig.start, called] at started
    cases started

/-! ### The ways of a handling -/

/-- Whether a payload is an event that is acted on and about an application. -/
def IsFor (payload : Json.Value) (app : ApplicationRef) : Prop :=
  ∃ event, ChangeEvent.ofValue payload = .ok event ∧ event.IsActionable ∧
    event.applicationRef = .ok app

theorem IsFor.unique {payload : Json.Value} {app app' : ApplicationRef} (h : IsFor payload app)
    (h' : IsFor payload app') : app = app' := by
  obtain ⟨event, read, -, target⟩ := h
  obtain ⟨event', read', -, target'⟩ := h'
  cases read.symm.trans read'
  cases target.symm.trans target'
  rfl

/-- The reply to the first request; without one the connection fails. -/
def firstReply (replies : List Delivery) : Delivery := replies.headD .broken

/-- The reply to the second request. -/
def secondReply (replies : List Delivery) : Delivery := replies.tail.headD .broken

/-- The outcome of handling a payload and the requests that are sent, given the replies. -/
inductive Requesting (shared : SharedConfig) (payload : Json.Value)
    (replies : List Delivery) : Outcome → List Request → Prop
  | idle {outcome : Outcome} (idle : ∀ app, ¬ IsFor payload app)
      (unasked : ∀ app, outcome ≠ .startRequested app) :
      Requesting shared payload replies outcome []
  | unmade {app : ApplicationRef} {e : Failure} (about : IsFor payload app)
      (unmade : request? shared .describe app = .error e) :
      Requesting shared payload replies (.failed (e.classify .describe app).message) []
  | describeFailed {app : ApplicationRef} {request : Request} {e : Failure}
      (about : IsFor payload app) (made : request? shared .describe app = .ok request)
      (described : readDelivery .describe (firstReply replies) = .error e) :
      Requesting shared payload replies (.failed (e.classify .describe app).message)
        [request]
  | filtered {app : ApplicationRef} {request : Request} {item : Item} {status : ApplicationStatus}
      (about : IsFor payload app) (made : request? shared .describe app = .ok request)
      (described : readDelivery .describe (firstReply replies) = .ok item)
      (unready : (Description.ofItem item).status ≠ some "READY") :
      Requesting shared payload replies (.statusFiltered app status) [request]
  | startFailed {app : ApplicationRef} {request : Request} {item : Item} {e : Failure}
      (about : IsFor payload app) (made : request? shared .describe app = .ok request)
      (described : readDelivery .describe (firstReply replies) = .ok item)
      (ready : (Description.ofItem item).status = some "READY")
      (started : readDelivery .start (secondReply replies) = .error e) :
      Requesting shared payload replies (.failed (e.classify .start app).message)
        [request, { request with operation := .start }]
  | started {app : ApplicationRef} {request : Request} {item item' : Item}
      (about : IsFor payload app) (made : request? shared .describe app = .ok request)
      (described : readDelivery .describe (firstReply replies) = .ok item)
      (ready : (Description.ofItem item).status = some "READY")
      (started : readDelivery .start (secondReply replies) = .ok item') :
      Requesting shared payload replies (.startRequested app)
        [request, { request with operation := .start }]

theorem requesting_of_event {payload : Json.Value} {event : ChangeEvent}
    (read : ChangeEvent.ofValue payload = .ok event) {replies : List Delivery} {outcome : Outcome}
    {journal : Journal Network}
    (h : ControlPlane.Handling shared.plane event ⟨replies, []⟩ outcome journal) :
    Requesting shared payload replies outcome journal.state.sent := by
  have idle (absent : ¬ (event.IsActionable ∧ ∃ app, event.applicationRef = .ok app)) :
      ∀ app, ¬ IsFor payload app := by
    rintro app ⟨event', read', acted, target⟩
    cases read.symm.trans read'
    exact absent ⟨acted, app, target⟩
  cases h with
  | missingDetail absent =>
    exact .idle (idle fun h => ChangeEvent.not_isActionable_of_absent absent h.1) (by simp)
  | nameNotHandled present unacted =>
    refine .idle (idle fun h => ?_) (by simp)
    rw [ChangeEvent.isActionable_iff_of_present present, unacted] at h
    cases h.1
  | notExtracted present acted target =>
    refine .idle (idle ?_) (by simp)
    rintro ⟨-, app, target'⟩
    cases target.symm.trans target'
  | describeFailed present acted target described =>
    have about : IsFor payload _ := ⟨event, read, ⟨_, present, acted⟩, target⟩
    obtain ⟨e, called, rfl⟩ := describe_eq_error described
    rcases call_eq_error called with ⟨unmade, rfl⟩ | ⟨request, made, failed, rfl⟩
    · exact .unmade about unmade
    · exact .describeFailed about made failed
  | filtered present acted target described unready =>
    have about : IsFor payload _ := ⟨event, read, ⟨_, present, acted⟩, target⟩
    obtain ⟨item, called, rfl⟩ := describe_eq_ok described
    obtain ⟨request, made, answered, rfl⟩ := call_eq_ok called
    rw [← Bool.not_eq_true, isStartable_snapshotOf] at unready
    exact .filtered about made answered unready
  | startFailed present acted target described ready started =>
    have about : IsFor payload _ := ⟨event, read, ⟨_, present, acted⟩, target⟩
    obtain ⟨item, called, rfl⟩ := describe_eq_ok described
    obtain ⟨request, made, answered, rfl⟩ := call_eq_ok called
    rw [isStartable_snapshotOf] at ready
    obtain ⟨e, called', rfl⟩ := start_eq_error started
    rcases call_eq_error called' with ⟨unmade, -⟩ | ⟨request', made', failed, rfl⟩
    · cases unmade.symm.trans (request?_start_of_describe made).2
    · cases made'.symm.trans (request?_start_of_describe made).2
      exact .startFailed about made answered ready failed
  | started present acted target described ready started =>
    have about : IsFor payload _ := ⟨event, read, ⟨_, present, acted⟩, target⟩
    obtain ⟨item, called, rfl⟩ := describe_eq_ok described
    obtain ⟨request, made, answered, rfl⟩ := call_eq_ok called
    rw [isStartable_snapshotOf] at ready
    obtain ⟨item', called'⟩ := start_eq_ok started
    obtain ⟨request', made', accepted, rfl⟩ := call_eq_ok called'
    cases made'.symm.trans (request?_start_of_describe made).2
    exact .started about made answered ready accepted

/-- Handling a payload goes one of these ways. -/
theorem requesting (shared : SharedConfig) (payload : Json.Value)
    (replies : List Delivery) :
    Requesting shared payload replies
      (shared.plane.handleValue payload ⟨replies, []⟩).1
      (shared.plane.handleValue payload ⟨replies, []⟩).2.state.sent := by
  cases read : ChangeEvent.ofValue payload with
  | error e =>
    rw [ControlPlane.handleValue_of_error _ read]
    refine .idle ?_ (by simp)
    rintro app ⟨event, read', -⟩
    cases read.symm.trans read'
  | ok event =>
    rw [ControlPlane.handleValue_of_ok _ read]
    exact requesting_of_event read (ControlPlane.handling _ _ _)

/-! ### Replies that start nothing -/

/-- What can come of a describe request without an application that is ready. -/
inductive Delivery.IsUnready : Delivery → Prop
  | broken : IsUnready .broken
  | late : IsUnready .late
  | errorStatus {response : Response} (refused : response.status < 200 ∨ 299 < response.status) :
      IsUnready (.answered response)
  | undecodable {response : Response}
      (undecodable : response.object? Operation.describe.success = none) :
      IsUnready (.answered response)
  | noDetail {response : Response} {item : Item}
      (body : response.object? Operation.describe.success = some item)
      (absent : item.member? "ApplicationDetail" = none ∨
        item.member? "ApplicationDetail" = some .null) : IsUnready (.answered response)
  | noStatus {response : Response} {item detail : Item}
      (body : response.object? Operation.describe.success = some item)
      (present : item.member? "ApplicationDetail" = some detail)
      (absent : detail.member? "ApplicationStatus" = none ∨
        detail.member? "ApplicationStatus" = some .null) : IsUnready (.answered response)
  | otherStatus {response : Response} {item detail status : Item}
      (body : response.object? Operation.describe.success = some item)
      (present : item.member? "ApplicationDetail" = some detail)
      (given : detail.member? "ApplicationStatus" = some status)
      (other : status.text? ≠ some "READY") : IsUnready (.answered response)

theorem Delivery.IsUnready.status_ne {delivery : Delivery} (h : delivery.IsUnready) {item : Item}
    (described : readDelivery .describe delivery = .ok item) :
    (Description.ofItem item).status ≠ some "READY" := by
  obtain ⟨response, rfl, success, body⟩ := (readDelivery_eq_ok_iff delivery item).1 described
  cases h with
  | errorStatus refused =>
    simp only [Response.isSuccess, Bool.and_eq_true, decide_eq_true_eq] at success
    omega
  | undecodable undecodable => cases body.symm.trans undecodable
  | noDetail body' absent =>
    cases body.symm.trans body'
    have status : (Description.ofItem item).status = none := by
      rcases absent with absent | absent <;> simp only [Description.ofItem, absent] <;> rfl
    rw [status]
    exact nofun
  | noStatus body' present absent =>
    cases body.symm.trans body'
    rcases absent with absent | absent <;> simp [Description.ofItem, present, absent, Item.text?]
  | otherStatus body' present given other =>
    cases body.symm.trans body'
    simpa [Description.ofItem, present, given] using other

/-! ### When a start is sent -/

/-- Whether a request for an operation was sent. -/
def Sends (operation : Operation) (sent : List Request) : Prop :=
  ∃ request ∈ sent, request.operation = operation

instance (operation : Operation) (sent : List Request) : Decidable (Sends operation sent) :=
  inferInstanceAs (Decidable (∃ request ∈ sent, request.operation = operation))

namespace Requesting

variable {payload : Json.Value} {replies : List Delivery} {outcome : Outcome} {sent : List Request}

theorem sent_cases (h : Requesting shared payload replies outcome sent) :
    sent = [] ∨ ∃ request, request.operation = .describe ∧
      (sent = [request] ∨ sent = [request, { request with operation := .start }]) := by
  cases h with
  | idle | unmade => exact Or.inl rfl
  | describeFailed _ made | filtered _ made =>
    exact Or.inr ⟨_, (request?_start_of_describe made).1, Or.inl rfl⟩
  | startFailed _ made | started _ made =>
    exact Or.inr ⟨_, (request?_start_of_describe made).1, Or.inr rfl⟩

theorem sends_describe_iff (h : Requesting shared payload replies outcome sent) :
    Sends .describe sent ↔ sent ≠ [] := by
  rcases h.sent_cases with rfl | ⟨request, describes, rfl | rfl⟩
  · simp [Sends]
  · simp [Sends, describes]
  · simp [Sends, describes]

theorem sends_start_iff (h : Requesting shared payload replies outcome sent) :
    Sends .start sent ↔
      (∃ app, IsFor payload app) ∧ Sends .describe sent ∧
        ∃ item, readDelivery .describe (firstReply replies) = .ok item ∧
          (Description.ofItem item).status = some "READY" := by
  rw [h.sends_describe_iff]
  cases h with
  | idle | unmade => simp [Sends]
  | describeFailed _ made described =>
    simp [Sends, (request?_start_of_describe made).1, described]
  | filtered _ made described unready =>
    simp [Sends, (request?_start_of_describe made).1, described, unready]
  | startFailed about _ described ready | started about _ described ready =>
    exact iff_of_true ⟨_, List.mem_cons_of_mem _ List.mem_cons_self, rfl⟩
      ⟨⟨_, about⟩, by simp, _, described, ready⟩

theorem exists_startRequested_iff (h : Requesting shared payload replies outcome sent) :
    (∃ app, outcome = .startRequested app) ↔
      Sends .start sent ∧
        ∃ item, readDelivery .start (secondReply replies) = .ok item := by
  cases h with
  | idle _ unasked => simp [Sends, unasked]
  | unmade => simp [Sends]
  | describeFailed _ made | filtered _ made =>
    simp [Sends, (request?_start_of_describe made).1]
  | startFailed _ _ _ _ started | started _ _ _ _ started => simp [Sends, started]

/-- A call for which no request can be made ends the handling before anything is sent. -/
theorem of_unmade (h : Requesting shared payload replies outcome sent)
    (about : IsFor payload app) (unmade : request? shared .describe app = .error e) :
    outcome = .failed (e.classify .describe app).message ∧ sent = [] := by
  cases h with
  | idle idle => exact absurd about (idle app)
  | unmade about' unmade' =>
    cases about'.unique about
    cases unmade.symm.trans unmade'
    exact ⟨rfl, rfl⟩
  | describeFailed about' made | filtered about' made | startFailed about' made
  | started about' made =>
    cases about'.unique about
    cases unmade.symm.trans made

theorem of_describe_failed (h : Requesting shared payload replies outcome sent)
    (about : IsFor payload app) (asked : Sends .describe sent)
    (failed : readDelivery .describe (firstReply replies) = .error e) :
    outcome = .failed (e.classify .describe app).message ∧ ¬ Sends .start sent := by
  cases h with
  | idle idle => exact absurd about (idle app)
  | unmade => simp [Sends] at asked
  | describeFailed about' made failed' =>
    cases about'.unique about
    cases failed.symm.trans failed'
    exact ⟨rfl, by simp [Sends, (request?_start_of_describe made).1]⟩
  | filtered _ _ described | startFailed _ _ described | started _ _ described =>
    cases failed.symm.trans described

theorem of_start_failed (h : Requesting shared payload replies outcome sent)
    (about : IsFor payload app) (asked : Sends .start sent)
    (failed : readDelivery .start (secondReply replies) = .error e) :
    outcome = .failed (e.classify .start app).message := by
  cases h with
  | idle idle => exact absurd about (idle app)
  | unmade => simp [Sends] at asked
  | describeFailed _ made | filtered _ made =>
    simp [Sends, (request?_start_of_describe made).1] at asked
  | startFailed about' _ _ _ failed' =>
    cases about'.unique about
    cases failed.symm.trans failed'
    rfl
  | started _ _ _ _ accepted => cases failed.symm.trans accepted

end Requesting

/-- Whatever the payload, the shared settings and the replies are: nothing, a describe
request, or a describe and a start request is sent.  The start is sent exactly for an application
that the reply to the describe request calls ready; it is requested in the outcome exactly if its
own reply is accepted as well, and a request that fails is the last one and gives the outcome. -/
theorem handleValue_requests (shared : SharedConfig) (payload : Json.Value)
    (replies : List Delivery) :
    let run := shared.plane.handleValue payload ⟨replies, []⟩
    let outcome := run.1
    let sent := run.2.state.sent
    (sent = [] ∨ ∃ request, request.operation = .describe ∧
      (sent = [request] ∨ sent = [request, { request with operation := .start }])) ∧
    (Sends .start sent ↔
      (∃ app, IsFor payload app) ∧ Sends .describe sent ∧
        ∃ response item, firstReply replies = .answered response ∧ response.isSuccess = true ∧
          response.object? Operation.describe.success = some item ∧
          (Description.ofItem item).status = some "READY") ∧
    ((firstReply replies).IsUnready → ¬ Sends .start sent) ∧
    ((∃ app, outcome = .startRequested app) ↔
      Sends .start sent ∧
        ∃ response item, secondReply replies = .answered response ∧ response.isSuccess = true ∧
          response.object? Operation.start.success = some item) ∧
    (∀ app e, IsFor payload app → request? shared .describe app = .error e →
      outcome = .failed (e.classify .describe app).message ∧ sent = []) ∧
    (∀ app e, IsFor payload app → Sends .describe sent →
      readDelivery .describe (firstReply replies) = .error e →
        outcome = .failed (e.classify .describe app).message ∧ ¬ Sends .start sent) ∧
    (∀ app e, IsFor payload app → Sends .start sent →
      readDelivery .start (secondReply replies) = .error e →
        outcome = .failed (e.classify .start app).message) := by
  intro run outcome sent
  have h : Requesting shared payload replies outcome sent :=
    requesting shared payload replies
  refine ⟨h.sent_cases, ?_, ?_, ?_, ?_, ?_, ?_⟩
  · rw [h.sends_start_iff]
    simp only [readDelivery_eq_ok_iff]
    refine and_congr_right fun _ => and_congr_right fun _ => ⟨?_, ?_⟩
    · rintro ⟨item, ⟨response, reply, success, body⟩, ready⟩
      exact ⟨response, item, reply, success, body, ready⟩
    · rintro ⟨response, item, reply, success, body, ready⟩
      exact ⟨item, ⟨response, reply, success, body⟩, ready⟩
  · intro unready sends
    obtain ⟨-, -, item, described, ready⟩ := h.sends_start_iff.1 sends
    exact unready.status_ne described ready
  · rw [h.exists_startRequested_iff]
    simp only [readDelivery_eq_ok_iff]
    rw [exists_comm]
  · exact fun app e about unmade => h.of_unmade about unmade
  · exact fun app e about asked failed => h.of_describe_failed about asked failed
  · exact fun app e about asked failed => h.of_start_failed about asked failed

/-- Settings with a region of their own. -/
def elsewhere : SharedConfig := { region := some "eu-west-1" }

/-- An update of an application in a region. -/
def updateIn (region : String) : Json.Value := Sample.payload "UpdateApplication" region "orders"

/-- A response that calls an application ready. -/
def readyResponse : Response :=
  ⟨200, [], "\x7b\"ApplicationDetail\":\x7b\"ApplicationStatus\":\"READY\"\x7d\x7d"⟩

theorem handleValue_requests_of_failures :
    ¬ Sends .start (elsewhere.plane.handleValue (updateIn "us-east-1") ⟨[.late], []⟩).2.state.sent ∧
    (elsewhere.plane.handleValue (updateIn "us-east-1") ⟨[.late], []⟩).1 =
      .failed (Failure.timedOut.classify .describe ⟨"us-east-1", "orders"⟩).message ∧
    Sends .start (elsewhere.plane.handleValue (updateIn "us-east-1")
      ⟨[.answered readyResponse, .broken], []⟩).2.state.sent ∧
    (elsewhere.plane.handleValue (updateIn "us-east-1")
      ⟨[.answered readyResponse, .broken], []⟩).1 =
      .failed (Failure.notDelivered.classify .start ⟨"us-east-1", "orders"⟩).message ∧
    (elsewhere.plane.handleValue (updateIn "us east")
      ⟨[.answered readyResponse], []⟩).2.state.sent = [] := by
  have about : IsFor (updateIn "us-east-1") ⟨"us-east-1", "orders"⟩ :=
    ⟨_, rfl, ⟨_, rfl, rfl⟩, rfl⟩
  have about' : IsFor (updateIn "us east") ⟨"us east", "orders"⟩ := ⟨_, rfl, ⟨_, rfl, rfl⟩, rfl⟩
  have unmade : request? elsewhere .describe ⟨"us east", "orders"⟩ = .error .notBuilt := by
    rw [request?, if_neg]
    decide +kernel
  have described : Sends .describe
      (elsewhere.plane.handleValue (updateIn "us-east-1") ⟨[.late], []⟩).2.state.sent := by
    decide +kernel
  have started : Sends .start (elsewhere.plane.handleValue (updateIn "us-east-1")
      ⟨[.answered readyResponse, .broken], []⟩).2.state.sent := by
    decide +kernel
  have late := handleValue_requests elsewhere (updateIn "us-east-1") [.late]
  have cut :=
    handleValue_requests elsewhere (updateIn "us-east-1") [.answered readyResponse, .broken]
  have unsent := handleValue_requests elsewhere (updateIn "us east") [.answered readyResponse]
  have failed := (late.2.2.2.2.2.1 _ .timedOut about described rfl).1
  have failed' := cut.2.2.2.2.2.2 _ .notDelivered about started rfl
  have nothing := (unsent.2.2.2.2.1 _ _ about' unmade).2
  exact ⟨late.2.2.1 .late, failed, started, failed', nothing⟩

end StartOnReady.Service
