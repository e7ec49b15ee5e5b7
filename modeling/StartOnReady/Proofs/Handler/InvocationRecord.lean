import StartOnReady.Event.Sample
import StartOnReady.Proofs.Handler.CallTrace
import StartOnReady.Proofs.Handler.Muted
import StartOnReady.Scripted.Plane
import StartOnReady.Service.Client

/-!
# What the records of an invocation tell

`Faithful` lists what can be read off the records of one invocation: its outcome, its failure, the
calls that were answered and the decision that was taken.  `muted_records` gives the handler's own
records in one formula, and `invoke_faithful` says that they are faithful on every plane, and that
the records of a plane spoil nothing if they can be told from those of the handler; so it is with
the scripted plane and with the service.
-/

namespace StartOnReady

open Json (Value)
open Log (Field Level Record)

/-! ### The handler's own records -/

/-- The name of the event of a payload. -/
def eventName? (payload : Value) : Option String :=
  match ChangeEvent.ofValue payload with
  | .ok event => event.detail.map EventDetail.name
  | .error _ => none

/-- The records with which the handling of a named event begins. -/
def openingRecords (name : Option String) : List Record :=
  match name with
  | some name => Records.opening (.parse name)
  | none => []

/-- The record of a describe call that was answered. -/
def Call.record? : Call → Option Record
  | describe app (.ok snapshot) => some (Records.described app snapshot)
  | _ => none

/-- The record of the decision that led to an outcome. -/
def decisionRecord (planeName : String) (payload : Value) : Outcome → Record
  | .ignoredUnrecognizedShape => Records.unrecognizedShape (.notAnObject payload.kind)
  | .ignoredMissingDetail => Records.missingDetail
  | .ignoredEventName name => Records.nameNotHandled (.parse name)
  | .statusFiltered app status => Records.statusFiltered app status
  | .startRequested app => Records.started app planeName
  | .failed message =>
    ⟨.error, "Failed to handle event", [.plain "error" message,
      .plain "event_name" ((eventName? payload).getD unknownEventName)], none⟩

/-- All records of a handling, in their order. -/
def ownRecords (planeName : String) (payload : Value) (calls : List Call) (outcome : Outcome) :
    List Record :=
  openingRecords (eventName? payload) ++ calls.filterMap Call.record? ++
    [decisionRecord planeName payload outcome]

theorem eventName?_of_present {payload : Value} {event : ChangeEvent} {detail : EventDetail}
    (read : ChangeEvent.ofValue payload = .ok event) (present : event.detail = some detail) :
    eventName? payload = some detail.name := by
  simp only [eventName?, read, present, Option.map_some]

theorem decisionRecord_failed (planeName : String) {payload : Value} {name : String}
    (named : eventName? payload = some name) (e : HandlerError) :
    decisionRecord planeName payload (.failed e.message) = Records.failed e (.parse name) := by
  simp only [decisionRecord, named, Option.getD_some, Records.failed, EventKind.text_parse]

namespace ControlPlane

variable {σ : Type} {plane : ControlPlane σ} {event : ChangeEvent} {state : σ} {outcome : Outcome}
  {journal : Journal σ} {payload : Value}

theorem records_describe_muted {app : ApplicationRef} {after : σ} {records : List Record}
    {result : Except ControlPlaneError ApplicationSnapshot}
    (described : plane.muted.describe app state = ⟨result, after, records⟩) : records = [] :=
  (congrArg Reply.records described).symm

theorem records_start_muted {app : ApplicationRef} {after : σ} {records : List Record}
    {result : Except ControlPlaneError Unit}
    (started : plane.muted.start app state = ⟨result, after, records⟩) : records = [] :=
  (congrArg Reply.records started).symm

theorem Handling.records_eq (h : Handling plane.muted event state outcome journal)
    (read : ChangeEvent.ofValue payload = .ok event) :
    journal.records = ownRecords plane.name payload journal.calls outcome := by
  unfold ownRecords
  cases h with
  | missingDetail absent =>
    have unnamed : eventName? payload = none := by
      simp only [eventName?, read, absent, Option.map_none]
    rw [unnamed]
    rfl
  | nameNotHandled present =>
    rw [eventName?_of_present read present]
    simp only [decisionRecord, EventDetail.kind, EventKind.text_parse]
    rfl
  | @notExtracted _ e present =>
    have named := eventName?_of_present read present
    have failed := decisionRecord_failed plane.name named (.event e)
    rw [named]
    exact congrArg (_ ++ [·]) failed.symm
  | @describeFailed _ _ e _ _ present _ _ described =>
    obtain rfl := records_describe_muted described
    have named := eventName?_of_present read present
    have failed := decisionRecord_failed plane.name named (.controlPlane e)
    rw [named]
    exact congrArg (_ ++ [·]) failed.symm
  | filtered present _ _ described =>
    obtain rfl := records_describe_muted described
    rw [eventName?_of_present read present]
    rfl
  | @startFailed _ _ _ e _ _ _ _ present _ _ described _ started =>
    obtain rfl := records_describe_muted described
    obtain rfl := records_start_muted started
    have named := eventName?_of_present read present
    have failed := decisionRecord_failed plane.name named (.controlPlane e)
    rw [named]
    exact congrArg (_ ++ [·]) failed.symm
  | started present _ _ described _ started =>
    obtain rfl := records_describe_muted described
    obtain rfl := records_start_muted started
    rw [eventName?_of_present read present]
    rfl

/-- On a muted plane a handling leaves the handler's own records. -/
theorem muted_records (plane : ControlPlane σ) (payload : Value) (state : σ) :
    (plane.muted.handleValue payload state).2.records =
      ownRecords plane.name payload (plane.muted.handleValue payload state).2.calls
        (plane.muted.handleValue payload state).1 := by
  cases payload with
  | object members =>
    rw [handleValue_of_ok plane.muted rfl]
    exact (handling plane.muted _ state).records_eq rfl
  | null | boolean _ | number _ | string _ | array _ =>
    rw [handleValue_of_error plane.muted rfl]
    rfl

end ControlPlane

/-! ### What can be read off -/

/-- The message of the decision that leads to an outcome. -/
def decisionMessage : Outcome → String
  | .ignoredUnrecognizedShape => "Ignoring - unrecognized event shape"
  | .ignoredMissingDetail => "Ignoring - missing .detail"
  | .ignoredEventName _ => "Ignoring - event name not handled"
  | .statusFiltered _ _ => "No-op - application status is filtered"
  | .startRequested _ => "Started application"
  | .failed _ => "Failed to handle event"

/-- The messages of the six decisions. -/
def decisionMessages : List String :=
  ["Ignoring - unrecognized event shape", "Ignoring - missing .detail",
    "Ignoring - event name not handled", "No-op - application status is filtered",
    "Started application", "Failed to handle event"]

/-- The messages of all that is logged beside the plane. -/
def ownMessages : List String :=
  decisionMessages ++ ["Incoming event", "Incoming event payload", "Described application",
    "Invocation complete"]

/-- The records that are errors. -/
def errorsOf (lines : List Record) : List Record := lines.filter (·.level == .error)

/-- The records with one of these messages. -/
def withMessage (messages : List String) (lines : List Record) : List Record :=
  lines.filter fun line => messages.contains line.message

/-- The words that show the statuses with a word of their own. -/
def statusWords : List (ApplicationStatus × String) := [
  (.deleting, "DELETING"), (.starting, "STARTING"), (.stopping, "STOPPING"), (.ready, "READY"),
  (.running, "RUNNING"), (.updating, "UPDATING"), (.autoscaling, "AUTOSCALING"),
  (.forceStopping, "FORCE_STOPPING"), (.rollingBack, "ROLLING_BACK"),
  (.maintenance, "MAINTENANCE"), (.rolledBack, "ROLLED_BACK")]

/-- Whether a word shows a status: by its own word, or by the one that was reported. -/
inductive ShowsStatus : ApplicationStatus → String → Prop
  | known {status : ApplicationStatus} {word : String} (listed : (status, word) ∈ statusWords) :
      ShowsStatus status word
  | reported (word : String) : ShowsStatus (.unknown word) word

theorem showsStatus_text (status : ApplicationStatus) : ShowsStatus status status.text := by
  cases status with
  | unknown word => exact .reported word
  | _ => exact .known (by decide)

variable {σ : Type}

/-- Whether the records of an invocation tell what it came to. -/
structure Faithful (planeName requestId : String) (payload : Value) (inv : Invocation σ) :
    Prop where
  complete : withMessage ["Invocation complete"] inv.journal.records =
    [⟨.info, "Invocation complete", [.quoted "outcome" inv.outcome.label],
      some ⟨"invocation", [.plain "request_id" requestId]⟩⟩]
  failed (message : String) (h : inv.outcome = .failed message) :
    ∃ name, eventName? payload = some name ∧ errorsOf inv.journal.records =
      [⟨.error, "Failed to handle event", [.plain "error" message, .plain "event_name" name],
        some ⟨"invocation", [.plain "request_id" requestId]⟩⟩]
  notFailed (h : ∀ message, inv.outcome ≠ .failed message) : errorsOf inv.journal.records = []
  started (app : ApplicationRef) (h : .start app (.ok ()) ∈ inv.journal.calls) :
    withMessage ["Started application"] inv.journal.records =
      [⟨.info, "Started application",
        [.plain "application" (app.name ++ " (" ++ app.region ++ ")"),
          .quoted "control_plane" planeName],
        some ⟨"invocation", [.plain "request_id" requestId]⟩⟩]
  notStarted (h : ∀ app, .start app (.ok ()) ∉ inv.journal.calls) :
    withMessage ["Started application"] inv.journal.records = []
  described :
    (∃ line ∈ withMessage ["Described application"] inv.journal.records, line.level = .debug) ↔
      ∃ app snapshot, .describe app (.ok snapshot) ∈ inv.journal.calls
  filtered (app : ApplicationRef) (status : ApplicationStatus)
    (h : inv.outcome = .statusFiltered app status) :
    ∃ word, ShowsStatus status word ∧
      withMessage ["No-op - application status is filtered"] inv.journal.records =
        [⟨.info, "No-op - application status is filtered",
          [.plain "application" (app.name ++ " (" ++ app.region ++ ")"), .plain "status" word],
          some ⟨"invocation", [.plain "request_id" requestId]⟩⟩]
  notFiltered (h : ∀ app status, inv.outcome ≠ .statusFiltered app status) :
    withMessage ["No-op - application status is filtered"] inv.journal.records = []
  decision : ∃ line, withMessage decisionMessages inv.journal.records = [line] ∧
    line.message = decisionMessage inv.outcome

/-- Whether a record can be told from all that is logged beside the plane. -/
def IsForeign (record : Record) : Prop :=
  record.level ≠ .error ∧ record.message ∉ ownMessages

theorem IsForeign.withMessage_eq {own all : List Record} (h : Woven IsForeign own all)
    {messages : List String} (known : messages ⊆ ownMessages) :
    withMessage messages all = withMessage messages own := by
  refine h.filter_eq fun record foreign => ?_
  rw [List.contains_eq_mem, decide_eq_false_iff_not]
  exact fun here => foreign.2 (known here)

theorem IsForeign.errorsOf_eq {own all : List Record} (h : Woven IsForeign own all) :
    errorsOf all = errorsOf own := by
  refine h.filter_eq fun record foreign => ?_
  rw [beq_eq_false_iff_ne]
  exact foreign.1

/-- Records that can be told from the others do no harm. -/
theorem Faithful.of_woven {planeName requestId : String} {payload : Value} {own inv : Invocation σ}
    (h : Faithful planeName requestId payload own) (outcome : own.outcome = inv.outcome)
    (calls : own.journal.calls = inv.journal.calls)
    (woven : Woven IsForeign own.journal.records inv.journal.records) :
    Faithful planeName requestId payload inv := by
  have told {messages : List String} (known : messages ⊆ ownMessages) :=
    IsForeign.withMessage_eq woven known
  have errors := IsForeign.errorsOf_eq woven
  obtain ⟨complete, failed, notFailed, started, notStarted, described, filtered, notFiltered,
    decision⟩ := h
  rw [outcome] at complete failed notFailed filtered notFiltered decision
  rw [calls] at started notStarted described
  constructor
  · rwa [told (by decide)]
  · rwa [errors]
  · rwa [errors]
  · rwa [told (by decide)]
  · rwa [told (by decide)]
  · rwa [told (by decide)]
  · rwa [told (by decide)]
  · rwa [told (by decide)]
  · rwa [told (by decide)]

/-! ### The handler's own records are faithful -/

section Own

variable {planeName : String} {payload : Value} {calls : List Call} {outcome : Outcome}
  {messages : List String}

theorem withMessage_append (lines lines' : List Record) :
    withMessage messages (lines ++ lines') =
      withMessage messages lines ++ withMessage messages lines' := List.filter_append ..

theorem errorsOf_append (lines lines' : List Record) :
    errorsOf (lines ++ lines') = errorsOf lines ++ errorsOf lines' := List.filter_append ..

theorem withMessage_map_within (span : Log.Span) (lines : List Record) :
    withMessage messages (lines.map (·.within span)) =
      (withMessage messages lines).map (·.within span) := List.filter_map ..

theorem errorsOf_map_within (span : Log.Span) (lines : List Record) :
    errorsOf (lines.map (·.within span)) = (errorsOf lines).map (·.within span) :=
  List.filter_map ..

theorem withMessage_singleton (record : Record) :
    withMessage messages [record] = if record.message ∈ messages then [record] else [] := by
  by_cases here : record.message ∈ messages
  · simp [withMessage, here]
  · simp [withMessage, here]

theorem withMessage_openingRecords (incoming : "Incoming event" ∉ messages)
    (whole : "Incoming event payload" ∉ messages) (name : Option String) :
    withMessage messages (openingRecords name) = [] := by
  cases name with
  | none => rfl
  | some name =>
    simp [withMessage, openingRecords, Records.opening, Records.incoming, Records.payload, incoming,
      whole]

theorem errorsOf_openingRecords (name : Option String) : errorsOf (openingRecords name) = [] := by
  cases name <;> rfl

theorem mem_answered_iff (record : Record) :
    record ∈ calls.filterMap Call.record? ↔
      ∃ app snapshot, .describe app (.ok snapshot) ∈ calls ∧
        record = Records.described app snapshot := by
  rw [List.mem_filterMap]
  constructor
  · rintro ⟨⟨app, e | snapshot⟩ | ⟨app, result⟩, member, told⟩
    · cases told
    · exact ⟨app, snapshot, member, (Option.some.inj told).symm⟩
    · cases told
  · rintro ⟨app, snapshot, member, rfl⟩
    exact ⟨_, member, rfl⟩

theorem withMessage_answered (answered : "Described application" ∉ messages) :
    withMessage messages (calls.filterMap Call.record?) = [] := by
  refine List.filter_eq_nil_iff.2 fun record member => ?_
  obtain ⟨app, snapshot, -, rfl⟩ := (mem_answered_iff record).1 member
  rw [List.contains_eq_mem, decide_eq_true_eq]
  exact answered

theorem errorsOf_answered : errorsOf (calls.filterMap Call.record?) = [] := by
  refine List.filter_eq_nil_iff.2 fun record member => ?_
  obtain ⟨app, snapshot, -, rfl⟩ := (mem_answered_iff record).1 member
  exact Bool.false_ne_true

theorem message_decisionRecord (planeName : String) (payload : Value) (outcome : Outcome) :
    (decisionRecord planeName payload outcome).message = decisionMessage outcome := by
  cases outcome <;> rfl

theorem decisionMessage_mem (outcome : Outcome) : decisionMessage outcome ∈ decisionMessages := by
  cases outcome <;> simp [decisionMessage, decisionMessages]

theorem decisionMessage_not_mem_singleton {message : String} (h : message ∉ decisionMessages)
    (outcome : Outcome) : decisionMessage outcome ∉ [message] := by
  intro here
  rw [← List.mem_singleton.1 here] at h
  exact h (decisionMessage_mem outcome)

theorem decisionMessage_mem_started_iff (outcome : Outcome) :
    decisionMessage outcome ∈ ["Started application"] ↔ ∃ app, outcome = .startRequested app := by
  cases outcome <;> simp [decisionMessage]

theorem decisionMessage_mem_filtered_iff (outcome : Outcome) :
    decisionMessage outcome ∈ ["No-op - application status is filtered"] ↔
      ∃ app status, outcome = .statusFiltered app status := by
  cases outcome <;> simp [decisionMessage]

/-- The records of one invocation on a muted plane. -/
def ownLines (planeName requestId : String) (payload : Value) (calls : List Call)
    (outcome : Outcome) : List Record :=
  (ownRecords planeName payload calls outcome ++ [Records.complete outcome]).map
    (·.within (ControlPlane.invocationSpan requestId))

/-- Of the messages of decisions an invocation has the one of its outcome. -/
theorem withMessage_ownLines (requestId : String) (known : messages ⊆ decisionMessages) :
    withMessage messages (ownLines planeName requestId payload calls outcome) =
      if decisionMessage outcome ∈ messages then
        [(decisionRecord planeName payload outcome).within
          (ControlPlane.invocationSpan requestId)]
      else [] := by
  have other (message : String) (h : message ∉ decisionMessages) : message ∉ messages :=
    fun here => h (known here)
  rw [ownLines, ownRecords, withMessage_map_within, withMessage_append, withMessage_append,
    withMessage_append, withMessage_openingRecords (other _ (by decide)) (other _ (by decide)),
    withMessage_answered (other _ (by decide)), withMessage_singleton, withMessage_singleton,
    message_decisionRecord]
  have last : (Records.complete outcome).message ∉ messages :=
    other "Invocation complete" (by decide)
  rw [if_neg last, List.append_nil]
  split <;> rfl

theorem errorsOf_ownLines (requestId : String) :
    errorsOf (ownLines planeName requestId payload calls outcome) =
      (errorsOf [decisionRecord planeName payload outcome]).map
        (·.within (ControlPlane.invocationSpan requestId)) := by
  have last : errorsOf [Records.complete outcome] = [] := rfl
  rw [ownLines, ownRecords, errorsOf_map_within, errorsOf_append, errorsOf_append,
    errorsOf_append, errorsOf_openingRecords, errorsOf_answered, last, List.append_nil]
  rfl

theorem withMessage_complete_ownLines (requestId : String) :
    withMessage ["Invocation complete"] (ownLines planeName requestId payload calls outcome) =
      [(Records.complete outcome).within (ControlPlane.invocationSpan requestId)] := by
  have decided := decisionMessage_not_mem_singleton
    (show "Invocation complete" ∉ decisionMessages by decide) outcome
  have last : (Records.complete outcome).message ∈ ["Invocation complete"] := List.mem_cons_self
  rw [ownLines, ownRecords, withMessage_map_within, withMessage_append, withMessage_append,
    withMessage_append, withMessage_openingRecords (by decide) (by decide),
    withMessage_answered (by decide), withMessage_singleton, withMessage_singleton,
    message_decisionRecord, if_neg decided, if_pos last]
  rfl

theorem withMessage_described_ownLines (requestId : String) :
    withMessage ["Described application"] (ownLines planeName requestId payload calls outcome) =
      (calls.filterMap Call.record?).map (·.within (ControlPlane.invocationSpan requestId)) := by
  have decided := decisionMessage_not_mem_singleton
    (show "Described application" ∉ decisionMessages by decide) outcome
  have last : (Records.complete outcome).message ∉ ["Described application"] :=
    show "Invocation complete" ∉ ["Described application"] by decide
  have answered : withMessage ["Described application"] (calls.filterMap Call.record?) =
      calls.filterMap Call.record? := by
    refine List.filter_eq_self.2 fun record member => ?_
    obtain ⟨app, snapshot, -, rfl⟩ := (mem_answered_iff record).1 member
    rfl
  rw [ownLines, ownRecords, withMessage_map_within, withMessage_append, withMessage_append,
    withMessage_append, withMessage_openingRecords (by decide) (by decide), answered,
    withMessage_singleton, withMessage_singleton, message_decisionRecord, if_neg decided,
    if_neg last, List.append_nil, List.append_nil]
  rfl

end Own

namespace ControlPlane

variable {plane : ControlPlane σ}

/-- A start is requested exactly by a start call that was accepted. -/
theorem handleValue_eq_startRequested_iff (plane : ControlPlane σ) (payload : Value) (state : σ)
    (app : ApplicationRef) :
    (plane.handleValue payload state).1 = .startRequested app ↔
      .start app (.ok ()) ∈ (plane.handleValue payload state).2.calls := by
  cases read : ChangeEvent.ofValue payload with
  | error e => simp [handleValue_of_error plane read]
  | ok event =>
    rw [handleValue_of_ok plane read]
    exact (handling plane event state).eq_startRequested_iff app

/-- Only the handling of a named event fails. -/
theorem exists_eventName_of_failed (plane : ControlPlane σ) {payload : Value} {state : σ}
    {message : String}
    (failed : (plane.handleValue payload state).1 = .failed message) :
    ∃ name, eventName? payload = some name := by
  cases read : ChangeEvent.ofValue payload with
  | error e =>
    rw [handleValue_of_error plane read] at failed
    cases failed
  | ok event =>
    rw [handleValue_of_ok plane read, (handling plane event state).eq_failed_iff] at failed
    obtain ⟨⟨detail, present, -⟩, -⟩ := failed
    exact ⟨detail.name, eventName?_of_present read present⟩

theorem records_invoke (plane : ControlPlane σ) (requestId : String) (payload : Value)
    (state : σ) :
    (plane.invoke requestId payload state).journal.records =
      ((plane.handleValue payload state).2.records ++
        [Records.complete (plane.handleValue payload state).1]).map
          (·.within (invocationSpan requestId)) := rfl

theorem records_invoke_muted (plane : ControlPlane σ) (requestId : String) (payload : Value)
    (state : σ) :
    (plane.muted.invoke requestId payload state).journal.records =
      ownLines plane.name requestId payload
        (plane.muted.invoke requestId payload state).journal.calls
        (plane.muted.invoke requestId payload state).outcome := by
  rw [records_invoke, muted_records]
  rfl

theorem faithful_muted (plane : ControlPlane σ) (requestId : String) (payload : Value)
    (state : σ) :
    Faithful plane.name requestId payload (plane.muted.invoke requestId payload state) := by
  have lines := records_invoke_muted plane requestId payload state
  have requested (app : ApplicationRef) :
      (plane.muted.invoke requestId payload state).outcome = .startRequested app ↔
        .start app (.ok ()) ∈ (plane.muted.invoke requestId payload state).journal.calls :=
    handleValue_eq_startRequested_iff plane.muted payload state app
  have named {message : String}
      (failed : (plane.muted.invoke requestId payload state).outcome = .failed message) :
      ∃ name, eventName? payload = some name :=
    exists_eventName_of_failed plane.muted failed
  generalize plane.muted.invoke requestId payload state = inv at *
  constructor
  · rw [lines, withMessage_complete_ownLines]
    rfl
  · intro message failed
    obtain ⟨name, named⟩ := named failed
    refine ⟨name, named, ?_⟩
    rw [lines, errorsOf_ownLines, failed, decisionRecord, named]
    rfl
  · intro passed
    rw [lines, errorsOf_ownLines]
    cases outcome : inv.outcome with
    | failed message => exact absurd outcome (passed message)
    | _ => rfl
  · intro app accepted
    rw [lines, withMessage_ownLines requestId (by decide), (requested app).2 accepted]
    rfl
  · intro unaccepted
    rw [lines, withMessage_ownLines requestId (by decide), if_neg]
    rw [decisionMessage_mem_started_iff]
    rintro ⟨app, outcome⟩
    exact unaccepted app ((requested app).1 outcome)
  · rw [lines, withMessage_described_ownLines]
    constructor
    · rintro ⟨line, member, -⟩
      obtain ⟨record, told, rfl⟩ := List.mem_map.1 member
      obtain ⟨app, snapshot, answered, -⟩ := (mem_answered_iff record).1 told
      exact ⟨app, snapshot, answered⟩
    · rintro ⟨app, snapshot, answered⟩
      have told := (mem_answered_iff _).2 ⟨app, snapshot, answered, rfl⟩
      exact ⟨_, List.mem_map.2 ⟨_, told, rfl⟩, rfl⟩
  · intro app status filtered
    refine ⟨status.text, showsStatus_text status, ?_⟩
    rw [lines, withMessage_ownLines requestId (by decide), filtered]
    rfl
  · intro unfiltered
    rw [lines, withMessage_ownLines requestId (by decide), if_neg]
    rw [decisionMessage_mem_filtered_iff]
    rintro ⟨app, status, outcome⟩
    exact unfiltered app status outcome
  · rw [lines, withMessage_ownLines requestId (List.Subset.refl _),
      if_pos (decisionMessage_mem inv.outcome)]
    exact ⟨_, rfl, message_decisionRecord _ _ _⟩

/-! ### Every plane -/

theorem invoke_woven {foreign : Record → Prop} (logs : plane.LogsOnly foreign)
    (keeps : ∀ span record, foreign record → foreign (record.within span)) (requestId : String)
    (payload : Value) (state : σ) :
    let own := plane.muted.invoke requestId payload state
    let inv := plane.invoke requestId payload state
    own.outcome = inv.outcome ∧ own.journal.state = inv.journal.state ∧
      own.journal.calls = inv.journal.calls ∧
      Woven foreign own.journal.records inv.journal.records := by
  have start : WovenJournals foreign (⟨state, [], []⟩ : Journal σ) ⟨state, [], []⟩ :=
    ⟨rfl, rfl, .nil⟩
  obtain ⟨outcome, state', calls, woven⟩ :=
    run_woven logs (StartOnReady.handleValue plane.name payload) start
  refine ⟨outcome, state', calls, ?_⟩
  rw [records_invoke, records_invoke]
  have same : (plane.muted.handleValue payload state).1 = (plane.handleValue payload state).1 :=
    outcome
  rw [same]
  exact (woven.append (.refl [_])).map (keeps _)

theorem getLast?_records_invoke (plane : ControlPlane σ) (requestId : String) (payload : Value)
    (state : σ) :
    let inv := plane.invoke requestId payload state
    inv.journal.records.getLast? =
      some ((Records.complete inv.outcome).within (invocationSpan requestId)) := by
  intro inv
  rw [records_invoke, List.map_append]
  exact List.getLast?_concat ..

end ControlPlane

theorem Outcome.tag_eq_label (outcome : Outcome) : outcome.tag = outcome.label := by
  cases outcome <;> rfl

/-- The scripted plane logs nothing. -/
theorem Scripted.plane_logsOnly (foreign : Record → Prop) : Scripted.plane.LogsOnly foreign :=
  ⟨fun _ _ _ member => absurd member List.not_mem_nil,
    fun _ _ _ member => absurd member List.not_mem_nil⟩

/-- The service logs nothing but what it was answered. -/
theorem Service.plane_logsOnly (shared : SharedConfig) : shared.plane.LogsOnly IsForeign := by
  constructor
  · intro app network record member
    rcases called : shared.call .describe app network with ⟨e | item, after⟩
    · simp only [SharedConfig.plane, SharedConfig.describe, called] at member
      exact absurd member List.not_mem_nil
    · simp only [SharedConfig.plane, SharedConfig.describe, called] at member
      rw [List.mem_singleton.1 member]
      exact ⟨nofun, show "describe_application response" ∉ ownMessages by decide⟩
  · intro app network record member
    rcases called : shared.call .start app network with ⟨e | item, after⟩
    · simp only [SharedConfig.plane, SharedConfig.start, called] at member
      exact absurd member List.not_mem_nil
    · simp only [SharedConfig.plane, SharedConfig.start, called] at member
      exact absurd member List.not_mem_nil

namespace ControlPlane

/-- Every invocation succeeds for its caller, whatever the plane, and all its records belong to its
span.  The last one tells the outcome, by the same word as the value of the outcome.  The records
that are left if those of the plane are taken out are faithful, and so are all of them if the plane
logs no errors and no message of the handler, as is the case for both planes of this library. -/
theorem invoke_faithful (plane : ControlPlane σ) (requestId : String) (payload : Value)
    (state : σ) :
    let inv := plane.invoke requestId payload state
    let own := plane.muted.invoke requestId payload state
    inv.reply = .ok () ∧
    (∀ line ∈ inv.journal.records,
      line.span = some ⟨"invocation", [.plain "request_id" requestId]⟩) ∧
    inv.journal.records.getLast? =
      some ⟨.info, "Invocation complete", [.quoted "outcome" inv.outcome.label],
        some ⟨"invocation", [.plain "request_id" requestId]⟩⟩ ∧
    inv.outcome.toJson.member? "outcome" = some (.string inv.outcome.label) ∧
    (own.outcome = inv.outcome ∧ own.journal.state = inv.journal.state ∧
      own.journal.calls = inv.journal.calls ∧
      own.journal.records.Sublist inv.journal.records) ∧
    Faithful plane.name requestId payload own ∧
    (plane.LogsOnly IsForeign → Faithful plane.name requestId payload inv) ∧
    Scripted.plane.LogsOnly IsForeign ∧
    ∀ shared : Service.SharedConfig, shared.plane.LogsOnly IsForeign := by
  intro inv own
  have faithful : Faithful plane.name requestId payload own :=
    faithful_muted plane requestId payload state
  refine ⟨rfl, ?_, getLast?_records_invoke plane requestId payload state, ?_, ?_, faithful, ?_,
    Scripted.plane_logsOnly IsForeign, Service.plane_logsOnly⟩
  · intro line member
    obtain ⟨record, -, rfl⟩ := List.mem_map.1 member
    rfl
  · exact congrArg (fun tag => some (Value.string tag)) (Outcome.tag_eq_label inv.outcome)
  · obtain ⟨outcome, state', calls, woven⟩ :=
      invoke_woven plane.logsOnly_true (fun _ _ h => h) requestId payload state
    exact ⟨outcome, state', calls, woven.sublist⟩
  · intro logs
    obtain ⟨outcome, -, calls, woven⟩ :=
      invoke_woven logs (fun _ _ h => h) requestId payload state
    exact faithful.of_woven outcome calls woven

/-- A request that times out on the service, an application that is started and one that is
filtered: the records name the failure, the application and its status. -/
theorem invoke_faithful_of_update :
    let update := Sample.payload "UpdateApplication" "us-east-1" "orders"
    let late := (Service.SharedConfig.plane {}).invoke "8f5e" update ⟨[.late], []⟩
    let started := Scripted.plane.invoke "8f5e" update { statuses := [("orders", .ready)] }
    let filtered := Scripted.plane.invoke "8f5e" update { statuses := [("orders", .rollingBack)] }
    let span : Option Log.Span := some ⟨"invocation", [.plain "request_id" "8f5e"]⟩
    (Service.SharedConfig.plane {}).LogsOnly IsForeign ∧
    errorsOf late.journal.records =
      [⟨.error, "Failed to handle event",
        [.plain "error" "Transport error: request has timed out",
          .plain "event_name" "UpdateApplication"], span⟩] ∧
    withMessage ["Started application"] started.journal.records =
      [⟨.info, "Started application",
        [.plain "application" "orders (us-east-1)", .quoted "control_plane" "mock"], span⟩] ∧
    withMessage ["No-op - application status is filtered"] filtered.journal.records =
      [⟨.info, "No-op - application status is filtered",
        [.plain "application" "orders (us-east-1)", .plain "status" "ROLLING_BACK"], span⟩] := by
  intro update late started filtered span
  have logs := Service.plane_logsOnly {}
  have scripted := Scripted.plane_logsOnly IsForeign
  refine ⟨logs, ?_, ?_, ?_⟩
  · obtain ⟨-, -, -, -, -, -, faithful, -⟩ :=
      invoke_faithful (Service.SharedConfig.plane {}) "8f5e" update ⟨[.late], []⟩
    obtain ⟨name, named, errors⟩ := (faithful logs).failed
      "Transport error: request has timed out" (by decide +kernel)
    refine errors.trans ?_
    cases named
    rfl
  · obtain ⟨-, -, -, -, -, -, faithful, -⟩ :=
      invoke_faithful Scripted.plane "8f5e" update { statuses := [("orders", .ready)] }
    have accepted := (handleValue_eq_startRequested_iff Scripted.plane update
      { statuses := [("orders", .ready)] } ⟨"us-east-1", "orders"⟩).1 (by decide +kernel)
    exact (faithful scripted).started ⟨"us-east-1", "orders"⟩ accepted
  · obtain ⟨-, -, -, -, -, -, faithful, -⟩ :=
      invoke_faithful Scripted.plane "8f5e" update { statuses := [("orders", .rollingBack)] }
    obtain ⟨word, shows, told⟩ :=
      (faithful scripted).filtered ⟨"us-east-1", "orders"⟩ .rollingBack (by decide +kernel)
    cases shows with
    | known listed =>
      obtain rfl : word = "ROLLING_BACK" := by simpa [statusWords] using listed
      exact told

end ControlPlane

end StartOnReady
