import StartOnReady.Proofs.Scripted.Statuses

/-!
# One name at a time

On the scripted plane the applications of one name do not notice those of another.  `Step.name?` is
the name that a step concerns.  As long as no error is injected, what a step shows depends on the
status of its name alone (`Step.shown_congr`), and the status of a name on what happens to that name
(`State.status_next`).

* `Follows.run`: a session restricted to the steps of one name shows the same in these steps and
  leaves the same status and the same recorded calls of the name.
* `runSteps_by_name`: this for every session and every name, and what it means for sessions that
  differ in the order of their steps alone.
-/

namespace StartOnReady

/-- The application that an event asks to start. -/
def ChangeEvent.target? (event : ChangeEvent) : Option ApplicationRef :=
  match event.detail, event.applicationRef with
  | some detail, .ok app => if detail.kind.isActionable then some app else none
  | _, _ => none

theorem ChangeEvent.target?_eq_some {event : ChangeEvent} {detail : EventDetail}
    {app : ApplicationRef} (present : event.detail = some detail)
    (acted : detail.kind.isActionable = true) (target : event.applicationRef = .ok app) :
    event.target? = some app := by
  simp only [target?, present, target, acted, if_true]

namespace Scripted

open ControlPlane (Handling)

/-! ### Names -/

/-- The name that a happening concerns. -/
def Happening.name? : Happening → Option String
  | statusSet name _ => some name
  | injected _ _ => none
  | called call => some call.recorded.application.name

namespace Step

/-- The name that a step concerns: the one that it names, or that of the application which its event
asks to start. -/
def name? : Step → Option String
  | setStatus name _ | readStatus name => some name
  | describe app | start app => some app.name
  | handle payload | invoke _ payload =>
    (ChangeEvent.ofValue payload).toOption.bind fun event => event.target?.map (·.name)
  | handleEvent event => event.target?.map (·.name)
  | setDescribeError _ | setStartError _ | readCalls => none

/-- Whether a step neither injects an error nor reads the recorded calls. -/
def isPlain : Step → Bool
  | setDescribeError _ | setStartError _ | readCalls => false
  | setStatus _ _ | readStatus _ | describe _ | start _ | handle _ | handleEvent _
  | invoke _ _ => true

end Step

/-! ### Single names -/

/-- The status of a name after a happening, given the one before it. -/
def Happening.move (name : String) (old : Option ApplicationStatus) :
    Happening → Option ApplicationStatus
  | statusSet name' status => if name = name' then some status else old
  | called (.start app _) => if name = app.name ∧ old = some .ready then some .starting else old
  | called (.describe _ _) | injected _ _ => old

theorem Happening.move_of_foreign {h : Happening} {name : String}
    (foreign : h.name? ≠ some name) (old : Option ApplicationStatus) : h.move name old = old := by
  cases h with
  | statusSet name' status =>
    refine if_neg ?_
    rintro rfl
    exact foreign rfl
  | injected kind error => rfl
  | called call =>
    cases call with
    | describe app result => rfl
    | start app result =>
      refine if_neg ?_
      rintro ⟨rfl, -⟩
      exact foreign rfl

namespace State

variable {s t : State} {h : Happening}

/-- Without injected errors the status of a name depends on what happens to that name. -/
theorem status_next (quiet : s.IsQuiet) (h : Happening) (name : String) :
    (s.next h).status name = h.move name (s.status name) := by
  cases h with
  | statusSet name' status => exact Keyed.find?_insert name' name status s.statuses
  | injected kind error => cases kind <;> rfl
  | called call =>
    cases call with
    | describe app result => rw [next, afterCall, plane_describe]; rfl
    | start app result =>
      have answer : startAnswer app s = startResult app (s.status app.name) := by
        rw [startAnswer, quiet.2, injectedOr]
      simp only [next, afterCall, plane_start, answer, succeeded_startResult, Happening.move,
        status]
      by_cases ready : Keyed.find? app.name s.statuses = some .ready
      · by_cases same : name = app.name
        · simp [ready, Keyed.find?_insert, same]
        · simp [ready, Keyed.find?_insert, same]
      · by_cases same : name = app.name
        · simp [ready, same]
        · simp [ready, same]

theorem IsQuiet.next (quiet : s.IsQuiet) (named : h.name? ≠ none) : (s.next h).IsQuiet := by
  cases h with
  | statusSet name status => exact quiet
  | injected kind error => exact absurd rfl named
  | called call =>
    cases call with
    | describe app result =>
      rw [State.next, afterCall, plane_describe]
      exact ⟨rfl, quiet.2⟩
    | start app result =>
      rw [State.next, afterCall, plane_start]
      exact ⟨quiet.1, rfl⟩

end State

/-- Whether two states have no injected errors and the same status for a name. -/
structure AgreeOn (name : String) (s t : State) : Prop where
  quiet : s.IsQuiet
  quiet' : t.IsQuiet
  status : s.status name = t.status name

namespace AgreeOn

variable {name : String} {app : ApplicationRef} {s t after : State} {history : List Happening}
  {records : List Log.Record}

theorem next (agree : AgreeOn name s t) {h : Happening} (named : h.name? ≠ none) :
    AgreeOn name (s.next h) (t.next h) := by
  refine ⟨agree.quiet.next named, agree.quiet'.next named, ?_⟩
  rw [State.status_next agree.quiet, State.status_next agree.quiet', agree.status]

theorem through (agree : AgreeOn name s t) (named : ∀ h ∈ history, h.name? ≠ none) :
    AgreeOn name (s.through history) (t.through history) := by
  induction history generalizing s t with
  | nil => exact agree
  | cons h rest ih =>
    obtain ⟨here, later⟩ := List.forall_mem_cons.1 named
    exact ih (agree.next here) later

/-- What happens to other names makes no difference. -/
theorem through_left (agree : AgreeOn name s t)
    (foreign : ∀ h ∈ history, h.name? ≠ none ∧ h.name? ≠ some name) :
    AgreeOn name (s.through history) t := by
  induction history generalizing s with
  | nil => exact agree
  | cons h rest ih =>
    obtain ⟨⟨named, other⟩, later⟩ := List.forall_mem_cons.1 foreign
    refine ih ⟨agree.quiet.next named, agree.quiet', ?_⟩ later
    rw [State.status_next agree.quiet, Happening.move_of_foreign other, agree.status]

/-! ### Calls -/

theorem describe {result : Except ControlPlaneError ApplicationSnapshot}
    (agree : AgreeOn app.name s t)
    (described : plane.describe app s = ⟨result, after, records⟩) :
    ∃ after', plane.describe app t = ⟨result, after', records⟩ ∧ AgreeOn app.name after after' := by
  have same : describeAnswer app s = describeAnswer app t := by
    rw [describeAnswer, describeAnswer, agree.quiet.1, agree.quiet'.1, agree.status]
  have agree' : AgreeOn app.name (plane.describe app s).state (plane.describe app t).state :=
    agree.next (h := .called (.describe app result)) (by simp [Happening.name?])
  rw [described] at agree'
  rw [plane_describe, Reply.mk.injEq] at described
  obtain ⟨answer, -, rfl⟩ := described
  refine ⟨_, ?_, agree'⟩
  rw [plane_describe, ← same, answer]

theorem start {result : Except ControlPlaneError Unit} (agree : AgreeOn app.name s t)
    (started : plane.start app s = ⟨result, after, records⟩) :
    ∃ after', plane.start app t = ⟨result, after', records⟩ ∧ AgreeOn app.name after after' := by
  have same : startAnswer app s = startAnswer app t := by
    rw [startAnswer, startAnswer, agree.quiet.2, agree.quiet'.2, agree.status]
  have agree' : AgreeOn app.name (plane.start app s).state (plane.start app t).state :=
    agree.next (h := .called (.start app result)) (by simp [Happening.name?])
  rw [started] at agree'
  rw [plane_start, Reply.mk.injEq] at started
  obtain ⟨answer, -, rfl⟩ := started
  refine ⟨_, ?_, agree'⟩
  rw [plane_start, ← same, answer]

end AgreeOn

/-! ### Events -/

section Events

variable {event : ChangeEvent} {s t : State} {outcome : Outcome} {journal : Journal State}

/-- Every call of a handling is for the application that the event asks to start. -/
theorem target?_of_call (h : Handling plane event s outcome journal) {call : Call}
    (made : call ∈ journal.calls) : event.target? = some call.recorded.application := by
  cases h with
  | missingDetail | nameNotHandled | notExtracted => cases made
  | describeFailed present acted target | filtered present acted target =>
    rw [ChangeEvent.target?_eq_some present acted target]
    obtain rfl := List.mem_singleton.1 made
    rfl
  | startFailed present acted target | started present acted target =>
    rw [ChangeEvent.target?_eq_some present acted target]
    rcases List.mem_pair.1 made with rfl | rfl
    · rfl
    · rfl

/-- The handling of an event depends on the status of its own application. -/
theorem handle_congr (agree : ∀ app, event.target? = some app → AgreeOn app.name s t) :
    (plane.handle event s).1 = (plane.handle event t).1 ∧
      (plane.handle event s).2.calls = (plane.handle event t).2.calls ∧
      (plane.handle event s).2.records = (plane.handle event t).2.records := by
  have h := ControlPlane.handling plane event s
  rcases handled : plane.handle event s with ⟨outcome, journal⟩
  rw [handled] at h
  suffices alike : ∃ journal', Handling plane event t outcome journal' ∧
      journal.calls = journal'.calls ∧ journal.records = journal'.records by
    obtain ⟨journal', h', calls, records⟩ := alike
    rw [h'.handle_eq]
    exact ⟨rfl, calls, records⟩
  cases h with
  | missingDetail absent => exact ⟨_, .missingDetail absent, rfl, rfl⟩
  | nameNotHandled present idle => exact ⟨_, .nameNotHandled present idle, rfl, rfl⟩
  | notExtracted present acted target =>
    exact ⟨_, .notExtracted present acted target, rfl, rfl⟩
  | describeFailed present acted target described =>
    obtain ⟨_, described', -⟩ :=
      (agree _ (ChangeEvent.target?_eq_some present acted target)).describe described
    exact ⟨_, .describeFailed present acted target described', rfl, rfl⟩
  | filtered present acted target described unready =>
    obtain ⟨_, described', -⟩ :=
      (agree _ (ChangeEvent.target?_eq_some present acted target)).describe described
    exact ⟨_, .filtered present acted target described' unready, rfl, rfl⟩
  | startFailed present acted target described ready started =>
    obtain ⟨_, described', between⟩ :=
      (agree _ (ChangeEvent.target?_eq_some present acted target)).describe described
    obtain ⟨_, started', -⟩ := between.start started
    exact ⟨_, .startFailed present acted target described' ready started', rfl, rfl⟩
  | started present acted target described ready started =>
    obtain ⟨_, described', between⟩ :=
      (agree _ (ChangeEvent.target?_eq_some present acted target)).describe described
    obtain ⟨_, started', -⟩ := between.start started
    exact ⟨_, .started present acted target described' ready started', rfl, rfl⟩

end Events

/-! ### Steps -/

/-- The result without the state that an invocation leaves. -/
def Step.Result.withoutState : Result → Result
  | invoked i => invoked { i with journal := { i.journal with state := {} } }
  | result => result

/-- What a step shows: its result and its records. -/
abbrev Shown := Step.Result × List Log.Record

/-- What is shown of a step that was taken. -/
def shown (taken : Step.Result × List Log.Record × State) : Shown :=
  (taken.1.withoutState, taken.2.1)

section Steps

variable {name : String} {s t : State} {step : Step}

/-- What a step shows and which calls it makes depends on the status of its name. -/
theorem Step.shown_congr (plain : step.isPlain = true)
    (agree : ∀ name, step.name? = some name → AgreeOn name s t) :
    shown (step.take s) = shown (step.take t) ∧ step.calls s = step.calls t := by
  cases step with
  | setStatus name status => exact ⟨rfl, rfl⟩
  | readStatus name =>
    simp only [shown, take, calls, (agree name rfl).status, and_self]
  | setDescribeError _ | setStartError _ | readCalls => cases plain
  | describe app =>
    obtain ⟨after, described, -⟩ := (agree app.name rfl).describe (plane_describe app s)
    simp only [shown, take, calls, plane_describe app s, described, and_self]
  | start app =>
    obtain ⟨after, started, -⟩ := (agree app.name rfl).start (plane_start app s)
    simp only [shown, take, calls, plane_start app s, started, and_self]
  | handleEvent event =>
    obtain ⟨outcome, calls, records⟩ := handle_congr fun app target =>
      agree app.name (by rw [name?, target]; rfl)
    simp only [shown, take, Step.calls, Result.withoutState, outcome, calls, records, and_self]
  | handle payload | invoke _ payload =>
    simp only [shown, take, calls, ControlPlane.invoke, Result.withoutState]
    cases read : ChangeEvent.ofValue payload with
    | error e =>
      simp only [ControlPlane.handleValue_of_error plane read, and_self]
    | ok event =>
      have agree (app : ApplicationRef) (target : event.target? = some app) :
          AgreeOn app.name s t := agree app.name (by rw [name?, read, Except.toOption,
            Option.bind_some, target, Option.map_some])
      obtain ⟨outcome, calls, records⟩ := handle_congr agree
      simp only [ControlPlane.handleValue_of_ok plane read, outcome, calls, records, and_self]

/-- All that happens in a step happens to its name. -/
theorem Step.name?_of_mem_happenings (plain : step.isPlain = true) {h : Happening}
    (member : h ∈ step.happenings s) : ∃ name, h.name? = some name ∧ step.name? = some name := by
  have ofEvent {event : ChangeEvent} {call : Call}
      (made : call ∈ (plane.handle event s).2.calls) :
      event.target?.map (·.name) = some call.recorded.application.name := by
    rw [target?_of_call (ControlPlane.handling plane event s) made]
    rfl
  cases step with
  | setStatus name status =>
    obtain rfl := List.mem_singleton.1 member
    exact ⟨name, rfl, rfl⟩
  | readStatus name => cases member
  | setDescribeError _ | setStartError _ | readCalls => cases plain
  | describe app | start app =>
    obtain rfl := List.mem_singleton.1 member
    exact ⟨app.name, rfl, rfl⟩
  | handleEvent event =>
    obtain ⟨call, made, rfl⟩ := List.mem_map.1 member
    exact ⟨_, rfl, ofEvent made⟩
  | handle payload | invoke _ payload =>
    obtain ⟨call, made, rfl⟩ := List.mem_map.1 member
    simp only [calls, ControlPlane.invoke] at made
    cases read : ChangeEvent.ofValue payload with
    | error e =>
      rw [ControlPlane.handleValue_of_error plane read] at made
      cases made
    | ok event =>
      rw [ControlPlane.handleValue_of_ok plane read] at made
      refine ⟨_, rfl, ?_⟩
      rw [name?, read, Except.toOption, Option.bind_some, ofEvent made]

end Steps

/-! ### Following one name -/

/-- Whether a recorded call is for a name. -/
def RecordedCall.isFor (name : String) (call : RecordedCall) : Bool := call.application.name = name

/-- Whether one state agrees on a name with another, in which no calls for other names are
recorded. -/
structure Follows (name : String) (s t : State) : Prop extends AgreeOn name s t where
  recorded : ∀ kind, (s.recorded kind).filter (·.isFor name) = t.recorded kind

section Follows

variable {name : String} {s t : State} {step : Step}

/-- The records of a step are for its name. -/
theorem Step.isFor_of_mem_recordsOf (plain : step.isPlain = true) {kind : CallKind}
    {record : RecordedCall} (member : record ∈ recordsOf kind (step.calls s)) :
    record.isFor name = decide (step.name? = some name) := by
  obtain ⟨call, made, rfl⟩ := List.mem_map.1 member
  have made : .called call ∈ step.happenings s :=
    List.mem_append_right _ (List.mem_map_of_mem (List.mem_of_mem_filter made))
  obtain ⟨name', called, concerned⟩ := Step.name?_of_mem_happenings plain made
  rw [concerned, ← called]
  simp only [RecordedCall.isFor, Happening.name?, Option.some.injEq]

/-- A step that concerns the name is taken alike on both sides. -/
theorem Follows.take (follows : Follows name s t) (plain : step.isPlain = true)
    (concerned : step.name? = some name) : Follows name (step.take s).2.2 (step.take t).2.2 := by
  obtain ⟨-, calls⟩ := Step.shown_congr plain fun name' same => by
    obtain rfl := Option.some.inj (concerned.symm.trans same)
    exact follows.toAgreeOn
  have named : ∀ h ∈ step.happenings s, h.name? ≠ none := fun h member => by
    obtain ⟨name', named, -⟩ := Step.name?_of_mem_happenings plain member
    exact named ▸ nofun
  have same : step.happenings s = step.happenings t := by
    rw [Step.happenings, Step.happenings, calls]
  refine ⟨?_, fun kind => ?_⟩
  · rw [← Step.through_happenings, ← Step.through_happenings, ← same]
    exact follows.toAgreeOn.through named
  · rw [Step.recorded, Step.recorded, List.filter_append, follows.recorded, ← calls]
    refine congrArg _ (List.filter_eq_self.2 fun record member => ?_)
    rw [Step.isFor_of_mem_recordsOf plain member, concerned, decide_eq_true rfl]

/-- A step that does not concern the name leaves all of it as it was. -/
theorem Follows.take_left (follows : Follows name s t) (plain : step.isPlain = true)
    (foreign : step.name? ≠ some name) : Follows name (step.take s).2.2 t := by
  refine ⟨?_, fun kind => ?_⟩
  · rw [← Step.through_happenings]
    refine follows.toAgreeOn.through_left fun h member => ?_
    obtain ⟨name', named, concerned⟩ := Step.name?_of_mem_happenings plain member
    exact ⟨named ▸ nofun, named ▸ concerned ▸ foreign⟩
  · rw [Step.recorded, List.filter_append, follows.recorded]
    refine (congrArg _ (List.filter_eq_nil_iff.2 fun record member => ?_)).trans
      (List.append_nil _)
    rw [Step.isFor_of_mem_recordsOf plain member, decide_eq_false foreign]
    exact Bool.false_ne_true

end Follows

/-! ### Sessions -/

section Sessions

variable {ι : Type}

/-- Whether a labelled step concerns a name. -/
def concerns (name : String) (entry : ι × Step) : Bool := entry.2.name? = some name

/-- The state after the steps of a session that starts on a new plane. -/
def lastState (session : List (ι × Step)) : State := State.after {} (session.map Prod.snd)

/-- The labelled steps of a session, each with what it shows. -/
def transcript (session : List (ι × Step)) (s : State) : List ((ι × Step) × Shown) :=
  session.zip ((runSteps (session.map Prod.snd) s).map shown)

theorem transcript_cons (entry : ι × Step) (session : List (ι × Step)) (s : State) :
    transcript (entry :: session) s =
      (entry, shown (entry.2.take s)) :: transcript session (entry.2.take s).2.2 := rfl

variable {name : String} {s t : State} {session session' : List (ι × Step)}

/-- A session restricted to the steps of one name shows the same in these steps. -/
theorem Follows.run (follows : Follows name s t) (plain : ∀ entry ∈ session, entry.2.isPlain) :
    (transcript session s).filter (fun line => concerns name line.1) =
        transcript (session.filter (concerns name)) t ∧
      Follows name (s.after (session.map Prod.snd))
        (t.after ((session.filter (concerns name)).map Prod.snd)) := by
  induction session generalizing s t with
  | nil => exact ⟨rfl, follows⟩
  | cons entry rest ih =>
    obtain ⟨here, later⟩ := List.forall_mem_cons.1 plain
    by_cases concerned : entry.2.name? = some name
    · have on : concerns name entry = true := decide_eq_true concerned
      obtain ⟨lines, last⟩ := ih (follows.take here concerned) later
      have same : shown (entry.2.take s) = shown (entry.2.take t) := by
        refine (Step.shown_congr here fun name' same => ?_).1
        obtain rfl := Option.some.inj (concerned.symm.trans same)
        exact follows.toAgreeOn
      simp only [transcript_cons, List.filter_cons, on, if_true, lines, same]
      exact ⟨trivial, last⟩
    · have off : concerns name entry = false := decide_eq_false concerned
      simp only [transcript_cons, List.filter_cons, off, Bool.false_eq_true, if_false]
      exact ih (follows.take_left here concerned) later

/-- What the steps show that concern no name. -/
theorem filter_unnamed_transcript (plain : ∀ entry ∈ session, entry.2.isPlain) :
    (transcript session s).filter (fun line => line.1.2.name? = none) =
      (session.filter fun entry => entry.2.name? = none).map fun entry =>
        (entry, shown (entry.2.take {})) := by
  induction session generalizing s with
  | nil => rfl
  | cons entry rest ih =>
    obtain ⟨here, later⟩ := List.forall_mem_cons.1 plain
    rw [transcript_cons]
    by_cases unnamed : entry.2.name? = none
    · have same : shown (entry.2.take s) = shown (entry.2.take {}) :=
        (Step.shown_congr here fun name named => nomatch unnamed.symm.trans named).1
      simp only [List.filter_cons, unnamed, decide_true, if_true, List.map_cons, ih later, same]
    · simp only [List.filter_cons, unnamed, decide_false, Bool.false_eq_true, if_false, ih later]

/-- Lists are the same up to order if their parts for each key and without a key are. -/
theorem perm_of_filters {α : Type} (key : α → Option String) {l l' : List α}
    (keyed : ∀ k, l.filter (fun a => key a = some k) = l'.filter (fun a => key a = some k))
    (unkeyed : (l.filter fun a => key a = none).Perm (l'.filter fun a => key a = none)) :
    l.Perm l' := by
  classical
  refine List.perm_iff_count.2 fun a => ?_
  have part : (l.filter fun b => key b = key a).count a =
      (l'.filter fun b => key b = key a).count a := by
    cases found : key a with
    | none => exact unkeyed.count_eq a
    | some k => exact congrArg (List.count a) (keyed k)
  have whole (l : List α) : (l.filter fun b => key b = key a).count a = l.count a :=
    List.count_filter (p := fun b => decide (key b = key a)) (decide_eq_true rfl)
  rwa [whole, whole] at part

theorem follows_empty (name : String) : Follows name {} {} :=
  ⟨⟨⟨rfl, rfl⟩, ⟨rfl, rfl⟩, rfl⟩, fun kind => by cases kind <;> rfl⟩

/-- In a session without injected errors the names do not notice each other.  The steps that concern
a name show the same, and leave the same status and the same recorded calls of the name, when all
other steps are left out.  So if the labelled steps are taken in another order, but those of each
name in the same one, then every step shows the same and all names are left with the same
statuses. -/
theorem runSteps_by_name (session : List (ι × Step))
    (plain : ∀ entry ∈ session, entry.2.isPlain) :
    (∀ name,
      let kept := session.filter (concerns name)
      (transcript session {}).filter (fun line => concerns name line.1) = transcript kept {} ∧
      (∀ kind, ((lastState session).recorded kind).filter (·.isFor name) =
        (lastState kept).recorded kind) ∧
      (lastState session).status name = (lastState kept).status name) ∧
    ∀ session' : List (ι × Step), session'.Perm session →
      (∀ name, session'.filter (concerns name) = session.filter (concerns name)) →
        (transcript session' {}).Perm (transcript session {}) ∧
        ∀ name, (lastState session').status name = (lastState session).status name := by
  have run (name : String) := (follows_empty name).run plain
  refine ⟨fun name => ?_, fun session' reordered ordered => ?_⟩
  · obtain ⟨same, last⟩ := run name
    exact ⟨same, last.recorded, last.status⟩
  · have plain' : ∀ entry ∈ session', entry.2.isPlain :=
      fun entry member => plain entry (reordered.mem_iff.1 member)
    have run' (name : String) := (follows_empty name).run plain'
    refine ⟨perm_of_filters (fun line => line.1.2.name?) (fun name => ?_) ?_, fun name => ?_⟩
    · exact (run' name).1.trans (ordered name ▸ (run name).1.symm)
    · rw [filter_unnamed_transcript plain', filter_unnamed_transcript plain]
      exact (reordered.filter _).map _
    · have left := (run' name).2.status
      rw [ordered name] at left
      exact left.trans (run name).2.status.symm

end Sessions

/-- A session in which the steps of two names alternate. -/
def alternating : List (Nat × Step) :=
  [(0, .setStatus "orders" .ready), (1, .setStatus "billing" .ready),
    (2, .handle (Sample.payload "CreateApplication" "us-east-1" "orders")),
    (3, .start ⟨"eu-west-1", "billing"⟩)]

/-- The same steps, those of one name behind those of the other. -/
def grouped : List (Nat × Step) :=
  [(0, .setStatus "orders" .ready),
    (2, .handle (Sample.payload "CreateApplication" "us-east-1" "orders")),
    (1, .setStatus "billing" .ready), (3, .start ⟨"eu-west-1", "billing"⟩)]

theorem runSteps_by_name_of_grouped :
    (∀ entry ∈ alternating, entry.2.isPlain) ∧ grouped.Perm alternating ∧
      (∀ name, grouped.filter (concerns name) = alternating.filter (concerns name)) ∧
      (transcript grouped {}).Perm (transcript alternating {}) ∧
      (lastState alternating).status "orders" = some .starting := by
  have plain : ∀ entry ∈ alternating, entry.2.isPlain := by decide
  have reordered : grouped.Perm alternating := .cons _ (.swap _ _ _)
  have ordered (name : String) :
      grouped.filter (concerns name) = alternating.filter (concerns name) := by
    have handled : (Step.handle (Sample.payload "CreateApplication" "us-east-1" "orders")).name? =
        some "orders" := by decide +kernel
    by_cases billing : concerns name (1, Step.setStatus "billing" .ready) = true
    · have off : ¬ concerns name
          (2, .handle (Sample.payload "CreateApplication" "us-east-1" "orders")) = true := by
        obtain rfl : "billing" = name := Option.some.inj (of_decide_eq_true billing)
        rw [concerns, handled]
        decide
      simp only [grouped, alternating, List.filter_cons, off, billing, if_true]
      rfl
    · simp only [grouped, alternating, List.filter_cons, billing]
      rfl
  obtain ⟨alone, orders⟩ := runSteps_by_name alternating plain
  refine ⟨plain, reordered, ordered, (orders grouped reordered ordered).1, ?_⟩
  exact (alone "orders").2.2.trans (by decide +kernel)

end Scripted

end StartOnReady
