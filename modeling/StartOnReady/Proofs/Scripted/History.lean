import StartOnReady.Proofs.Scripted.Calls
import StartOnReady.Scripted.Session

/-!
# The history of a session

What happens to a scripted plane in the course of a session, one after the other: statuses that are
set, errors that are injected and calls that are made, whether a step makes them itself or the
handler does.  `Step.happenings` says what happens in one step, and `answersAll_historyOf` and
`through_historyOf` that the history of a session, read on its own, has the right answers and leads
to the state of the session.

* `State.pending_through_of_foreign`: a slot changes with injections and calls of its kind only.
* `State.recorded_through`: the recorded calls are those of the history, in their order.
* `Step.handled`: what a step comes to that gives the handler an event.
-/

namespace StartOnReady.Scripted

open Effects (Program)

/-! ### Happenings -/

/-- What can happen to the plane. -/
inductive Happening where
  | statusSet (name : String) (status : ApplicationStatus)
  | injected (kind : CallKind) (error : ControlPlaneError)
  | called (call : Call)

namespace Happening

/-- The kind of calls whose slot is filled or emptied. -/
def kind? : Happening → Option CallKind
  | statusSet _ _ => none
  | injected kind _ => some kind
  | called call => some call.kind

/-- The error left in the slot. -/
def error? : Happening → Option ControlPlaneError
  | injected _ error => some error
  | _ => none

def call? : Happening → Option Call
  | called call => some call
  | _ => none

end Happening

/-- The calls among some happenings. -/
def callsOf (history : List Happening) : List Call := history.filterMap Happening.call?

theorem callsOf_cons (h : Happening) (rest : List Happening) :
    callsOf (h :: rest) = h.call?.toList ++ callsOf rest := by
  cases h <;> rfl

/-- The records of the calls of a kind. -/
def recordsOf (kind : CallKind) (calls : List Call) : List RecordedCall :=
  (calls.filter fun call => call.kind = kind).map Call.recorded

theorem recordsOf_append (kind : CallKind) (calls calls' : List Call) :
    recordsOf kind (calls ++ calls') = recordsOf kind calls ++ recordsOf kind calls' := by
  rw [recordsOf, List.filter_append, List.map_append, recordsOf, recordsOf]

theorem recordsOf_singleton (kind : CallKind) (call : Call) :
    recordsOf kind [call] = if call.kind = kind then [call.recorded] else [] := by
  by_cases same : call.kind = kind <;> simp [recordsOf, same]

namespace State

/-- The state after a happening. -/
def next (s : State) : Happening → State
  | .statusSet name status => s.setStatus name status
  | .injected kind error => s.inject kind error
  | .called call => s.afterCall call

/-- The state after a list of happenings. -/
def through (s : State) (history : List Happening) : State := history.foldl next s

/-- Whether every call in a list of happenings has the answer of the plane in the state it meets. -/
def AnswersAll (s : State) : List Happening → Prop
  | [] => True
  | h :: rest => (∀ call, h.call? = some call → s.Answers call) ∧ (s.next h).AnswersAll rest

variable {s : State} {h : Happening} {history history' : List Happening}

theorem through_cons (s : State) (h : Happening) (rest : List Happening) :
    s.through (h :: rest) = (s.next h).through rest := rfl

theorem through_append (s : State) (history history' : List Happening) :
    s.through (history ++ history') = (s.through history).through history' := List.foldl_append

theorem through_concat (s : State) (history : List Happening) (h : Happening) :
    s.through (history ++ [h]) = (s.through history).next h := through_append s history [h]

theorem answersAll_append :
    s.AnswersAll (history ++ history') ↔
      s.AnswersAll history ∧ (s.through history).AnswersAll history' := by
  induction history generalizing s with
  | nil => simp [AnswersAll, through]
  | cons h rest ih => simp [AnswersAll, through, ih, and_assoc]

/-- A call in a list of happenings has the answer of the plane in the state that it met. -/
theorem AnswersAll.answers (all : s.AnswersAll history) {place : Nat} {call : Call}
    (here : history[place]? = some (.called call)) :
    (s.through (history.take place)).Answers call := by
  obtain ⟨bound, found⟩ := List.getElem?_eq_some_iff.1 here
  have split := List.take_append_drop place history
  rw [List.drop_eq_getElem_cons bound, found] at split
  rw [← split, answersAll_append] at all
  exact all.2.1 call rfl

/-! ### What a history leaves -/

theorem pending_next (s : State) (h : Happening) (kind : CallKind) :
    (s.next h).pending kind = if h.kind? = some kind then h.error? else s.pending kind := by
  cases h with
  | statusSet name status => cases kind <;> rfl
  | injected kind' error => cases kind <;> cases kind' <;> rfl
  | called call => simp [next, pending_afterCall, Happening.kind?, Happening.error?]

theorem recorded_next (answers : ∀ call, h.call? = some call → s.Answers call) (kind : CallKind) :
    (s.next h).recorded kind = s.recorded kind ++ recordsOf kind h.call?.toList := by
  cases h with
  | statusSet name status => cases kind <;> exact (List.append_nil _).symm
  | injected kind' error => cases kind <;> cases kind' <;> exact (List.append_nil _).symm
  | called call =>
    rw [next, recorded_afterCall (answers call rfl), Happening.call?, Option.toList_some,
      recordsOf_singleton]

/-- Nothing but injections and calls of a kind touches its slot. -/
theorem pending_through_of_foreign (kind : CallKind)
    (foreign : ∀ h ∈ history, h.kind? ≠ some kind) :
    (s.through history).pending kind = s.pending kind := by
  induction history generalizing s with
  | nil => rfl
  | cons h rest ih =>
    obtain ⟨here, later⟩ := List.forall_mem_cons.1 foreign
    exact (ih later).trans ((pending_next s h kind).trans (if_neg here))

theorem recorded_through (all : s.AnswersAll history) (kind : CallKind) :
    (s.through history).recorded kind =
      s.recorded kind ++ recordsOf kind (callsOf history) := by
  induction history generalizing s with
  | nil => simp [through, callsOf, recordsOf]
  | cons h rest ih =>
    obtain ⟨here, later⟩ := all
    rw [through_cons, ih later, recorded_next here, List.append_assoc, ← recordsOf_append,
      ← callsOf_cons]

end State

/-! ### Programs -/

/-- A program on the plane makes calls that have the answers of the plane, and leaves the state
that they lead to. -/
theorem run_calls {α : Type} (p : Program Calls α) (j : Journal State) :
    ∃ calls : List Call, (p.run plane.answer j).2.calls = j.calls ++ calls ∧
      j.state.AnswersAll (calls.map .called) ∧
      j.state.through (calls.map .called) = (p.run plane.answer j).2.state := by
  induction p generalizing j with
  | done a => exact ⟨[], (List.append_nil _).symm, trivial, rfl⟩
  | ask effect next ih =>
    cases effect with
    | describe app =>
      obtain ⟨calls, same, answers, leads⟩ := ih _ (plane.answer (.describe app) j).2
      refine ⟨.describe app (plane.describe app j.state).result :: calls, ?_, ⟨?_, answers⟩, leads⟩
      · exact same.trans (List.append_assoc ..)
      · rintro _ ⟨⟩
        rfl
    | start app =>
      obtain ⟨calls, same, answers, leads⟩ := ih _ (plane.answer (.start app) j).2
      refine ⟨.start app (plane.start app j.state).result :: calls, ?_, ⟨?_, answers⟩, leads⟩
      · exact same.trans (List.append_assoc ..)
      · rintro _ ⟨⟩
        rfl
    | log record => exact ih () _

theorem run_calls_of_empty {α : Type} (p : Program Calls α) (s : State) :
    s.AnswersAll ((plane.run p s).2.calls.map .called) ∧
      s.through ((plane.run p s).2.calls.map .called) = (plane.run p s).2.state := by
  obtain ⟨calls, same, answers, leads⟩ := run_calls p ⟨s, [], []⟩
  rw [ControlPlane.run, same, List.nil_append]
  exact ⟨answers, leads⟩

/-! ### Steps -/

namespace Step

/-- The calls made in a step. -/
def calls (s : State) : Step → List Call
  | describe app => [.describe app (plane.describe app s).result]
  | start app => [.start app (plane.start app s).result]
  | handle payload => (plane.handleValue payload s).2.calls
  | handleEvent event => (plane.handle event s).2.calls
  | invoke requestId payload => (plane.invoke requestId payload s).journal.calls
  | setStatus _ _ | readStatus _ | setDescribeError _ | setStartError _ | readCalls => []

/-- What a step sets. -/
def settings : Step → List Happening
  | setStatus name status => [.statusSet name status]
  | setDescribeError error => [.injected .describe error]
  | setStartError error => [.injected .start error]
  | readStatus _ | describe _ | start _ | handle _ | handleEvent _ | invoke _ _ | readCalls => []

/-- What happens in a step. -/
def happenings (s : State) (step : Step) : List Happening :=
  step.settings ++ (step.calls s).map .called

theorem callsOf_happenings (s : State) (step : Step) :
    callsOf (step.happenings s) = step.calls s := by
  have still : callsOf step.settings = [] := by cases step <;> rfl
  have all (calls : List Call) : callsOf (calls.map .called) = calls := by
    induction calls with
    | nil => rfl
    | cons call rest ih => rw [List.map_cons, callsOf_cons, ih]; rfl
  rw [happenings, callsOf, List.filterMap_append, ← callsOf, ← callsOf, still, all, List.nil_append]

theorem answersAll_happenings (s : State) (step : Step) : s.AnswersAll (step.happenings s) := by
  cases step with
  | setStatus _ _ | setDescribeError _ | setStartError _ => exact ⟨nofun, trivial⟩
  | readStatus _ | readCalls => trivial
  | describe app | start app =>
    refine ⟨?_, trivial⟩
    rintro _ ⟨⟩
    rfl
  | handle payload | invoke _ payload => exact (run_calls_of_empty _ s).1
  | handleEvent event => exact (run_calls_of_empty _ s).1

theorem through_happenings (s : State) (step : Step) :
    s.through (step.happenings s) = (step.take s).2.2 := by
  cases step with
  | handle payload | invoke _ payload => exact (run_calls_of_empty _ s).2
  | handleEvent event => exact (run_calls_of_empty _ s).2
  | setStatus _ _ | setDescribeError _ | setStartError _ | readStatus _ | readCalls | describe _
  | start _ => rfl

end Step

/-! ### Sessions -/

/-- The state after some steps. -/
def State.after (s : State) (steps : List Step) : State :=
  steps.foldl (fun s step => (step.take s).2.2) s

/-- What happens in a session. -/
def historyOf : List Step → State → List Happening
  | [], _ => []
  | step :: steps, s => step.happenings s ++ historyOf steps (step.take s).2.2

section Sessions

variable (steps steps' : List Step) (s : State)

theorem after_append : s.after (steps ++ steps') = (s.after steps).after steps' :=
  List.foldl_append

theorem historyOf_append :
    historyOf (steps ++ steps') s = historyOf steps s ++ historyOf steps' (s.after steps) := by
  induction steps generalizing s with
  | nil => rfl
  | cons step rest ih =>
    rw [List.cons_append, historyOf, ih, historyOf, List.append_assoc]
    rfl

theorem through_historyOf : s.through (historyOf steps s) = s.after steps := by
  induction steps generalizing s with
  | nil => rfl
  | cons step rest ih =>
    rw [historyOf, State.through_append, Step.through_happenings, ih]
    rfl

theorem answersAll_historyOf : s.AnswersAll (historyOf steps s) := by
  induction steps generalizing s with
  | nil => trivial
  | cons step rest ih =>
    rw [historyOf, State.answersAll_append, Step.through_happenings]
    exact ⟨Step.answersAll_happenings s step, ih _⟩

/-- A session takes each step in the state that the steps before it lead to. -/
theorem runSteps_getElem? (before : List Step) (step : Step) (after : List Step) :
    (runSteps (before ++ step :: after) s)[before.length]? = some (step.take (s.after before)) := by
  induction before generalizing s with
  | nil => rfl
  | cons first rest ih => exact ih _

end Sessions

/-! ### Steps that handle an event -/

/-- The outcome of a step that handles an event. -/
def Step.Result.outcome? : Step.Result → Option Outcome
  | handled outcome => some outcome
  | invoked invocation => some invocation.outcome
  | nothing | status _ | described _ | started _ | calls _ _ => none

/-- What a step gives the handler to handle: an event, or the failure to read one. -/
def Step.delivery? : Step → Option (Except EventError ChangeEvent)
  | handle payload | invoke _ payload => some (ChangeEvent.ofValue payload)
  | handleEvent event => some (.ok event)
  | setStatus _ _ | readStatus _ | setDescribeError _ | setStartError _ | describe _ | start _
  | readCalls => none

/-- A step has an outcome exactly if it gives the handler something to handle, and goes one of the
ways of handling an event if there is one. -/
theorem Step.handled (s : State) (step : Step) :
    (step.delivery? = none ∧ (step.take s).1.outcome? = none) ∨
    (∃ e, step.delivery? = some (.error e) ∧
      (step.take s).1.outcome? = some .ignoredUnrecognizedShape ∧ step.calls s = [] ∧
      (step.take s).2.2 = s) ∨
    ∃ event outcome journal, step.delivery? = some (.ok event) ∧
      (step.take s).1.outcome? = some outcome ∧ step.calls s = journal.calls ∧
      (step.take s).2.2 = journal.state ∧ plane.Handling event s outcome journal := by
  cases step with
  | handle payload | invoke _ payload =>
    refine Or.inr ?_
    simp only [delivery?, take, calls, ControlPlane.invoke, Result.outcome?]
    cases read : ChangeEvent.ofValue payload with
    | error e =>
      rw [ControlPlane.handleValue_of_error plane read]
      exact Or.inl ⟨e, rfl, rfl, rfl, rfl⟩
    | ok event =>
      rw [ControlPlane.handleValue_of_ok plane read]
      exact Or.inr ⟨event, _, _, rfl, rfl, rfl, rfl, ControlPlane.handling plane event s⟩
  | handleEvent event =>
    exact Or.inr (Or.inr ⟨event, _, _, rfl, rfl, rfl, rfl, ControlPlane.handling plane event s⟩)
  | setStatus _ _ | readStatus _ | setDescribeError _ | setStartError _ | describe _ | start _
  | readCalls => exact Or.inl ⟨rfl, rfl⟩

section Handling

variable {s : State} {step : Step}

theorem Step.handling_of_outcome {outcome : Outcome}
    (has : (step.take s).1.outcome? = some outcome) :
    (outcome = .ignoredUnrecognizedShape ∧ step.calls s = [] ∧ (step.take s).2.2 = s) ∨
      ∃ event journal, step.delivery? = some (.ok event) ∧ step.calls s = journal.calls ∧
        (step.take s).2.2 = journal.state ∧ plane.Handling event s outcome journal := by
  rcases step.handled s with ⟨-, absent⟩ | ⟨e, -, unread, idle, same⟩ |
    ⟨event, outcome', journal, given, handled, calls, left, h⟩
  · cases has.symm.trans absent
  · cases has.symm.trans unread
    exact Or.inl ⟨rfl, idle, same⟩
  · cases has.symm.trans handled
    exact Or.inr ⟨event, journal, given, calls, left, h⟩

theorem Step.handling_of_event {event : ChangeEvent} (given : step.delivery? = some (.ok event)) :
    ∃ outcome journal, (step.take s).1.outcome? = some outcome ∧ step.calls s = journal.calls ∧
      (step.take s).2.2 = journal.state ∧ plane.Handling event s outcome journal := by
  rcases step.handled s with ⟨absent, -⟩ | ⟨e, unread, -⟩ |
    ⟨event', outcome, journal, read, handled, calls, left, h⟩
  · cases given.symm.trans absent
  · cases given.symm.trans unread
  · cases given.symm.trans read
    exact ⟨outcome, journal, handled, calls, left, h⟩

end Handling

end StartOnReady.Scripted
