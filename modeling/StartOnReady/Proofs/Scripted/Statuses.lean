import StartOnReady.Event.Sample
import StartOnReady.Proofs.Handler.CallTrace
import StartOnReady.Proofs.Scripted.History

/-!
# Statuses, outcomes and records

How the outcome of handling an event on the scripted plane goes together with the statuses before
and after it, and what is recorded of it.

* `Handling.of_startRequested` and `Handling.statuses_eq`: a start changes one status from ready to
  starting, and nothing else changes any.
* `Handling.failed_iff`: when the handling of an event that is acted on fails.
* `step_statuses`: all this for each step of a session, with the records of its calls.
-/

namespace StartOnReady.Scripted

open ControlPlane (Handling)

variable {s between : State} {event : ChangeEvent} {app : ApplicationRef}
  {snapshot : ApplicationSnapshot} {outcome : Outcome} {journal : Journal State}
  {records : List Log.Record}

/-! ### Handling an event -/

/-- The state that a start call meets behind a describe call that reported ready. -/
theorem meets_ready (described : plane.describe app s = ⟨.ok snapshot, between, records⟩)
    (ready : snapshot.status.isStartable = true) :
    s.nextDescribeError = none ∧ s.status app.name = some .ready ∧
      between.statuses = s.statuses ∧ between.status app.name = some .ready ∧
      between.nextStartError = s.nextStartError := by
  obtain ⟨free, seen, same, slot⟩ := plane_describe_eq_ok described
  rw [ApplicationStatus.isStartable_eq_true_iff] at ready
  rw [ready] at seen
  refine ⟨free, seen, same, ?_, slot⟩
  rw [State.status, same]
  exact seen

/-- A start changes the status of its application from ready to starting. -/
theorem of_startRequested (h : Handling plane event s (.startRequested app) journal) :
    s.status app.name = some .ready ∧
      journal.state.statuses = Keyed.insert app.name .starting s.statuses := by
  cases h with
  | started _ _ _ described ready started =>
    obtain ⟨-, seen, same, -, -⟩ := meets_ready described ready
    obtain ⟨-, -, changed⟩ := plane_start_eq_ok started
    rw [same] at changed
    exact ⟨seen, changed⟩

/-- All other outcomes leave the statuses as they were. -/
theorem statuses_eq (h : Handling plane event s outcome journal)
    (other : ∀ app, outcome ≠ .startRequested app) : journal.state.statuses = s.statuses := by
  cases h with
  | missingDetail | nameNotHandled | notExtracted => rfl
  | describeFailed _ _ _ described => exact (plane_describe_eq_error described).2
  | filtered _ _ _ described => exact (plane_describe_eq_ok described).2.2.1
  | startFailed _ _ _ described ready started =>
    exact (plane_start_eq_error started).2.trans (meets_ready described ready).2.2.1
  | started => exact absurd rfl (other _)

/-- A start call fails only with an injected error. -/
theorem of_start_failed (h : Handling plane event s outcome journal) {e : ControlPlaneError}
    (failed : Call.start app (.error e) ∈ journal.calls) : s.nextStartError = some e := by
  cases h with
  | startFailed _ _ _ described ready started =>
    obtain ⟨rfl, rfl⟩ : app = _ ∧ e = _ := by simpa using failed
    obtain ⟨-, -, -, seen, slot⟩ := meets_ready described ready
    rcases (plane_start_eq_error started).1 with waiting | ⟨-, unready⟩
    · exact slot.symm.trans waiting
    · exact absurd seen unready
  | _ => simp at failed

/-- An event that is acted on fails exactly if an injected error meets its describe call, or its
application has no status, or an injected error meets the start of its ready application. -/
theorem failed_iff (h : Handling plane event s outcome journal) (acted : event.IsActionable)
    (target : event.applicationRef = .ok app) :
    (∃ message, outcome = .failed message) ↔
      s.nextDescribeError.isSome ∨ s.status app.name = none ∨
        s.status app.name = some .ready ∧ s.nextStartError.isSome := by
  cases h with
  | missingDetail absent => exact absurd acted (ChangeEvent.not_isActionable_of_absent absent)
  | nameNotHandled present idle =>
    rw [ChangeEvent.isActionable_iff_of_present present, idle] at acted
    cases acted
  | notExtracted _ _ target' => cases target.symm.trans target'
  | describeFailed _ _ target' described =>
    cases target.symm.trans target'
    refine iff_of_true ⟨_, rfl⟩ ?_
    rcases (plane_describe_eq_error described).1 with waiting | ⟨-, missing⟩
    · exact Or.inl (waiting ▸ rfl)
    · exact Or.inr (Or.inl missing)
  | filtered _ _ target' described unready =>
    cases target.symm.trans target'
    obtain ⟨free, seen, -, -⟩ := plane_describe_eq_ok described
    rw [ApplicationStatus.isStartable_eq_false_iff] at unready
    simp [free, seen, unready]
  | startFailed _ _ target' described ready started =>
    cases target.symm.trans target'
    obtain ⟨-, seen, -, met, slot⟩ := meets_ready described ready
    refine iff_of_true ⟨_, rfl⟩ (Or.inr (Or.inr ⟨seen, ?_⟩))
    rcases (plane_start_eq_error started).1 with waiting | ⟨-, unready⟩
    · rw [← slot, waiting]
      rfl
    · exact absurd met unready
  | started _ _ target' described ready started =>
    cases target.symm.trans target'
    obtain ⟨free, seen, -, -, slot⟩ := meets_ready described ready
    have open_ := (plane_start_eq_ok started).1
    rw [slot] at open_
    simp [free, seen, open_]

/-! ### Single steps -/

section Steps

variable {step : Step}

/-- The statuses change exactly if the outcome is a start. -/
theorem Step.statuses_ne_iff (has : (step.take s).1.outcome? = some outcome) :
    (step.take s).2.2.statuses ≠ s.statuses ↔ ∃ app, outcome = .startRequested app := by
  rcases Step.handling_of_outcome has with ⟨rfl, -, same⟩ | ⟨event, journal, -, -, left, h⟩
  · simp [same]
  · rw [left]
    constructor
    · intro changed
      by_contra none
      exact changed (statuses_eq h fun app same => none ⟨app, same⟩)
    · rintro ⟨app, rfl⟩ same
      obtain ⟨ready, changed⟩ := of_startRequested h
      rw [State.status, ← same, changed, Keyed.find?_insert, if_pos rfl] at ready
      cases ready

/-- A start changes the status of one name from ready to starting. -/
theorem Step.status_of_startRequested
    (has : (step.take s).1.outcome? = some (.startRequested app)) :
    s.status app.name = some .ready ∧ ∀ name, (step.take s).2.2.status name =
      if name = app.name then some .starting else s.status name := by
  rcases Step.handling_of_outcome has with ⟨other, -⟩ | ⟨event, journal, -, -, left, h⟩
  · cases other
  · obtain ⟨ready, changed⟩ := of_startRequested h
    refine ⟨ready, fun name => ?_⟩
    rw [left, State.status, changed, Keyed.find?_insert, State.status]

theorem Step.failed_iff (given : step.delivery? = some (.ok event)) (acted : event.IsActionable)
    (target : event.applicationRef = .ok app) :
    (∃ message, (step.take s).1.outcome? = some (.failed message)) ↔
      s.nextDescribeError.isSome ∨ s.status app.name = none ∨
        s.status app.name = some .ready ∧ s.nextStartError.isSome := by
  obtain ⟨outcome, journal, handled, -, -, h⟩ := Step.handling_of_event (s := s) given
  rw [handled, ← Scripted.failed_iff h acted target]
  simp only [Option.some.injEq]

/-- A start call behind a describe call that reported ready fails only with an injected error. -/
theorem Step.of_start_failed (has : (step.take s).1.outcome? = some outcome)
    {e : ControlPlaneError} (failed : Call.start app (.error e) ∈ step.calls s) :
    s.nextStartError = some e ∧
      ∃ snapshot, Call.describe app (.ok snapshot) ∈ step.calls s ∧ snapshot.status = .ready := by
  rcases Step.handling_of_outcome has with ⟨-, idle, -⟩ | ⟨event, journal, -, calls, -, h⟩
  · rw [idle] at failed
    cases failed
  · rw [calls] at failed ⊢
    exact ⟨Scripted.of_start_failed h failed, (h.exists_start_iff app).1 ⟨_, failed⟩⟩

/-- A step records its calls behind the earlier ones. -/
theorem Step.recorded (s : State) (step : Step) (kind : CallKind) :
    (step.take s).2.2.recorded kind = s.recorded kind ++ recordsOf kind (step.calls s) := by
  rw [← through_happenings, State.recorded_through (answersAll_happenings s step),
    callsOf_happenings]

end Steps

/-! ### Steps of a session -/

/-- What was recorded stays. -/
theorem recorded_prefix (steps : List Step) (s : State) (kind : CallKind) :
    s.recorded kind <+: (s.after steps).recorded kind := by
  rw [← through_historyOf, State.recorded_through (answersAll_historyOf steps s)]
  exact List.prefix_append _ _

/-- Every step of a session, in the state that the steps before it lead to.  If the step handles an
event, the statuses change exactly if its outcome is a start, and then one changes from ready to
starting; an event that is acted on fails in three cases only, and a start behind a describe call
that reported ready fails only with an injected error.  Whatever the step, its calls are recorded in
their order behind the earlier ones, which stay. -/
theorem step_statuses (before : List Step) (step : Step) (after : List Step) :
    let s := State.after {} before
    let s' := (step.take s).2.2
    let outcome? := (step.take s).1.outcome?
    (runSteps (before ++ step :: after) {})[before.length]? = some (step.take s) ∧
    (∀ outcome, outcome? = some outcome →
      (s'.statuses ≠ s.statuses ↔ ∃ app, outcome = .startRequested app) ∧
      ∀ app, outcome = .startRequested app → s.status app.name = some .ready ∧
        ∀ name, s'.status name = if name = app.name then some .starting else s.status name) ∧
    (∀ event app, step.delivery? = some (.ok event) → event.IsActionable →
      event.applicationRef = .ok app →
        ((∃ message, outcome? = some (.failed message)) ↔
          s.nextDescribeError.isSome ∨ s.status app.name = none ∨
            s.status app.name = some .ready ∧ s.nextStartError.isSome)) ∧
    (∀ outcome, outcome? = some outcome → ∀ app e, Call.start app (.error e) ∈ step.calls s →
      s.nextStartError = some e ∧ ∃ snapshot, Call.describe app (.ok snapshot) ∈ step.calls s ∧
        snapshot.status = .ready) ∧
    (∀ kind, s'.recorded kind = s.recorded kind ++ recordsOf kind (step.calls s)) ∧
    ∀ kind, s'.recorded kind <+: (State.after {} (before ++ step :: after)).recorded kind := by
  intro s s' outcome?
  refine ⟨runSteps_getElem? {} before step after, fun outcome has => ⟨?_, ?_⟩, ?_, ?_, ?_, ?_⟩
  · exact Step.statuses_ne_iff has
  · rintro app rfl
    exact Step.status_of_startRequested has
  · intro event app given acted target
    exact Step.failed_iff given acted target
  · intro outcome has app e failed
    exact Step.of_start_failed has failed
  · exact step.recorded s
  · intro kind
    rw [after_append]
    exact recorded_prefix after s' kind

/-- A session whose first start meets an injected error. -/
def interrupted : List Step :=
  [.setStatus "orders" .ready, .setStartError (.transport "connection reset"),
    .handle (Sample.payload "CreateApplication" "us-east-1" "orders")]

theorem step_statuses_of_retry :
    let app : ApplicationRef := ⟨"us-east-1", "orders"⟩
    let s := State.after {} interrupted
    let taken := (Step.handle (Sample.payload "UpdateApplication" "us-east-1" "orders")).take s
    taken.1.outcome? = some (.startRequested app) ∧ s.status "orders" = some .ready ∧
      taken.2.2.status "orders" = some .starting ∧
      taken.2.2.starts = [⟨app, false⟩, ⟨app, true⟩] := by
  intro app s taken
  have requested : taken.1.outcome? = some (.startRequested app) := by decide +kernel
  obtain ⟨-, changes, -, -, recorded, -⟩ := step_statuses interrupted
    (.handle (Sample.payload "UpdateApplication" "us-east-1" "orders")) []
  obtain ⟨ready, others⟩ := (changes _ requested).2 app rfl
  refine ⟨requested, ready, (others "orders").trans (if_pos rfl), ?_⟩
  exact (recorded .start).trans (by decide +kernel)

end StartOnReady.Scripted
