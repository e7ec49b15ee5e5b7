import StartOnReady.Handler.Basic

/-!
# The ways of handling an event

`Handling plane event state outcome journal` lists what handling an event on a plane can come to:
three ways without a call and four with one or two calls, each with its outcome, calls, records and
the state that is left.  `handling` says that every handling goes one of these ways, whatever the
plane answers; the results on calls, outcomes and records are case analyses of it.
-/

namespace StartOnReady

open Effects (Program)
open Log (Record)

/-- Whether an event reports a call that is acted on. -/
def ChangeEvent.IsActionable (event : ChangeEvent) : Prop :=
  ∃ detail, event.detail = some detail ∧ detail.kind.isActionable = true

theorem ChangeEvent.not_isActionable_of_absent {event : ChangeEvent}
    (absent : event.detail = none) : ¬ event.IsActionable := by
  rintro ⟨detail, present, -⟩
  rw [absent] at present
  cases present

theorem ChangeEvent.isActionable_iff_of_present {event : ChangeEvent} {detail : EventDetail}
    (present : event.detail = some detail) :
    event.IsActionable ↔ detail.kind.isActionable = true := by
  simp [ChangeEvent.IsActionable, present]

/-- The records of an event that has a detail. -/
def Records.opening (kind : EventKind) : List Record := [Records.incoming kind, Records.payload]

namespace ControlPlane

variable {σ : Type}

/-- What handling an event on a plane in a state can come to. -/
inductive Handling (plane : ControlPlane σ) (event : ChangeEvent) (state : σ) :
    Outcome → Journal σ → Prop
  | missingDetail (absent : event.detail = none) :
      Handling plane event state .ignoredMissingDetail ⟨state, [], [Records.missingDetail]⟩
  | nameNotHandled {detail : EventDetail} (present : event.detail = some detail)
      (idle : detail.kind.isActionable = false) :
      Handling plane event state (.ignoredEventName detail.kind.text)
        ⟨state, [], Records.opening detail.kind ++ [Records.nameNotHandled detail.kind]⟩
  | notExtracted {detail : EventDetail} {e : EventError} (present : event.detail = some detail)
      (acted : detail.kind.isActionable = true) (target : event.applicationRef = .error e) :
      Handling plane event state (.failed e.message)
        ⟨state, [], Records.opening detail.kind ++ [Records.failed (.event e) detail.kind]⟩
  | describeFailed {detail : EventDetail} {app : ApplicationRef} {e : ControlPlaneError}
      {records : List Record} {after : σ} (present : event.detail = some detail)
      (acted : detail.kind.isActionable = true) (target : event.applicationRef = .ok app)
      (described : plane.describe app state = ⟨.error e, after, records⟩) :
      Handling plane event state (.failed e.message)
        ⟨after, [.describe app (.error e)], Records.opening detail.kind ++ records ++
          [Records.failed (.controlPlane e) detail.kind]⟩
  | filtered {detail : EventDetail} {app : ApplicationRef} {snapshot : ApplicationSnapshot}
      {records : List Record} {after : σ} (present : event.detail = some detail)
      (acted : detail.kind.isActionable = true) (target : event.applicationRef = .ok app)
      (described : plane.describe app state = ⟨.ok snapshot, after, records⟩)
      (unready : snapshot.status.isStartable = false) :
      Handling plane event state (.statusFiltered app snapshot.status)
        ⟨after, [.describe app (.ok snapshot)], Records.opening detail.kind ++ records ++
          [Records.described app snapshot] ++ [Records.statusFiltered app snapshot.status]⟩
  | startFailed {detail : EventDetail} {app : ApplicationRef} {snapshot : ApplicationSnapshot}
      {e : ControlPlaneError} {records records' : List Record} {between after : σ}
      (present : event.detail = some detail) (acted : detail.kind.isActionable = true)
      (target : event.applicationRef = .ok app)
      (described : plane.describe app state = ⟨.ok snapshot, between, records⟩)
      (ready : snapshot.status.isStartable = true)
      (started : plane.start app between = ⟨.error e, after, records'⟩) :
      Handling plane event state (.failed e.message)
        ⟨after, [.describe app (.ok snapshot), .start app (.error e)],
          Records.opening detail.kind ++ records ++ [Records.described app snapshot] ++ records' ++
            [Records.failed (.controlPlane e) detail.kind]⟩
  | started {detail : EventDetail} {app : ApplicationRef} {snapshot : ApplicationSnapshot}
      {records records' : List Record} {between after : σ}
      (present : event.detail = some detail) (acted : detail.kind.isActionable = true)
      (target : event.applicationRef = .ok app)
      (described : plane.describe app state = ⟨.ok snapshot, between, records⟩)
      (ready : snapshot.status.isStartable = true)
      (started : plane.start app between = ⟨.ok (), after, records'⟩) :
      Handling plane event state (.startRequested app)
        ⟨after, [.describe app (.ok snapshot), .start app (.ok ())],
          Records.opening detail.kind ++ records ++ [Records.described app snapshot] ++ records' ++
            [Records.started app plane.name]⟩

/-! ### Runs of programs -/

section Runs

variable {α β : Type} (plane : ControlPlane σ) (j : Journal σ)

theorem run_bind (p : Program Calls α) (f : α → Program Calls β) :
    (p >>= f).run plane.answer j =
      (f (p.run plane.answer j).1).run plane.answer (p.run plane.answer j).2 :=
  Program.run_bind plane.answer p f j

theorem run_log (record : Record) :
    (StartOnReady.log record).run plane.answer j =
      ((), { j with records := j.records ++ [record] }) := rfl

theorem run_describe (app : ApplicationRef) :
    (StartOnReady.describe app).run plane.answer j =
      ((plane.describe app j.state).result,
        ⟨(plane.describe app j.state).state,
          j.calls ++ [.describe app (plane.describe app j.state).result],
          j.records ++ (plane.describe app j.state).records⟩) := rfl

theorem run_start (app : ApplicationRef) :
    (StartOnReady.start app).run plane.answer j =
      ((plane.start app j.state).result,
        ⟨(plane.start app j.state).state,
          j.calls ++ [.start app (plane.start app j.state).result],
          j.records ++ (plane.start app j.state).records⟩) := rfl

end Runs

/-! ### All the ways -/

/-- Handling an event goes one of these ways. -/
theorem handling (plane : ControlPlane σ) (event : ChangeEvent) (state : σ) :
    Handling plane event state (plane.handle event state).1 (plane.handle event state).2 := by
  unfold handle ControlPlane.run handleEvent
  rcases present : event.detail with _ | detail
  · exact .missingDetail present
  · cases acted : detail.kind.isActionable with
    | false =>
      simp only [acted]
      exact .nameNotHandled present acted
    | true =>
      simp only [acted, if_true, run_bind, run_log, actOn]
      cases target : event.applicationRef with
      | error e => exact .notExtracted present acted target
      | ok app =>
        simp only [startIfReady, run_bind, run_describe]
        rcases described : plane.describe app state with ⟨e | snapshot, between, records⟩
        · exact .describeFailed present acted target described
        · cases ready : snapshot.status.isStartable with
          | false =>
            simp only [ready, Bool.false_eq_true, if_false, run_bind, run_log]
            exact .filtered present acted target described ready
          | true =>
            simp only [ready, if_true, run_bind, run_log, run_start]
            rcases started : plane.start app between with ⟨e | ⟨⟩, after, records'⟩
            · exact .startFailed present acted target described ready started
            · exact .started present acted target described ready started

/-- No other way is open to an event on the same plane in the same state. -/
theorem Handling.handle_eq {plane : ControlPlane σ} {event : ChangeEvent} {state : σ}
    {outcome : Outcome} {journal : Journal σ} (h : Handling plane event state outcome journal) :
    plane.handle event state = (outcome, journal) := by
  unfold handle ControlPlane.run handleEvent actOn startIfReady
  cases h with
  | missingDetail absent => rw [absent]; rfl
  | nameNotHandled present idle => simp only [present, idle]; rfl
  | notExtracted present acted target => simp only [present, acted, target]; rfl
  | describeFailed present acted target described =>
    simp only [present, acted, target, if_true, run_bind, run_log, run_describe, described]
    rfl
  | filtered present acted target described unready =>
    simp only [present, acted, target, if_true, run_bind, run_log, run_describe, described, unready]
    rfl
  | startFailed present acted target described ready started
  | started present acted target described ready started =>
    simp only [present, acted, target, if_true, run_bind, run_log, run_describe, described, ready,
      run_start, started]
    rfl

/-! ### Payloads -/

theorem handleValue_of_ok (plane : ControlPlane σ) {payload : Json.Value} {event : ChangeEvent}
    (read : ChangeEvent.ofValue payload = .ok event) (state : σ) :
    plane.handleValue payload state = plane.handle event state := by
  unfold ControlPlane.handleValue StartOnReady.handleValue
  rw [read]
  rfl

theorem handleValue_of_error (plane : ControlPlane σ) {payload : Json.Value} {e : EventError}
    (read : ChangeEvent.ofValue payload = .error e) (state : σ) :
    plane.handleValue payload state =
      (.ignoredUnrecognizedShape, ⟨state, [], [Records.unrecognizedShape e]⟩) := by
  unfold ControlPlane.handleValue StartOnReady.handleValue
  rw [read]
  rfl

end ControlPlane

end StartOnReady
