import StartOnReady.Proofs.Scripted.Tally

/-!
# Calls on the scripted plane

What each call on the plane answers and what state it leaves.  Both kinds of calls go the same way:
an injected error that waits in the slot of the kind is the answer and leaves the slot, otherwise
the answer follows from the status of the name; either way the call is recorded.

* `plane_describe_eq_ok` and its siblings: what follows from a single answer.
* `State.Answers.error?_eq`, `State.Answers.byStatus`: the answer, by the slot and the status.
* `State.pending_afterCall`, `State.recorded_afterCall`: the slots and the records afterwards.
-/

namespace StartOnReady

/-- The kinds of calls. -/
inductive CallKind where
  | describe
  | start
  deriving DecidableEq, Repr

namespace Call

def kind : Call → CallKind
  | describe _ _ => .describe
  | start _ _ => .start

/-- The call as the scripted plane records it. -/
def recorded : Call → Scripted.RecordedCall
  | describe app result => ⟨app, Scripted.succeeded result⟩
  | start app result => ⟨app, Scripted.succeeded result⟩

end Call

namespace Scripted

open Effects (Program)

/-! ### Slots and records by kind -/

namespace State

/-- The injected error that waits for a call of a kind. -/
def pending (s : State) : CallKind → Option ControlPlaneError
  | .describe => s.nextDescribeError
  | .start => s.nextStartError

/-- The recorded calls of a kind. -/
def recorded (s : State) : CallKind → List RecordedCall
  | .describe => s.describes
  | .start => s.starts

/-- Lets the next call of a kind fail. -/
def inject (s : State) : CallKind → ControlPlaneError → State
  | .describe, error => s.setDescribeError error
  | .start, error => s.setStartError error

end State

/-! ### Answers -/

section InjectedOr

variable {α : Type} {slot : Option ControlPlaneError} {own : Except ControlPlaneError α}

/-- The answer to a call: the injected error if one waits, else the plane's own answer. -/
def injectedOr (slot : Option ControlPlaneError) (own : Except ControlPlaneError α) :
    Except ControlPlaneError α :=
  match slot with
  | some e => .error e
  | none => own

theorem injectedOr_eq_ok_iff {a : α} : injectedOr slot own = .ok a ↔ slot = none ∧ own = .ok a := by
  cases slot <;> simp [injectedOr]

theorem injectedOr_eq_error_iff {e : ControlPlaneError} :
    injectedOr slot own = .error e ↔ slot = some e ∨ slot = none ∧ own = .error e := by
  cases slot <;> simp [injectedOr]

end InjectedOr

/-- The result of a describe call in a state. -/
def describeAnswer (app : ApplicationRef) (s : State) :
    Except ControlPlaneError ApplicationSnapshot :=
  injectedOr s.nextDescribeError (describeResult app (s.status app.name))

/-- The result of a start call in a state. -/
def startAnswer (app : ApplicationRef) (s : State) : Except ControlPlaneError Unit :=
  injectedOr s.nextStartError (startResult app (s.status app.name))

variable {s after : State} {app : ApplicationRef} {records : List Log.Record}

theorem run_perform {α : Type} (a : Access) (next : a.Answer → Program Accesses α) (s : State) :
    (perform a >>= next).run access s = (next (access a s).1).run access (access a s).2 := rfl

theorem plane_describe (app : ApplicationRef) (s : State) :
    plane.describe app s =
      { result := describeAnswer app s
        state := { s with
          nextDescribeError := none
          describes := s.describes ++ [⟨app, succeeded (describeAnswer app s)⟩] } } := by
  obtain ⟨statuses, describes, starts, waiting, other⟩ := s
  simp only [plane, runCall, describe, run_perform, access]
  cases waiting with
  | some e => rfl
  | none =>
    simp only [run_perform, access, describeAnswer, injectedOr, State.status]
    cases Keyed.find? app.name statuses <;> rfl

/-- A start call whose slot is free claims the name and is recorded. -/
theorem plane_start_of_free (free : s.nextStartError = none) :
    let claimed := (access (.claimStart app.name) s).2
    let result := startResult app (s.status app.name)
    plane.start app s =
      { result := result
        state := { claimed with starts := claimed.starts ++ [⟨app, succeeded result⟩] } } := by
  obtain ⟨statuses, describes, starts, other, waiting⟩ := s
  cases free
  rfl

theorem plane_start (app : ApplicationRef) (s : State) :
    plane.start app s =
      { result := startAnswer app s
        state := { s with
          statuses := if succeeded (startAnswer app s) then
            Keyed.insert app.name .starting s.statuses else s.statuses
          nextStartError := none
          starts := s.starts ++ [⟨app, succeeded (startAnswer app s)⟩] } } := by
  cases slot : s.nextStartError with
  | some e =>
    obtain ⟨statuses, describes, starts, other, waiting⟩ := s
    cases slot
    rfl
  | none =>
    -- The claim changes the status exactly where the result is a success.
    rw [plane_start_of_free slot]
    simp only [startAnswer, injectedOr, slot, succeeded_startResult, access]
    by_cases ready : s.status app.name = some .ready <;> simp [ready, State.setStatus, slot]

/-! ### Single answers -/

theorem describeResult_eq_ok {seen : Option ApplicationStatus} {snapshot : ApplicationSnapshot}
    (reported : describeResult app seen = .ok snapshot) : seen = some snapshot.status := by
  cases seen <;> cases reported
  rfl

theorem describeResult_eq_error {seen : Option ApplicationStatus} {e : ControlPlaneError}
    (failed : describeResult app seen = .error e) : seen = none := by
  cases seen <;> cases failed
  rfl

theorem startResult_eq_ok {seen : Option ApplicationStatus}
    (started : startResult app seen = .ok ()) : seen = some .ready := by
  have success := succeeded_startResult app seen
  rw [started] at success
  exact of_decide_eq_true success.symm

/-- A describe call that reports a status has met it, and leaves the statuses and the slot of the
start calls. -/
theorem plane_describe_eq_ok {snapshot : ApplicationSnapshot}
    (h : plane.describe app s = ⟨.ok snapshot, after, records⟩) :
    s.nextDescribeError = none ∧ s.status app.name = some snapshot.status ∧
      after.statuses = s.statuses ∧ after.nextStartError = s.nextStartError := by
  rw [plane_describe, Reply.mk.injEq] at h
  obtain ⟨answer, rfl, -⟩ := h
  obtain ⟨free, reported⟩ := injectedOr_eq_ok_iff.1 answer
  exact ⟨free, describeResult_eq_ok reported, rfl, rfl⟩

theorem plane_describe_eq_error {e : ControlPlaneError}
    (h : plane.describe app s = ⟨.error e, after, records⟩) :
    (s.nextDescribeError = some e ∨ s.nextDescribeError = none ∧ s.status app.name = none) ∧
      after.statuses = s.statuses := by
  rw [plane_describe, Reply.mk.injEq] at h
  obtain ⟨answer, rfl, -⟩ := h
  refine ⟨(injectedOr_eq_error_iff.1 answer).imp_right ?_, rfl⟩
  exact fun ⟨free, failed⟩ => ⟨free, describeResult_eq_error failed⟩

theorem plane_start_eq_ok (h : plane.start app s = ⟨.ok (), after, records⟩) :
    s.nextStartError = none ∧ s.status app.name = some .ready ∧
      after.statuses = Keyed.insert app.name .starting s.statuses := by
  rw [plane_start, Reply.mk.injEq] at h
  obtain ⟨answer, rfl, -⟩ := h
  obtain ⟨free, started⟩ := injectedOr_eq_ok_iff.1 answer
  refine ⟨free, startResult_eq_ok started, ?_⟩
  simp only [answer, succeeded, if_true]

theorem plane_start_eq_error {e : ControlPlaneError}
    (h : plane.start app s = ⟨.error e, after, records⟩) :
    (s.nextStartError = some e ∨ s.nextStartError = none ∧ s.status app.name ≠ some .ready) ∧
      after.statuses = s.statuses := by
  rw [plane_start, Reply.mk.injEq] at h
  obtain ⟨answer, rfl, -⟩ := h
  constructor
  · refine (injectedOr_eq_error_iff.1 answer).imp_right ?_
    exact fun ⟨free, failed⟩ => ⟨free, (startResult_eq_error failed).1⟩
  · simp only [answer, succeeded, Bool.false_eq_true, if_false]

/-! ### Calls of either kind -/

namespace State

/-- Whether the plane gives a call its answer in a state. -/
def Answers (s : State) : Call → Prop
  | .describe app result => result = (plane.describe app s).result
  | .start app result => result = (plane.start app s).result

/-- Whether a call has the answer that follows from the status of its application. -/
def AnswersByStatus (s : State) : Call → Prop
  | .describe app result => result = describeResult app (s.status app.name)
  | .start app result => result = startResult app (s.status app.name)

/-- The state after a call. -/
def afterCall (s : State) : Call → State
  | .describe app _ => (plane.describe app s).state
  | .start app _ => (plane.start app s).state

variable {call : Call}

/-- An injected error that waits is the answer; without one the answer follows from the status. -/
theorem Answers.error?_eq (h : s.Answers call) {e : ControlPlaneError}
    (waiting : s.pending call.kind = some e) : call.error? = some e := by
  cases call with
  | describe app result =>
    rw [Answers, plane_describe] at h
    simp only [pending, Call.kind] at waiting
    rw [h, describeAnswer, waiting, injectedOr, Call.error?]
  | start app result =>
    rw [Answers, plane_start] at h
    simp only [pending, Call.kind] at waiting
    rw [h, startAnswer, waiting, injectedOr, Call.error?]

theorem Answers.byStatus (h : s.Answers call) (free : s.pending call.kind = none) :
    s.AnswersByStatus call := by
  cases call with
  | describe app result =>
    rw [Answers, plane_describe] at h
    simp only [pending, Call.kind] at free
    rw [AnswersByStatus, h, describeAnswer, free, injectedOr]
  | start app result =>
    rw [Answers, plane_start] at h
    simp only [pending, Call.kind] at free
    rw [AnswersByStatus, h, startAnswer, free, injectedOr]

/-- A call empties the slot of its kind and leaves the other one. -/
theorem pending_afterCall (s : State) (call : Call) (kind : CallKind) :
    (s.afterCall call).pending kind = if call.kind = kind then none else s.pending kind := by
  cases call <;> cases kind <;> simp [afterCall, plane_describe, plane_start, pending, Call.kind]

/-- A call is recorded at the end of the list of its kind. -/
theorem recorded_afterCall (h : s.Answers call) (kind : CallKind) :
    (s.afterCall call).recorded kind =
      s.recorded kind ++ if call.kind = kind then [call.recorded] else [] := by
  cases call with
  | describe app result =>
    rw [Answers, plane_describe] at h
    cases kind <;> simp [afterCall, plane_describe, recorded, Call.kind, Call.recorded, h]
  | start app result =>
    rw [Answers, plane_start] at h
    cases kind <;> simp [afterCall, plane_start, recorded, Call.kind, Call.recorded, h]

end State

end Scripted

end StartOnReady
