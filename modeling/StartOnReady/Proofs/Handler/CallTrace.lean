import StartOnReady.Proofs.Handler.Handling

/-!
# Calls and outcomes

What the calls of one handling are, and how its outcome follows from their answers.  The plane is
any state machine: each answer and each change of its state is its own choice.

* `Handling.calls_cases`: no call, a describe call, or a describe and a start call, all for the
  application of the event.
* `Handling.exists_start_iff`: a start is asked for exactly behind the answer that it is ready.
* `Handling.eq_startRequested_iff` and its siblings: each outcome by the event and the answers.
-/

namespace StartOnReady.ControlPlane

variable {σ : Type} {plane : ControlPlane σ} {event : ChangeEvent} {state : σ} {outcome : Outcome}
  {journal : Journal σ}

/-! ### Calls -/

/-- The calls with the answers of the plane, and the state that the last of them leaves. -/
theorem Handling.calls_cases (h : Handling plane event state outcome journal) :
    (journal.calls = [] ∧ journal.state = state) ∨
      ∃ app, event.applicationRef = .ok app ∧
        let described := plane.describe app state
        let started := plane.start app described.state
        (journal.calls = [.describe app described.result] ∧ journal.state = described.state ∨
          journal.calls = [.describe app described.result, .start app started.result] ∧
            journal.state = started.state) := by
  cases h with
  | missingDetail | nameNotHandled | notExtracted => exact Or.inl ⟨rfl, rfl⟩
  | describeFailed _ _ target described | filtered _ _ target described =>
    refine Or.inr ⟨_, target, Or.inl ?_⟩
    rw [described]
    exact ⟨rfl, rfl⟩
  | startFailed _ _ target described _ started | started _ _ target described _ started =>
    refine Or.inr ⟨_, target, Or.inr ?_⟩
    rw [described, started]
    exact ⟨rfl, rfl⟩

theorem Handling.calls_eq_nil_iff (h : Handling plane event state outcome journal) :
    journal.calls = [] ↔
      event.detail = none ∨
        (∃ detail, event.detail = some detail ∧ detail.kind.isActionable = false) ∨
          ∃ e, event.applicationRef = .error e := by
  cases h with
  | missingDetail absent => simp [absent]
  | nameNotHandled present idle => simp [present, idle]
  | notExtracted _ _ target => simp [target]
  | describeFailed present acted target | filtered present acted target
  | startFailed present acted target | started present acted target =>
    simp [present, acted, target]

/-- A start is asked for exactly behind the answer that the application is ready. -/
theorem Handling.exists_start_iff (h : Handling plane event state outcome journal)
    (app : ApplicationRef) :
    (∃ result, Call.start app result ∈ journal.calls) ↔
      ∃ snapshot, Call.describe app (.ok snapshot) ∈ journal.calls ∧ snapshot.status = .ready := by
  cases h with
  | missingDetail | nameNotHandled | notExtracted | describeFailed => simp
  | filtered _ _ _ _ unready =>
    rw [ApplicationStatus.isStartable_eq_false_iff] at unready
    refine iff_of_false (by simp) ?_
    rintro ⟨snapshot, answered, ready⟩
    obtain ⟨-, rfl⟩ : _ ∧ snapshot = _ := by simpa using answered
    exact unready ready
  | startFailed _ _ _ _ ready | started _ _ _ _ ready =>
    rw [ApplicationStatus.isStartable_eq_true_iff] at ready
    constructor
    · rintro ⟨result, asked⟩
      obtain ⟨rfl, -⟩ : app = _ ∧ _ := by simpa using asked
      exact ⟨_, List.mem_cons_self, ready⟩
    · rintro ⟨snapshot, answered, -⟩
      obtain ⟨rfl, -⟩ : app = _ ∧ _ := by simpa using answered
      exact ⟨_, List.mem_cons_of_mem _ List.mem_cons_self⟩

/-! ### Outcomes -/

theorem Handling.eq_startRequested_iff (h : Handling plane event state outcome journal)
    (app : ApplicationRef) :
    outcome = .startRequested app ↔ Call.start app (.ok ()) ∈ journal.calls := by
  cases h with
  | started => simp [@eq_comm _ app]
  | _ => simp

theorem Handling.eq_statusFiltered_iff (h : Handling plane event state outcome journal)
    (app : ApplicationRef) (status : ApplicationStatus) :
    outcome = .statusFiltered app status ↔
      status ≠ .ready ∧
        ∃ snapshot, Call.describe app (.ok snapshot) ∈ journal.calls ∧
          snapshot.status = status := by
  cases h with
  | missingDetail | nameNotHandled | notExtracted | describeFailed => simp
  | filtered _ _ _ _ unready =>
    rw [ApplicationStatus.isStartable_eq_false_iff] at unready
    constructor
    · rintro ⟨⟩
      exact ⟨unready, _, List.mem_cons_self, rfl⟩
    · rintro ⟨-, snapshot, answered, rfl⟩
      obtain ⟨rfl, rfl⟩ : app = _ ∧ snapshot = _ := by simpa using answered
      rfl
  | startFailed _ _ _ _ ready | started _ _ _ _ ready =>
    rw [ApplicationStatus.isStartable_eq_true_iff] at ready
    refine iff_of_false (by simp) ?_
    rintro ⟨unready, snapshot, answered, rfl⟩
    obtain ⟨-, rfl⟩ : _ ∧ snapshot = _ := by simpa using answered
    exact unready ready

/-- A failure is that of the extraction, of the describe call or of the start call, and its message
is the message of that error. -/
theorem Handling.eq_failed_iff (h : Handling plane event state outcome journal)
    (message : String) :
    outcome = .failed message ↔
      event.IsActionable ∧
        ((∃ e, event.applicationRef = .error e ∧ e.message = message) ∨
          (∃ app e, Call.describe app (.error e) ∈ journal.calls ∧ e.message = message) ∨
            ∃ app e, Call.start app (.error e) ∈ journal.calls ∧ e.message = message) := by
  cases h with
  | missingDetail absent => simp [ChangeEvent.not_isActionable_of_absent absent]
  | nameNotHandled present idle => simp [ChangeEvent.isActionable_iff_of_present present, idle]
  | notExtracted present acted target | describeFailed present acted target
  | filtered present acted target | startFailed present acted target
  | started present acted target =>
    simp [ChangeEvent.isActionable_iff_of_present present, acted, target, and_assoc]

theorem Handling.eq_ignoredMissingDetail_iff (h : Handling plane event state outcome journal) :
    outcome = .ignoredMissingDetail ↔ event.detail = none := by
  cases h with
  | missingDetail absent => simp [absent]
  | nameNotHandled present | notExtracted present | describeFailed present | filtered present
  | startFailed present | started present => simp [present]

theorem Handling.eq_ignoredEventName_iff (h : Handling plane event state outcome journal)
    (name : String) :
    outcome = .ignoredEventName name ↔
      ∃ detail, event.detail = some detail ∧ detail.kind.isActionable = false ∧
        detail.kind.text = name := by
  cases h with
  | missingDetail absent => simp [absent]
  | nameNotHandled present idle => simp [present, idle]
  | notExtracted present acted | describeFailed present acted | filtered present acted
  | startFailed present acted | started present acted => simp [present, acted]

theorem Handling.ne_ignoredUnrecognizedShape (h : Handling plane event state outcome journal) :
    outcome ≠ .ignoredUnrecognizedShape := by
  cases h <;> simp

/-! ### The whole of a handling -/

/-- Against any plane, in any state of it, an event leads to no call, to a describe call or to a
describe and a start call, each for the application of the event and with the answer of the plane at
that moment; and the outcome is the one that the event and these answers stand for. -/
theorem handle_follows_answers (plane : ControlPlane σ) (event : ChangeEvent) (state : σ) :
    let outcome := (plane.handle event state).1
    let journal := (plane.handle event state).2
    ((journal.calls = [] ∧ journal.state = state) ∨
      ∃ app, event.applicationRef = .ok app ∧
        let described := plane.describe app state
        let started := plane.start app described.state
        (journal.calls = [.describe app described.result] ∧ journal.state = described.state ∨
          journal.calls = [.describe app described.result, .start app started.result] ∧
            journal.state = started.state)) ∧
    (journal.calls = [] ↔
      event.detail = none ∨
        (∃ detail, event.detail = some detail ∧ detail.kind.isActionable = false) ∨
          ∃ e, event.applicationRef = .error e) ∧
    (∀ app, (∃ result, Call.start app result ∈ journal.calls) ↔
      ∃ snapshot, Call.describe app (.ok snapshot) ∈ journal.calls ∧ snapshot.status = .ready) ∧
    (∀ app, outcome = .startRequested app ↔ Call.start app (.ok ()) ∈ journal.calls) ∧
    (∀ app status, outcome = .statusFiltered app status ↔
      status ≠ .ready ∧
        ∃ snapshot, Call.describe app (.ok snapshot) ∈ journal.calls ∧
          snapshot.status = status) ∧
    (∀ message, outcome = .failed message ↔
      event.IsActionable ∧
        ((∃ e, event.applicationRef = .error e ∧ e.message = message) ∨
          (∃ app e, Call.describe app (.error e) ∈ journal.calls ∧ e.message = message) ∨
            ∃ app e, Call.start app (.error e) ∈ journal.calls ∧ e.message = message)) ∧
    (outcome = .ignoredMissingDetail ↔ event.detail = none) ∧
    (∀ name, outcome = .ignoredEventName name ↔
      ∃ detail, event.detail = some detail ∧ detail.kind.isActionable = false ∧
        detail.kind.text = name) ∧
    outcome ≠ .ignoredUnrecognizedShape := by
  have h := handling plane event state
  exact ⟨h.calls_cases, h.calls_eq_nil_iff, h.exists_start_iff, h.eq_startRequested_iff,
    h.eq_statusFiltered_iff, h.eq_failed_iff, h.eq_ignoredMissingDetail_iff,
    h.eq_ignoredEventName_iff, h.ne_ignoredUnrecognizedShape⟩

end StartOnReady.ControlPlane
