import StartOnReady.Proofs.Scripted.Interleaving

/-!
# The course of a task

What a task can have done at each point, and what it has done when it ends, whatever the other
tasks do in between.  `Keeps inv post p deeds` says that `inv` holds of the deeds all along the
program `p` and `post` at its end, whatever shared state each access meets, as long as no error is
injected.  `keeps_program` says so of the handling of any event, for the invariant `Course` and the
postcondition `Ends`.
-/

namespace StartOnReady.Scripted

open Effects (Program)

/-- Whether no injected error waits for a call. -/
def State.IsQuiet (s : State) : Prop := s.nextDescribeError = none ∧ s.nextStartError = none

/-! ### Programs over a changing state -/

section Keeps

variable {α β : Type}

/-- Whether an invariant of the deeds holds all along a program, and a postcondition at its end. -/
def Keeps (inv : List Deed → Prop) (post : α → List Deed → Prop) :
    Program Acts α → List Deed → Prop
  | .done a, deeds => inv deeds ∧ post a deeds
  | .ask (.access a) next, deeds => inv deeds ∧
    ∀ met : State, met.IsQuiet →
      Keeps inv post (next (access a met).1) (deeds ++ [.performed a met])
  | .ask (.returned call) next, deeds => inv deeds ∧
    Keeps inv post (next ()) (deeds ++ [.returned call])

variable {inv : List Deed → Prop} {mid : α → List Deed → Prop} {post : β → List Deed → Prop}

theorem Keeps.holds {p : Program Acts α} {deeds : List Deed} (h : Keeps inv mid p deeds) :
    inv deeds := by
  rcases p with a | ⟨_ | _, next⟩ <;> exact h.1

theorem Keeps.bind {p : Program Acts α} {f : α → Program Acts β} {deeds : List Deed}
    (first : Keeps inv mid p deeds)
    (rest : ∀ a deeds, inv deeds → mid a deeds → Keeps inv post (f a) deeds) :
    Keeps inv post (p.bind f) deeds := by
  induction p generalizing deeds with
  | done a => exact rest a deeds first.1 first.2
  | ask act next ih =>
    rcases act with a | call
    · exact ⟨first.1, fun met quiet => ih _ (first.2 met quiet)⟩
    · exact ⟨first.1, ih _ first.2⟩

end Keeps

/-! ### Deeds that leave the statuses alone -/

/-- Whether a deed belongs to no start call behind its error slot. -/
def Deed.isStill : Deed → Bool
  | performed (.claimStart _) _ | performed (.recordStart _) _ | returned (.start _ _) => false
  | _ => true

/-- Whether no claim was made, no start recorded and no start call returned. -/
def Still (deeds : List Deed) : Prop := ∀ deed ∈ deeds, deed.isStill = true

theorem Still.nil : Still [] := fun _ h => absurd h List.not_mem_nil

theorem Still.append {deeds : List Deed} (h : Still deeds) {deed : Deed}
    (still : deed.isStill = true) : Still (deeds ++ [deed]) := by
  intro d hd
  rcases List.mem_append.1 hd with hd | hd
  · exact h d hd
  · rw [List.mem_singleton.1 hd]
    exact still

/-! ### Courses -/

/-- The claim of an application. -/
def claimOf (app : ApplicationRef) (met : State) : Deed := .performed (.claimStart app.name) met

/-- The record of a start call whose claim met a state. -/
def recordOf (app : ApplicationRef) (met met' : State) : Deed :=
  .performed (.recordStart ⟨app, succeeded (startResult app (met.status app.name))⟩) met'

/-- The return of a start call whose claim met a state. -/
def returnOf (app : ApplicationRef) (met : State) : Deed :=
  .returned (.start app (startResult app (met.status app.name)))

/-- What the task of an event can have done: nothing that matters, or a claim of its application,
followed in this order by the record and the return of the same call. -/
inductive Course (event : ChangeEvent) : List Deed → Prop
  | still {deeds : List Deed} (still : Still deeds) : Course event deeds
  | claimed {deeds : List Deed} {app : ApplicationRef} (met : State) (acted : event.IsActionable)
      (target : event.applicationRef = .ok app) (still : Still deeds) :
      Course event (deeds ++ [claimOf app met])
  | recorded {deeds : List Deed} {app : ApplicationRef} (met met' : State)
      (acted : event.IsActionable) (target : event.applicationRef = .ok app)
      (still : Still deeds) : Course event (deeds ++ [claimOf app met] ++ [recordOf app met met'])
  | returned {deeds : List Deed} {app : ApplicationRef} (met met' : State)
      (acted : event.IsActionable) (target : event.applicationRef = .ok app)
      (still : Still deeds) :
      Course event (deeds ++ [claimOf app met] ++ [recordOf app met met'] ++ [returnOf app met])

/-- The outcome for a status other than ready. -/
def unreadyOutcome (app : ApplicationRef) : Option ApplicationStatus → Outcome
  | none => .failed (ControlPlaneError.notFound app.display).message
  | some status => .statusFiltered app status

/-- The outcome of a start call that met a status. -/
def startOutcome (app : ApplicationRef) (seen : Option ApplicationStatus) : Outcome :=
  match startResult app seen with
  | .ok () => .startRequested app
  | .error e => .failed e.message

/-- The outcomes of the task of an event with all that it has done. -/
inductive Ends (event : ChangeEvent) : Outcome → List Deed → Prop
  | passed {outcome : Outcome}
      (idle : ¬ (event.IsActionable ∧ ∃ app, event.applicationRef = .ok app))
      (unasked : ∀ app, outcome ≠ .startRequested app) : Ends event outcome []
  | unready {deeds : List Deed} {app : ApplicationRef} {met : State} (acted : event.IsActionable)
      (target : event.applicationRef = .ok app) (still : Still deeds)
      (seen : .performed (.readStatus app.name) met ∈ deeds)
      (unready : met.status app.name ≠ some .ready) :
      Ends event (unreadyOutcome app (met.status app.name)) deeds
  | asked {deeds : List Deed} {app : ApplicationRef} (met met' : State)
      (acted : event.IsActionable) (target : event.applicationRef = .ok app)
      (still : Still deeds) :
      Ends event (startOutcome app (met.status app.name))
        (deeds ++ [claimOf app met] ++ [recordOf app met met'] ++ [returnOf app met])

/-! ### Calls -/

variable {event : ChangeEvent} {app : ApplicationRef} {deeds : List Deed}

/-- The result of a describe call that read a status. -/
def describeResult (app : ApplicationRef) :
    Option ApplicationStatus → Except ControlPlaneError ApplicationSnapshot
  | none => .error (.notFound app.display)
  | some status => .ok ⟨app.name, status, some 1⟩

/-- How every describe call ends. -/
theorem keeps_recordDescribe (call : RecordedCall)
    (result : Except ControlPlaneError ApplicationSnapshot)
    {post : Except ControlPlaneError ApplicationSnapshot → List Deed → Prop} (still : Still deeds)
    (ends : ∀ deeds', Still deeds' → deeds ⊆ deeds' → post result deeds') :
    Keeps (Course event) post
      (.ask (.access (.recordDescribe call)) fun _ =>
        .ask (.returned (.describe app result)) fun _ => .done result) deeds := by
  refine And.intro (.still still) fun met _ => ?_
  have still₁ := still.append (show (Deed.performed (.recordDescribe call) met).isStill from rfl)
  have still₂ := still₁.append (show (Deed.returned (.describe app result)).isStill from rfl)
  refine And.intro (.still still₁) (And.intro (.still still₂) (ends _ still₂ ?_))
  rw [List.append_assoc]
  exact List.subset_append_left _ _

theorem keeps_serve_describe (app : ApplicationRef) (still : Still deeds) :
    Keeps (Course event)
      (fun result deeds => Still deeds ∧ ∃ met, .performed (.readStatus app.name) met ∈ deeds ∧
        result = describeResult app (met.status app.name))
      (serve (.describe app)) deeds := by
  refine And.intro (.still still) fun met₁ quiet => ?_
  have free : (access .takeDescribeError met₁).1 = none := quiet.1
  have still₁ : Still (deeds ++ [.performed .takeDescribeError met₁]) := still.append rfl
  rw [free]
  refine And.intro (.still still₁) fun met _ => ?_
  have still₂ := still₁.append (show (Deed.performed (.readStatus app.name) met).isStill from rfl)
  have read : (access (.readStatus app.name) met).1 = met.status app.name := rfl
  rw [read]
  -- The two ways differ in the record and in the result alone.
  cases seen : met.status app.name with
  | none =>
    refine keeps_recordDescribe ⟨app, false⟩ _ still₂ fun deeds' still' earlier => ?_
    exact ⟨still', met, earlier (by simp), by rw [seen]; rfl⟩
  | some status =>
    refine keeps_recordDescribe ⟨app, true⟩ _ still₂ fun deeds' still' earlier => ?_
    exact ⟨still', met, earlier (by simp), by rw [seen]; rfl⟩

/-- Behind the error slot a start call is three acts in a row. -/
theorem keeps_serve_start (acted : event.IsActionable) (target : event.applicationRef = .ok app)
    (still : Still deeds) :
    Keeps (Course event)
      (fun result deeds' => ∃ met met' deeds, Still deeds ∧
        result = startResult app (met.status app.name) ∧
        deeds' = deeds ++ [claimOf app met] ++ [recordOf app met met'] ++ [returnOf app met])
      (serve (.start app)) deeds := by
  refine And.intro (.still still) fun met₁ quiet => ?_
  have free : (access .takeStartError met₁).1 = none := quiet.2
  have still₁ : Still (deeds ++ [.performed .takeStartError met₁]) := still.append rfl
  rw [free]
  refine And.intro (.still still₁) fun met _ => ?_
  refine And.intro (.claimed met acted target still₁) fun met' _ => ?_
  refine And.intro (.recorded met met' acted target still₁) ?_
  exact And.intro (.returned met met' acted target still₁) ⟨met, met', _, still₁, rfl, rfl⟩

/-! ### The handling of an event -/

/-- Records are no acts. -/
theorem interpret_log {α : Type} (record : Log.Record) (p : Program Calls α) :
    (log record >>= fun _ => p).interpret serve = p.interpret serve := rfl

theorem interpret_bind {α β : Type} (p : Program Calls α) (f : α → Program Calls β) :
    (p >>= f).interpret serve = (p.interpret serve).bind fun a => (f a).interpret serve :=
  Program.interpret_bind (I := Calls) (J := Acts) serve p f

/-- The outcome that a result of the last step stands for. -/
def outcomeOf : Except HandlerError Outcome → Outcome
  | .ok outcome => outcome
  | .error e => .failed e.message

theorem keeps_startIfReady (acted : event.IsActionable)
    (target : event.applicationRef = .ok app) :
    Keeps (Course event) (fun result deeds => Ends event (outcomeOf result) deeds)
      ((startIfReady plane.name app).interpret serve) [] := by
  refine Keeps.bind (keeps_serve_describe app Still.nil) ?_
  rintro result deeds course ⟨still, met, seen, rfl⟩
  have unready := Ends.unready acted target still seen
  cases read : met.status app.name with
  | none =>
    rw [read] at unready
    exact ⟨course, unready nofun⟩
  | some status =>
    rw [read] at unready
    simp only [describeResult, Program.bind]
    cases ready : status.isStartable with
    | false =>
      rw [ApplicationStatus.isStartable_eq_false_iff] at ready
      simp only [Bool.false_eq_true, if_false]
      exact ⟨course, unready fun same => ready (Option.some.inj same)⟩
    | true =>
      simp only [if_true, interpret_log]
      refine Keeps.bind (keeps_serve_start acted target still) ?_
      rintro result deeds course ⟨met, met', deeds, still, rfl, rfl⟩
      have asked := Ends.asked met met' acted target still
      unfold startOutcome at asked
      cases result : startResult app (met.status app.name) with
      | error e =>
        rw [result] at asked
        exact ⟨course, asked⟩
      | ok _ =>
        rw [result] at asked
        exact ⟨course, asked⟩

theorem keeps_program (event : ChangeEvent) :
    Keeps (Course event) (Ends event) (Task.program event) [] := by
  unfold Task.program StartOnReady.handleEvent
  have start : Course event [] := .still Still.nil
  rcases present : event.detail with _ | detail
  · have idle := ChangeEvent.not_isActionable_of_absent present
    exact ⟨start, .passed (fun h => idle h.1) (by simp)⟩
  · have iff := ChangeEvent.isActionable_iff_of_present present
    cases acted : detail.kind.isActionable with
    | false =>
      simp only [acted, Bool.false_eq_true, if_false]
      have idle : ¬ event.IsActionable := by simp [iff, acted]
      exact ⟨start, .passed (fun h => idle h.1) (by simp)⟩
    | true =>
      have acting := iff.2 acted
      simp only [acted, if_true]
      cases target : event.applicationRef with
      | error e =>
        simp only [actOn, target]
        refine ⟨start, .passed ?_ (by simp)⟩
        rintro ⟨-, app, extracted⟩
        rw [target] at extracted
        cases extracted
      | ok app =>
        simp only [actOn, target, interpret_log]
        rw [interpret_bind]
        refine Keeps.bind (keeps_startIfReady acting target) ?_
        rintro (e | outcome) deeds course ends
        · exact ⟨course, ends⟩
        · exact ⟨course, ends⟩

end StartOnReady.Scripted
