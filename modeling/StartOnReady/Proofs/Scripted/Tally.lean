import StartOnReady.Proofs.Scripted.Course

/-!
# Starts in the course of a task

How often a task changes a status from ready to starting, records a start as successful and
returns from one.  `Course.tally` orders the three numbers at every point of the task, `Ends.tally`
says that records and changes agree at its end with its outcome, and `Course.of_start_failed` says
what a start that fails has done.
-/

namespace StartOnReady.Scripted

variable {event : ChangeEvent} {outcome : Outcome} {deeds : List Deed} {app : ApplicationRef}

/-! ### Single accesses -/

theorem State.status_setStatus (s : State) (name name' : String) (status : ApplicationStatus) :
    (s.setStatus name status).status name' =
      if name' = name then some status else s.status name' :=
  Keyed.find?_insert name name' status s.statuses

/-- An access changes no status, but for a claim that meets a ready application. -/
theorem access_status (a : Access) (met : State) (name : String) :
    (access a met).2.status name = met.status name ∨
      a = .claimStart name ∧ met.status name = some .ready ∧
        (access a met).2.status name = some .starting := by
  cases a with
  | claimStart other =>
    simp only [access]
    by_cases ready : met.status other = some .ready
    · rw [if_pos ready, State.status_setStatus]
      by_cases same : name = other
      · subst same
        exact Or.inr ⟨rfl, ready, if_pos rfl⟩
      · exact Or.inl (if_neg same)
    · rw [if_neg ready]
      exact Or.inl rfl
  | takeDescribeError | takeStartError | readStatus _ | recordDescribe _ | recordStart _ =>
    exact Or.inl rfl

/-- A change is a claim that meets a ready application. -/
theorem isChange_performed_iff (a : Access) (met : State) (name : String) :
    (Deed.performed a met).isChange name = true ↔
      a = .claimStart name ∧ met.status name = some .ready := by
  simp only [Deed.isChange, Bool.and_eq_true, decide_eq_true_eq]
  constructor
  · rintro ⟨ready, starting⟩
    rcases access_status a met name with same | ⟨claim, -, -⟩
    · rw [same, ready] at starting
      cases starting
    · exact ⟨claim, ready⟩
  · rintro ⟨rfl, ready⟩
    refine ⟨ready, ?_⟩
    rw [access, if_pos ready, State.status_setStatus, if_pos rfl]

/-- Either an access is no change and leaves the status, or it is one from ready to starting. -/
theorem isChange_cases (a : Access) (met : State) (name : String) :
    (Deed.performed a met).isChange name = false ∧
        (access a met).2.status name = met.status name ∨
      (Deed.performed a met).isChange name = true ∧ met.status name = some .ready ∧
        (access a met).2.status name = some .starting := by
  rcases access_status a met name with same | ⟨claim, ready, starting⟩
  · refine Or.inl ⟨?_, same⟩
    rw [Bool.eq_false_iff]
    intro change
    simp only [Deed.isChange, same, Bool.and_eq_true, decide_eq_true_eq] at change
    cases change.1.symm.trans change.2
  · exact Or.inr ⟨(isChange_performed_iff a met name).2 ⟨claim, ready⟩, ready, starting⟩

/-! ### Single deeds -/

/-- Whether a start of an application of this name succeeds if its claim meets a state. -/
def wins (name : String) (app : ApplicationRef) (met : State) : Bool :=
  met.status app.name = some .ready && app.name == name

theorem succeeded_startResult (app : ApplicationRef) (seen : Option ApplicationStatus) :
    succeeded (startResult app seen) = decide (seen = some .ready) := by
  rcases seen with _ | status
  · rfl
  · cases status <;> simp [startResult, succeeded]

theorem isChange_claimOf (name : String) (app : ApplicationRef) (met : State) :
    (claimOf app met).isChange name = wins name app met := by
  rw [Bool.eq_iff_iff, claimOf, isChange_performed_iff]
  simp only [wins, Access.claimStart.injEq, Bool.and_eq_true, decide_eq_true_eq, beq_iff_eq]
  constructor
  · rintro ⟨rfl, ready⟩
    exact ⟨ready, rfl⟩
  · rintro ⟨ready, rfl⟩
    exact ⟨rfl, ready⟩

theorem isRecord_recordOf (name : String) (app : ApplicationRef) (met met' : State) :
    (recordOf app met met').isRecord name = wins name app met := by
  simp only [recordOf, Deed.isRecord, succeeded_startResult, wins]

theorem isSuccess_returnOf (name : String) (app : ApplicationRef) (met : State) :
    (returnOf app met).isSuccess name = wins name app met := by
  unfold returnOf Deed.isSuccess wins
  rcases met.status app.name with _ | status
  · rfl
  · cases status <;> simp [startResult]

@[simp] theorem isChange_recordOf (name : String) (app : ApplicationRef) (met met' : State) :
    (recordOf app met met').isChange name = false := by
  rw [Bool.eq_false_iff, recordOf, Ne, isChange_performed_iff]
  rintro ⟨claim, -⟩
  cases claim

@[simp] theorem isChange_returnOf (name : String) (app : ApplicationRef) (met : State) :
    (returnOf app met).isChange name = false := rfl

@[simp] theorem isRecord_claimOf (name : String) (app : ApplicationRef) (met : State) :
    (claimOf app met).isRecord name = false := rfl

@[simp] theorem isRecord_returnOf (name : String) (app : ApplicationRef) (met : State) :
    (returnOf app met).isRecord name = false := rfl

@[simp] theorem isSuccess_claimOf (name : String) (app : ApplicationRef) (met : State) :
    (claimOf app met).isSuccess name = false := rfl

@[simp] theorem isSuccess_recordOf (name : String) (app : ApplicationRef) (met met' : State) :
    (recordOf app met met').isSuccess name = false := rfl

/-! ### Deeds in a row -/

theorem Still.countP_eq_zero (h : Still deeds) {sort : Deed → Bool}
    (foreign : ∀ deed, sort deed = true → deed.isStill = false) : deeds.countP sort = 0 := by
  rw [List.countP_eq_zero]
  intro deed done counted
  exact Bool.false_ne_true ((foreign deed counted).symm.trans (h deed done))

theorem Still.countP_isChange (h : Still deeds) (name : String) :
    deeds.countP (Deed.isChange name) = 0 := by
  refine h.countP_eq_zero ?_
  rintro (⟨a, met⟩ | call) change
  · obtain ⟨rfl, -⟩ := (isChange_performed_iff a met name).1 change
    rfl
  · cases change

theorem Still.countP_isRecord (h : Still deeds) (name : String) :
    deeds.countP (Deed.isRecord name) = 0 := by
  refine h.countP_eq_zero fun deed record => ?_
  unfold Deed.isRecord at record
  split at record
  · rfl
  · cases record

theorem Still.countP_isSuccess (h : Still deeds) (name : String) :
    deeds.countP (Deed.isSuccess name) = 0 := by
  refine h.countP_eq_zero fun deed success => ?_
  unfold Deed.isSuccess at success
  split at success
  · rfl
  · cases success

/-- At every point a task has returned from at most as many starts as it has recorded, and recorded
at most as many as it has changed statuses. -/
theorem Course.tally (h : Course event deeds) (name : String) :
    deeds.countP (Deed.isSuccess name) ≤ deeds.countP (Deed.isRecord name) ∧
      deeds.countP (Deed.isRecord name) ≤ deeds.countP (Deed.isChange name) := by
  cases h with
  | still still =>
    rw [still.countP_isSuccess, still.countP_isRecord, still.countP_isChange]
    exact ⟨Nat.le_refl 0, Nat.le_refl 0⟩
  | claimed met _ _ still | recorded met met' _ _ still | returned met met' _ _ still =>
    simp [List.countP_append, List.countP_cons, still.countP_isSuccess, still.countP_isRecord,
      still.countP_isChange, isChange_claimOf, isRecord_recordOf, isSuccess_returnOf]

theorem requests_unreadyOutcome (name : String) (app : ApplicationRef)
    (seen : Option ApplicationStatus) : requests name (unreadyOutcome app seen) = false := by
  cases seen <;> rfl

theorem requests_startOutcome (name : String) (app : ApplicationRef) (met : State) :
    requests name (startOutcome app (met.status app.name)) = wins name app met := by
  unfold startOutcome wins
  rcases met.status app.name with _ | status
  · rfl
  · cases status <;> simp [startResult, requests]

/-- At its end a task has recorded one start and changed one status if its outcome is a start, and
none otherwise. -/
theorem Ends.tally (h : Ends event outcome deeds) (name : String) :
    deeds.countP (Deed.isRecord name) = (requests name outcome).toNat ∧
      deeds.countP (Deed.isChange name) = (requests name outcome).toNat := by
  cases h with
  | passed idle unasked =>
    have silent : requests name outcome = false := by
      unfold requests
      split
      · exact absurd rfl (unasked _)
      · rfl
    rw [silent]
    exact ⟨rfl, rfl⟩
  | unready _ _ still =>
    rw [still.countP_isRecord, still.countP_isChange, requests_unreadyOutcome]
    exact ⟨rfl, rfl⟩
  | asked met met' _ _ still =>
    rw [requests_startOutcome]
    simp [List.countP_append, List.countP_cons, still.countP_isRecord, still.countP_isChange,
      isChange_claimOf, isRecord_recordOf, Bool.toNat, Bool.cond_eq_ite]

/-! ### Whom a task starts -/

/-- A task changes the status of the application of its event only. -/
theorem Course.countP_isChange_eq_zero (h : Course event deeds) {name : String}
    (other : ¬ IsAbout name event) : deeds.countP (Deed.isChange name) = 0 := by
  cases h with
  | still still => exact still.countP_isChange name
  | claimed met acted target still | recorded met met' acted target still
  | returned met met' acted target still =>
    have elsewhere : _ ≠ name := fun same => other ⟨acted, _, target, same⟩
    simp [List.countP_append, still.countP_isChange, isChange_claimOf, wins, elsewhere]

/-! ### Starts that fail -/

/-- What a start call that fails answers. -/
def IsRefusal (app : ApplicationRef) (e : ControlPlaneError) : Prop :=
  e = .notFound app.display ∨
    ∃ status : ApplicationStatus, e = .conflict app.display ("application is " ++ status.text)

theorem startResult_eq_error {seen : Option ApplicationStatus} {e : ControlPlaneError}
    (failed : startResult app seen = .error e) : seen ≠ some .ready ∧ IsRefusal app e := by
  rcases seen with _ | status
  · cases failed
    exact ⟨nofun, Or.inl rfl⟩
  · cases status <;> cases failed <;> exact ⟨nofun, Or.inr ⟨_, rfl⟩⟩

/-- Nothing that a task has done changed a status. -/
def Unchanging (deeds : List Deed) : Prop :=
  ∀ a met, Deed.performed a met ∈ deeds → (access a met).2.statuses = met.statuses

theorem Still.unchanging (h : Still deeds) : Unchanging deeds := by
  intro a met done
  cases a with
  | claimStart name => exact absurd (h _ done) Bool.false_ne_true
  | takeDescribeError | takeStartError | readStatus _ | recordDescribe _ | recordStart _ => rfl

/-- A task that has returned from a start has done nothing since. -/
theorem Course.of_returned_start (h : Course event deeds)
    {result : Except ControlPlaneError Unit} (done : .returned (.start app result) ∈ deeds) :
    ∃ before met met', Still before ∧ result = startResult app (met.status app.name) ∧
      deeds = before ++ [claimOf app met] ++ [recordOf app met met'] ++ [returnOf app met] := by
  cases h with
  | still still => exact absurd (still _ done) Bool.false_ne_true
  | claimed met _ _ still | recorded met met' _ _ still =>
    simp only [List.mem_append, List.mem_singleton, claimOf, recordOf, reduceCtorEq,
      or_false] at done
    exact absurd (still _ done) Bool.false_ne_true
  | returned met met' _ _ still =>
    simp only [List.mem_append, List.mem_singleton, claimOf, recordOf, reduceCtorEq,
      or_false] at done
    rcases done with before | same
    · exact absurd (still _ before) Bool.false_ne_true
    · obtain ⟨rfl, rfl⟩ : app = _ ∧ result = _ := by simpa [returnOf] using same
      exact ⟨_, met, met', still, rfl, rfl⟩

/-- A start call that fails says that the application is not there or in conflict, and its task has
changed no status. -/
theorem Course.of_start_failed (h : Course event deeds) {e : ControlPlaneError}
    (failed : .returned (.start app (.error e)) ∈ deeds) : IsRefusal app e ∧ Unchanging deeds := by
  obtain ⟨before, met, met', still, result, rfl⟩ := h.of_returned_start failed
  obtain ⟨unready, refusal⟩ := startResult_eq_error result.symm
  refine ⟨refusal, fun a seen done => ?_⟩
  simp only [List.mem_append, List.mem_singleton, claimOf, recordOf, returnOf, reduceCtorEq,
    or_false, Deed.performed.injEq] at done
  rcases done with (before | ⟨rfl, rfl⟩) | ⟨rfl, rfl⟩
  · exact still.unchanging a seen before
  · rw [access, if_neg unready]
  · rfl

end StartOnReady.Scripted
