import StartOnReady.Event.Sample
import StartOnReady.Proofs.Handler.Whitelist
import StartOnReady.Proofs.Scripted.History

/-!
# Injected errors

Which calls of a session fail with an injected error, and with which one.  An injection is `Unmet`
at a later place of the history if no call of its kind was made in between; a call meets the latest
such injection, and without one it has the answer that follows from the status.

* `pending_eq_some_iff`: what waits in a slot, by the history alone.
* `Surfaces.unique`, `Unmet.not_surfaces`: no injection surfaces twice, and one that was replaced
  never does.
* `historyOf_injections`: all this for every session, with the steps that leave the slots alone.
-/

namespace StartOnReady.Scripted

/-! ### Injections that have met no call -/

/-- Whether an error was injected at one place of a history and no call of its kind was made from
there up to another place. -/
structure Unmet (history : List Happening) (kind : CallKind) (error : ControlPlaneError)
    (set place : Nat) : Prop where
  earlier : set < place
  injected : history[set]? = some (.injected kind error)
  uncalled : ∀ between call, set < between → between < place →
    history[between]? = some (.called call) → call.kind ≠ kind

/-- Whether an injection is the latest one that has met no call. -/
def IsLatest (history : List Happening) (kind : CallKind) (error : ControlPlaneError)
    (set place : Nat) : Prop :=
  Unmet history kind error set place ∧
    ∀ error' set', Unmet history kind error' set' place → set' ≤ set

/-- Whether an injected error is met by the call at a place. -/
def Surfaces (history : List Happening) (kind : CallKind) (error : ControlPlaneError)
    (set place : Nat) : Prop :=
  IsLatest history kind error set place ∧
    ∃ call, history[place]? = some (.called call) ∧ call.kind = kind

variable {history : List Happening} {kind : CallKind} {error error' : ControlPlaneError}
  {set set' place place' : Nat}

/-- Places beyond the end of a part of the history do not matter. -/
theorem unmet_take_iff : Unmet (history.take place) kind error set place ↔
    Unmet history kind error set place := by
  have same {i : Nat} (inside : i < place) : (history.take place)[i]? = history[i]? :=
    List.getElem?_take_of_lt inside
  constructor
  · rintro ⟨earlier, injected, uncalled⟩
    refine ⟨earlier, (same earlier).symm.trans injected, fun between call after before here => ?_⟩
    exact uncalled between call after before ((same before).trans here)
  · rintro ⟨earlier, injected, uncalled⟩
    refine ⟨earlier, (same earlier).trans injected, fun between call after before here => ?_⟩
    exact uncalled between call after before ((same before).symm.trans here)

/-- One more happening either is the injection itself or lets earlier injections be unless it is a
call of their kind. -/
theorem unmet_concat_iff (h : Happening) :
    Unmet (history ++ [h]) kind error set (history.length + 1) ↔
      (set = history.length ∧ h = .injected kind error) ∨
        ((∀ call, h = .called call → call.kind ≠ kind) ∧
          Unmet history kind error set history.length) := by
  have last : (history ++ [h])[history.length]? = some h := List.getElem?_concat_length
  have same {i : Nat} (inside : i < history.length) : (history ++ [h])[i]? = history[i]? :=
    List.getElem?_append_left inside
  constructor
  · rintro ⟨earlier, injected, uncalled⟩
    rcases Nat.lt_or_eq_of_le (Nat.lt_succ_iff.1 earlier) with inside | rfl
    · refine Or.inr ⟨?_, inside, (same inside).symm.trans injected, ?_⟩
      · rintro call rfl
        exact uncalled history.length call inside (Nat.lt_succ_self _) last
      · intro between call after before here
        exact uncalled between call after (Nat.lt_succ_of_lt before) ((same before).trans here)
    · exact Or.inl ⟨rfl, Option.some.inj (last.symm.trans injected)⟩
  · rintro (⟨rfl, rfl⟩ | ⟨other, inside, injected, uncalled⟩)
    · refine ⟨Nat.lt_succ_self _, last, fun between call after before => ?_⟩
      omega
    · refine ⟨Nat.lt_succ_of_lt inside, (same inside).trans injected, ?_⟩
      intro between call after before here
      rcases Nat.lt_or_eq_of_le (Nat.lt_succ_iff.1 before) with before | rfl
      · exact uncalled between call after before ((same before).symm.trans here)
      · exact other call (Option.some.inj (last.symm.trans here))

theorem unmet_concat_of_foreign {h : Happening} (foreign : h.kind? ≠ some kind) :
    Unmet (history ++ [h]) kind error set (history.length + 1) ↔
      Unmet history kind error set history.length := by
  rw [unmet_concat_iff]
  constructor
  · rintro (⟨-, rfl⟩ | ⟨-, older⟩)
    · exact absurd rfl foreign
    · exact older
  · intro older
    refine Or.inr ⟨?_, older⟩
    rintro call rfl same
    exact foreign (congrArg some same)

theorem not_unmet_concat_called {call : Call} (same : call.kind = kind) :
    ¬ Unmet (history ++ [.called call]) kind error set (history.length + 1) := by
  rw [unmet_concat_iff]
  rintro (⟨-, injected⟩ | ⟨other, -⟩)
  · cases injected
  · exact other call rfl same

/-- A new injection is the latest one. -/
theorem exists_isLatest_concat_injected :
    (∃ set, IsLatest (history ++ [.injected kind error']) kind error set (history.length + 1)) ↔
      error' = error := by
  have newest : Unmet (history ++ [.injected kind error']) kind error' history.length
      (history.length + 1) := (unmet_concat_iff _).2 (Or.inl ⟨rfl, rfl⟩)
  constructor
  · rintro ⟨set, unmet, latest⟩
    rcases (unmet_concat_iff _).1 unmet with ⟨-, same⟩ | ⟨-, older⟩
    · cases same
      rfl
    · exact absurd older.earlier (Nat.not_lt.2 (latest _ _ newest))
  · rintro rfl
    exact ⟨_, newest, fun _ _ unmet => Nat.lt_succ_iff.1 unmet.earlier⟩

/-! ### Slots -/

/-- What waits in a slot is the latest injection of the kind that has met no call. -/
theorem pending_eq_some_iff (history : List Happening) (kind : CallKind)
    (error : ControlPlaneError) :
    (State.through {} history).pending kind = some error ↔
      ∃ set, IsLatest history kind error set history.length := by
  -- On the length of the history, from its end: the last happening decides the slot or leaves it.
  induction history using List.reverseRecOn generalizing error with
  | nil =>
    have empty : (State.through {} []).pending kind = none := by cases kind <;> rfl
    rw [empty]
    refine iff_of_false nofun ?_
    rintro ⟨set, unmet, -⟩
    exact Nat.not_lt_zero set unmet.earlier
  | append_singleton history h ih =>
    rw [State.through_concat, State.pending_next, List.length_append, List.length_singleton]
    by_cases concerned : h.kind? = some kind
    · rw [if_pos concerned]
      cases h with
      | statusSet name status => cases concerned
      | injected kind' error' =>
        obtain rfl : kind' = kind := Option.some.inj concerned
        rw [exists_isLatest_concat_injected]
        exact Option.some_inj
      | called call =>
        refine iff_of_false nofun ?_
        rintro ⟨set, unmet, -⟩
        exact not_unmet_concat_called (Option.some.inj concerned) unmet
    · rw [if_neg concerned]
      simpa only [IsLatest, unmet_concat_of_foreign concerned] using ih error

/-- What a call meets in its slot. -/
theorem pending_take_iff (inside : place ≤ history.length) :
    (State.through {} (history.take place)).pending kind = some error ↔
      ∃ set, IsLatest history kind error set place := by
  have length : (history.take place).length = place := List.length_take_of_le inside
  rw [pending_eq_some_iff, length]
  simp only [IsLatest, unmet_take_iff]

/-- If some injection has met no call, one of them is the latest. -/
theorem Unmet.exists_latest (h : Unmet history kind error set place) :
    ∃ error' set', IsLatest history kind error' set' place := by
  -- A later one is nearer to the place, so that the search for them ends.
  induction distance : place - set using Nat.strong_induction_on generalizing error set with
  | _ n ih =>
    by_cases later : ∃ error' set', set < set' ∧ Unmet history kind error' set' place
    · obtain ⟨error', set', after, newer⟩ := later
      have := newer.earlier
      exact ih (place - set') (by omega) newer rfl
    · refine ⟨error, set, h, fun error' set' unmet => Nat.not_lt.1 fun after => ?_⟩
      exact later ⟨error', set', after, unmet⟩

/-! ### What surfaces -/

theorem Unmet.not_lt_of_call (h : Unmet history kind error set place) {call : Call}
    (called : history[place']? = some (.called call)) (same : call.kind = kind)
    (after : set < place') : place ≤ place' :=
  Nat.not_lt.1 fun before => h.uncalled place' call after before called same

/-- An injection surfaces in one call only. -/
theorem Surfaces.unique (h : Surfaces history kind error set place)
    (h' : Surfaces history kind error set place') : place = place' := by
  obtain ⟨⟨unmet, -⟩, call, called, same⟩ := h
  obtain ⟨⟨unmet', -⟩, call', called', same'⟩ := h'
  exact Nat.le_antisymm (unmet.not_lt_of_call called' same' unmet'.earlier)
    (unmet'.not_lt_of_call called same unmet.earlier)

/-- An injection that is followed by another one before it has met a call never surfaces. -/
theorem Unmet.not_surfaces {again : Nat} (h : Unmet history kind error set again)
    (replaced : history[again]? = some (.injected kind error')) :
    ¬ Surfaces history kind error set place := by
  rintro ⟨⟨unmet, latest⟩, call, called, same⟩
  have le : again ≤ place := h.not_lt_of_call called same unmet.earlier
  rcases Nat.lt_or_eq_of_le le with before | rfl
  · have newer : Unmet history kind error' again place :=
      ⟨before, replaced, fun between call after =>
        unmet.uncalled between call (h.earlier.trans after)⟩
    exact absurd h.earlier (Nat.not_lt.2 (latest _ _ newer))
  · cases replaced.symm.trans called

/-! ### Calls of a session -/

/-- Whether a call fails with the injected error that it meets in the slot of its kind. -/
def FailsInjected (met : State) (call : Call) (error : ControlPlaneError) : Prop :=
  met.pending call.kind = some error ∧ call.error? = some error

/-- A call fails with the latest injected error of its kind that has met no call. -/
theorem failsInjected_iff (all : State.AnswersAll {} history) {call : Call}
    (called : history[place]? = some (.called call)) (error : ControlPlaneError) :
    FailsInjected (State.through {} (history.take place)) call error ↔
      ∃ set, IsLatest history call.kind error set place := by
  have inside : place ≤ history.length := Nat.le_of_lt (List.getElem?_eq_some_iff.1 called).1
  rw [← pending_take_iff inside]
  refine ⟨And.left, fun waiting => ⟨waiting, ?_⟩⟩
  exact (all.answers called).error?_eq waiting

theorem answersByStatus_of_free (all : State.AnswersAll {} history) {call : Call}
    (called : history[place]? = some (.called call))
    (free : ∀ error set, ¬ Unmet history call.kind error set place) :
    (State.through {} (history.take place)).AnswersByStatus call := by
  refine (all.answers called).byStatus (Option.eq_none_iff_forall_ne_some.2 fun error waiting => ?_)
  have inside : place ≤ history.length := Nat.le_of_lt (List.getElem?_eq_some_iff.1 called).1
  obtain ⟨set, unmet, -⟩ := (pending_take_iff inside).1 waiting
  exact free error set unmet

/-! ### Steps that leave the slots alone -/

section Idle

variable {s : State} {step : Step} {outcome : Outcome}

/-- A step with an outcome sets nothing. -/
theorem Step.settings_eq_nil (has : (step.take s).1.outcome? = some outcome) :
    step.settings = [] := by
  cases step with
  | setStatus _ _ | setDescribeError _ | setStartError _ => cases has
  | readStatus _ | describe _ | start _ | handle _ | handleEvent _ | invoke _ _ | readCalls => rfl

/-- Nothing happens in a step whose event is ignored. -/
theorem Step.happenings_of_ignored (has : (step.take s).1.outcome? = some outcome)
    (ignored : outcome.isActedOn = false) : step.happenings s = [] := by
  have idle : step.calls s = [] := by
    rcases Step.handling_of_outcome has with ⟨-, idle, -⟩ | ⟨event, journal, -, calls, -, h⟩
    · exact idle
    · rw [calls]
      refine (h.idle fun acted => ?_).1
      exact Bool.false_ne_true (ignored.symm.trans (h.isActedOn_iff.2 acted))
  rw [happenings, settings_eq_nil has, idle, List.map_nil, List.append_nil]

/-- Nothing happens in a step whose event names no application. -/
theorem Step.happenings_of_not_extracted {event : ChangeEvent} {e : EventError}
    (given : step.delivery? = some (.ok event)) (target : event.applicationRef = .error e) :
    step.happenings s = [] := by
  obtain ⟨outcome, journal, has, calls, -, h⟩ := Step.handling_of_event (s := s) given
  have idle : journal.calls = [] := h.calls_eq_nil_iff.2 (Or.inr (Or.inr ⟨e, target⟩))
  rw [happenings, settings_eq_nil has, calls, idle, List.map_nil, List.append_nil]

/-- No start is asked for in a step whose describe call fails or reports another status. -/
theorem Step.kind?_ne_start (has : (step.take s).1.outcome? = some outcome)
    (unready : ∀ app snapshot, Call.describe app (.ok snapshot) ∈ step.calls s →
      snapshot.status ≠ .ready) :
    ∀ happening ∈ step.happenings s, happening.kind? ≠ some .start := by
  intro happening member starts
  rw [happenings, settings_eq_nil has, List.nil_append] at member
  obtain ⟨call, made, rfl⟩ := List.mem_map.1 member
  cases call with
  | describe app result => cases starts
  | start app result =>
    rcases Step.handling_of_outcome has with ⟨-, idle, -⟩ | ⟨event, journal, -, calls, -, h⟩
    · rw [idle] at made
      cases made
    · rw [calls] at made unready
      obtain ⟨snapshot, answered, ready⟩ := (h.exists_start_iff app).1 ⟨result, made⟩
      exact unready app snapshot answered ready

end Idle

/-! ### Sessions -/

/-- Injected errors in the course of a session.  A call fails with an injected error exactly if one
of its kind was set and has met no call since, and then with the latest of them; every other call
has the answer that follows from the status.  No injection surfaces twice, and one that is followed
by another one before it has met a call never does.  A slot stays as it is as long as nothing of its
kind happens; nothing at all happens in steps whose event is ignored or names no application, and no
start call in steps whose describe call fails or reports another status than ready. -/
theorem historyOf_injections (steps : List Step) :
    let happened := historyOf steps {}
    (∀ place call, happened[place]? = some (.called call) →
      let met := State.through {} (happened.take place)
      met.Answers call ∧
      ((∃ error, FailsInjected met call error) ↔
        ∃ error set, Unmet happened call.kind error set place) ∧
      (∀ error, FailsInjected met call error ↔
        ∃ set, IsLatest happened call.kind error set place) ∧
      ((∀ error, ¬ FailsInjected met call error) → met.AnswersByStatus call)) ∧
    (∀ kind error set place place', Surfaces happened kind error set place →
      Surfaces happened kind error set place' → place = place') ∧
    (∀ kind error error' set again, Unmet happened kind error set again →
      happened[again]? = some (.injected kind error') →
        ∀ place, ¬ Surfaces happened kind error set place) ∧
    (∀ before stretch after, steps = before ++ stretch ++ after →
      let s := State.after {} before
      ∀ kind, (∀ happening ∈ historyOf stretch s, happening.kind? ≠ some kind) →
        (s.after stretch).pending kind = s.pending kind) ∧
    ∀ before step after, steps = before ++ step :: after →
      let s := State.after {} before
      (runSteps steps {})[before.length]? = some (step.take s) ∧
      happened = historyOf before {} ++ step.happenings s ++
        historyOf after (step.take s).2.2 ∧
      ∀ outcome, (step.take s).1.outcome? = some outcome →
        (outcome.isActedOn = false → step.happenings s = []) ∧
        (∀ event e, step.delivery? = some (.ok event) → event.applicationRef = .error e →
          step.happenings s = []) ∧
        ((∀ app snapshot, Call.describe app (.ok snapshot) ∈ step.calls s →
            snapshot.status ≠ .ready) →
          ∀ happening ∈ step.happenings s, happening.kind? ≠ some .start) := by
  intro happened
  have all : State.AnswersAll {} happened := answersAll_historyOf steps {}
  refine ⟨fun place call called => ⟨all.answers called, ?_, failsInjected_iff all called, ?_⟩,
    fun _ _ _ _ _ first second => first.unique second,
    fun _ _ _ _ _ unmet replaced _ => unmet.not_surfaces replaced, ?_, ?_⟩
  · simp only [failsInjected_iff all called]
    constructor
    · rintro ⟨error, set, unmet, -⟩
      exact ⟨error, set, unmet⟩
    · rintro ⟨error, set, unmet⟩
      exact unmet.exists_latest
  · intro free
    refine answersByStatus_of_free all called fun error set unmet => ?_
    obtain ⟨error', set', latest⟩ := unmet.exists_latest
    exact free error' ((failsInjected_iff all called error').2 ⟨set', latest⟩)
  · rintro before stretch after rfl s kind foreign
    rw [← through_historyOf]
    exact State.pending_through_of_foreign kind foreign
  · rintro before step after rfl s
    refine ⟨runSteps_getElem? {} before step after, ?_, fun outcome has => ⟨?_, ?_, ?_⟩⟩
    · exact (historyOf_append before (step :: after) {}).trans (List.append_assoc ..).symm
    · exact Step.happenings_of_ignored has
    · exact fun event e => Step.happenings_of_not_extracted
    · exact Step.kind?_ne_start has

/-- A session in which an injected error is replaced before an event meets it. -/
def replaced : List Step :=
  [.setDescribeError (.transport "connection reset"), .setDescribeError (.transport "throttled"),
    .setStatus "orders" .ready, .handle (Sample.payload "CreateApplication" "us-east-1" "orders")]

theorem historyOf_injections_of_replaced :
    let happened := historyOf replaced {}
    let call := Call.describe ⟨"us-east-1", "orders"⟩ (.error (.transport "throttled"))
    happened[3]? = some (.called call) ∧
      FailsInjected (State.through {} (happened.take 3)) call (.transport "throttled") ∧
      ∀ place, ¬ Surfaces happened .describe (.transport "connection reset") 0 place := by
  intro happened call
  have called : happened[3]? = some (.called call) := rfl
  have first : Unmet happened .describe (.transport "connection reset") 0 1 :=
    ⟨Nat.zero_lt_one, rfl, fun between call after before => by omega⟩
  have latest : IsLatest happened .describe (.transport "throttled") 1 3 := by
    refine ⟨⟨by decide, rfl, fun between call after before here => ?_⟩, fun error set unmet => ?_⟩
    · obtain rfl : between = 2 := by omega
      cases here
    · by_contra later
      have := unmet.earlier
      obtain rfl : set = 2 := by omega
      cases unmet.injected
  obtain ⟨calls, -, again, -⟩ := historyOf_injections replaced
  refine ⟨called, ((calls 3 call called).2.2.1 _).2 ⟨1, latest⟩, ?_⟩
  exact again _ _ (.transport "throttled") _ 1 first rfl

end StartOnReady.Scripted
