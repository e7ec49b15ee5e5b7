import StartOnReady.Event.Sample
import StartOnReady.Proofs.Event.Members
import StartOnReady.Proofs.Event.ReadEquivalence
import StartOnReady.Proofs.Handler.CallTrace
import StartOnReady.Proofs.Json.Rendering
import StartOnReady.Scripted.Plane

/-!
# Which payloads are acted on

`IsListed` describes the payloads that pass the filters, member by member, and `GoesBy` the name
that any other payload with a detail is ignored under.  `handleValue_filters` says that the filters
are exactly these, on any plane; it rests on `GoesBy.eq_string`: nothing but a string goes by a
listed name, because the text of no other value begins with a capital letter.
-/

namespace StartOnReady

open Json (Kind Value)

/-! ### Names -/

/-- The names of the calls that are acted on. -/
def listedNames : List String := ["CreateApplication", "UpdateApplication"]

/-- The name that a detail is known by. -/
inductive GoesBy : Value → String → Prop
  | closed {detail : Value} (filled : detail.kind ≠ .null) (closed : detail.kind ≠ .object) :
      GoesBy detail "UnknownEventName"
  | lacking {inner : Members} (lacking : IsLacking (Keyed.find? "eventName" inner)) :
      GoesBy (.object inner) "UnknownEventName"
  | string {inner : Members} {name : String}
      (given : Keyed.find? "eventName" inner = some (.string name)) : GoesBy (.object inner) name
  | shown {inner : Members} {v : Value} (given : Keyed.find? "eventName" inner = some v)
      (filled : v.kind ≠ .null) (unquoted : v.kind ≠ .string) : GoesBy (.object inner) v.render

/-- Whether the detail of a payload has the name of a call that is acted on, as a string. -/
def IsListed (payload : Value) : Prop :=
  ∃ members inner name, payload = .object members ∧
    Keyed.find? "detail" members = some (.object inner) ∧
    Keyed.find? "eventName" inner = some (.string name) ∧ name ∈ listedNames

theorem render_not_mem_listedNames {v : Value} (unquoted : v.kind ≠ .string) :
    v.render ∉ listedNames := by
  intro listed
  rw [Value.render, listedNames, List.mem_cons, List.mem_singleton] at listed
  have word {c : Char} {cs : List Char} (capital : c.isUpper = true) :
      String.ofList v.chars ≠ String.ofList (c :: cs) := by
    intro text
    rw [Value.isUpper_head_chars unquoted (String.ofList_inj.1 text)] at capital
    cases capital
  rcases listed with create | update
  · exact word (c := 'C') rfl create
  · exact word (c := 'U') rfl update

theorem unknownEventName_not_mem_listedNames : unknownEventName ∉ listedNames := by decide

/-- Whatever is no string goes by no name of the list. -/
theorem GoesBy.eq_string {detail : Value} {name : String} (h : GoesBy detail name)
    (listed : name ∈ listedNames) :
    ∃ inner, detail = .object inner ∧ Keyed.find? "eventName" inner = some (.string name) := by
  cases h with
  | closed | lacking => exact absurd listed unknownEventName_not_mem_listedNames
  | string given => exact ⟨_, rfl, given⟩
  | shown _ _ unquoted => exact absurd listed (render_not_mem_listedNames unquoted)

/-! ### Events -/

theorem ChangeEvent.detailOf_eq_none_iff (member : Option Value) :
    ChangeEvent.detailOf member = none ↔ IsLacking member := by
  rcases member with _ | v
  · simp [ChangeEvent.detailOf, IsLacking]
  · cases v <;> simp [ChangeEvent.detailOf, IsLacking]

theorem EventDetail.isActionable_kind_iff (detail : EventDetail) :
    detail.kind.isActionable = true ↔ detail.name ∈ listedNames :=
  EventKind.isActionable_parse_iff detail.name

/-- A member goes by the name of the detail that it holds. -/
theorem goesBy_iff (v : Value) (name : String) :
    GoesBy v name ↔ ∃ detail, ChangeEvent.detailOf (some v) = some detail ∧ detail.name = name := by
  cases v with
  | null =>
    refine iff_of_false ?_ (by simp [ChangeEvent.detailOf])
    rintro ⟨⟩
    next filled _ => exact filled rfl
  | boolean _ | number _ | string _ | array _ =>
    constructor
    · rintro ⟨⟩
      exact ⟨_, rfl, rfl⟩
    · rintro ⟨detail, ⟨⟩, rfl⟩
      exact .closed nofun nofun
  | object inner =>
    constructor
    · intro h
      refine ⟨_, rfl, ?_⟩
      cases h with
      | closed _ closed => exact absurd rfl closed
      | lacking lacking =>
        rcases lacking with absent | null
        · simp only [EventDetail.name, absent, unknownEventName]
        · simp only [EventDetail.name, null, unknownEventName]
      | string given => simp only [EventDetail.name, given]
      | @shown _ v given filled unquoted =>
        simp only [EventDetail.name, given]
        cases v with
        | null => exact absurd rfl filled
        | string _ => exact absurd rfl unquoted
        | boolean _ | number _ | array _ | object _ => rfl
    · rintro ⟨detail, ⟨⟩, rfl⟩
      unfold EventDetail.name
      cases given : Keyed.find? "eventName" inner with
      | none => exact .lacking (Or.inl given)
      | some w =>
        cases w with
        | null => exact .lacking (Or.inr given)
        | string name => exact .string given
        | boolean _ | number _ | array _ | object _ => exact .shown given nofun nofun

/-- The payloads on the list are those whose events are acted on. -/
theorem isListed_iff {payload : Value} {event : ChangeEvent}
    (read : ChangeEvent.ofValue payload = .ok event) :
    IsListed payload ↔ event.IsActionable := by
  cases payload with
  | object members =>
    cases read
    constructor
    · rintro ⟨_, inner, name, ⟨⟩, held, given, listed⟩
      refine ⟨⟨some (.string name), Keyed.find? "responseElements" inner⟩, ?_, ?_⟩
      · simp only [held, ChangeEvent.detailOf, given]
      · exact (EventDetail.isActionable_kind_iff _).2 listed
    · rintro ⟨detail, present, acted⟩
      rw [EventDetail.isActionable_kind_iff] at acted
      cases held : Keyed.find? "detail" members with
      | none =>
        simp only [held] at present
        cases present
      | some v =>
        simp only [held] at present
        have named := (goesBy_iff v detail.name).2 ⟨detail, present, rfl⟩
        obtain ⟨inner, rfl, given⟩ := named.eq_string acted
        exact ⟨members, inner, detail.name, rfl, held, given, acted⟩
  | null | boolean _ | number _ | string _ | array _ => cases read

/-! ### Outcomes -/

/-- Whether an outcome is one of those past the filters. -/
def Outcome.isActedOn : Outcome → Bool
  | statusFiltered _ _ | startRequested _ | failed _ => true
  | _ => false

namespace ControlPlane

variable {σ : Type} {plane : ControlPlane σ} {event : ChangeEvent} {state : σ} {outcome : Outcome}
  {journal : Journal σ}

theorem Handling.isActedOn_iff (h : Handling plane event state outcome journal) :
    outcome.isActedOn = true ↔ event.IsActionable := by
  cases h with
  | missingDetail absent =>
    simp [Outcome.isActedOn, ChangeEvent.not_isActionable_of_absent absent]
  | nameNotHandled present idle =>
    simp [Outcome.isActedOn, ChangeEvent.isActionable_iff_of_present present, idle]
  | notExtracted present acted | describeFailed present acted | filtered present acted
  | startFailed present acted | started present acted =>
    simp [Outcome.isActedOn, ChangeEvent.isActionable_iff_of_present present, acted]

/-- Past the filters the application is extracted: either that fails, or it is asked for. -/
theorem Handling.extraction (h : Handling plane event state outcome journal)
    (acted : event.IsActionable) :
    (∃ e, event.applicationRef = .error e ∧ outcome = .failed e.message) ∨
      ∃ app result, event.applicationRef = .ok app ∧ .describe app result ∈ journal.calls := by
  cases h with
  | missingDetail absent => exact absurd acted (ChangeEvent.not_isActionable_of_absent absent)
  | nameNotHandled present idle =>
    rw [ChangeEvent.isActionable_iff_of_present present, idle] at acted
    cases acted
  | notExtracted _ _ target => exact Or.inl ⟨_, target, rfl⟩
  | describeFailed _ _ target | filtered _ _ target | startFailed _ _ target | started _ _ target =>
    exact Or.inr ⟨_, _, target, List.mem_cons_self⟩

theorem Handling.idle (h : Handling plane event state outcome journal)
    (idle : ¬ event.IsActionable) : journal.calls = [] ∧ journal.state = state := by
  cases h with
  | missingDetail | nameNotHandled => exact ⟨rfl, rfl⟩
  | notExtracted present acted | describeFailed present acted | filtered present acted
  | startFailed present acted | started present acted => exact absurd ⟨_, present, acted⟩ idle

/-! ### Payloads -/

/-- A payload is refused because it is no object, or its event is handled. -/
theorem handleValue_cases (plane : ControlPlane σ) (payload : Value) (state : σ) :
    (payload.kind ≠ .object ∧ ¬ IsListed payload ∧
        (plane.handleValue payload state).1 = .ignoredUnrecognizedShape ∧
        (plane.handleValue payload state).2.calls = [] ∧
        (plane.handleValue payload state).2.state = state) ∨
      ∃ members event, payload = .object members ∧ ChangeEvent.ofValue payload = .ok event ∧
        event.detail = ChangeEvent.detailOf (Keyed.find? "detail" members) ∧
        Handling plane event state (plane.handleValue payload state).1
          (plane.handleValue payload state).2 := by
  cases payload with
  | object members =>
    refine Or.inr ⟨members, _, rfl, rfl, rfl, ?_⟩
    rw [handleValue_of_ok plane rfl]
    exact handling plane _ state
  | null | boolean _ | number _ | string _ | array _ =>
    refine Or.inl ⟨nofun, ?_, ?_⟩
    · rintro ⟨members, inner, name, ⟨⟩, -⟩
    · rw [handleValue_of_error plane rfl]
      exact ⟨rfl, rfl, rfl⟩

theorem handleValue_eq_ignoredUnrecognizedShape_iff (plane : ControlPlane σ) (payload : Value)
    (state : σ) :
    (plane.handleValue payload state).1 = .ignoredUnrecognizedShape ↔ payload.kind ≠ .object := by
  obtain ⟨closed, -, outcome, -⟩ | ⟨members, event, rfl, -, -, h⟩ :=
    handleValue_cases plane payload state
  · exact iff_of_true outcome closed
  · exact iff_of_false h.ne_ignoredUnrecognizedShape (fun closed => closed rfl)

theorem handleValue_eq_ignoredMissingDetail_iff (plane : ControlPlane σ) (payload : Value)
    (state : σ) :
    (plane.handleValue payload state).1 = .ignoredMissingDetail ↔
      ∃ members, payload = .object members ∧ IsLacking (Keyed.find? "detail" members) := by
  obtain ⟨closed, -, outcome, -⟩ | ⟨members, event, rfl, -, detail, h⟩ :=
    handleValue_cases plane payload state
  · rw [outcome]
    refine iff_of_false nofun ?_
    rintro ⟨members, rfl, -⟩
    exact closed rfl
  · rw [h.eq_ignoredMissingDetail_iff, detail, ChangeEvent.detailOf_eq_none_iff]
    constructor
    · exact fun lacking => ⟨members, rfl, lacking⟩
    · rintro ⟨_, ⟨⟩, lacking⟩
      exact lacking

theorem isActedOn_handleValue_iff (plane : ControlPlane σ) (payload : Value) (state : σ) :
    (plane.handleValue payload state).1.isActedOn = true ↔ IsListed payload := by
  obtain ⟨-, unlisted, outcome, -⟩ | ⟨members, event, -, read, -, h⟩ :=
    handleValue_cases plane payload state
  · rw [outcome]
    exact iff_of_false nofun unlisted
  · rw [h.isActedOn_iff, isListed_iff read]

theorem handleValue_eq_ignoredEventName_iff (plane : ControlPlane σ) (payload : Value) (state : σ)
    (name : String) :
    (plane.handleValue payload state).1 = .ignoredEventName name ↔
      ¬ IsListed payload ∧ ∃ members v, payload = .object members ∧
        Keyed.find? "detail" members = some v ∧ GoesBy v name := by
  obtain ⟨closed, -, outcome, -⟩ | ⟨members, event, rfl, read, detail, h⟩ :=
    handleValue_cases plane payload state
  · rw [outcome]
    refine iff_of_false nofun ?_
    rintro ⟨-, members, v, rfl, -⟩
    exact closed rfl
  · rw [h.eq_ignoredEventName_iff, isListed_iff read]
    constructor
    · rintro ⟨d, present, idle, rfl⟩
      rw [ChangeEvent.isActionable_iff_of_present present, idle]
      refine ⟨Bool.false_ne_true, ?_⟩
      rw [detail] at present
      cases held : Keyed.find? "detail" members with
      | none =>
        rw [held] at present
        cases present
      | some v =>
        rw [held] at present
        refine ⟨members, v, rfl, held, (goesBy_iff v _).2 ⟨d, present, ?_⟩⟩
        rw [EventDetail.kind, EventKind.text_parse]
    · rintro ⟨unlisted, _, v, ⟨⟩, held, named⟩
      obtain ⟨d, holds, rfl⟩ := (goesBy_iff v name).1 named
      have present : event.detail = some d := by rw [detail, held, holds]
      rw [ChangeEvent.isActionable_iff_of_present present, Bool.not_eq_true] at unlisted
      exact ⟨d, present, unlisted, EventKind.text_parse d.name⟩

theorem extraction_of_isListed (plane : ControlPlane σ) {payload : Value}
    (listed : IsListed payload) (state : σ) :
    ∃ event, ChangeEvent.ofValue payload = .ok event ∧
      ((∃ e, event.applicationRef = .error e ∧
          (plane.handleValue payload state).1 = .failed e.message) ∨
        ∃ app result, event.applicationRef = .ok app ∧
          .describe app result ∈ (plane.handleValue payload state).2.calls) := by
  obtain ⟨-, unlisted, -⟩ | ⟨members, event, -, read, -, h⟩ :=
    handleValue_cases plane payload state
  · exact absurd listed unlisted
  · exact ⟨event, read, h.extraction ((isListed_iff read).1 listed)⟩

theorem idle_of_not_isListed (plane : ControlPlane σ) {payload : Value}
    (unlisted : ¬ IsListed payload) (state : σ) :
    (plane.handleValue payload state).2.calls = [] ∧
      (plane.handleValue payload state).2.state = state := by
  obtain ⟨-, -, -, idle⟩ | ⟨members, event, -, read, -, h⟩ :=
    handleValue_cases plane payload state
  · exact idle
  · exact h.idle (fun acted => unlisted ((isListed_iff read).2 acted))

/-- On any plane in any state, a payload is told apart by its shape alone.  One that is no object is
unrecognized, and every object is an event, whether its members are looked up or read one by one.
An object without a detail is one thing, an object on the list another: its application is
extracted.  Any other is ignored under the name that its detail goes by, without a call.  No value
but a string has a text on the list. -/
theorem handleValue_filters (plane : ControlPlane σ) (payload : Value) (state : σ) :
    let outcome := (plane.handleValue payload state).1
    let journal := (plane.handleValue payload state).2
    (outcome = .ignoredUnrecognizedShape ↔ payload.kind ≠ .object) ∧
    (∀ members, ∃ event, ChangeEvent.ofValue (.object members) = .ok event ∧
      ((members.map Prod.fst).Nodup → ChangeEvent.readMembers members = .ok event)) ∧
    (outcome = .ignoredMissingDetail ↔
      ∃ members, payload = .object members ∧ IsLacking (Keyed.find? "detail" members)) ∧
    (outcome.isActedOn = true ↔ IsListed payload) ∧
    (IsListed payload → ∃ event, ChangeEvent.ofValue payload = .ok event ∧
      ((∃ e, event.applicationRef = .error e ∧ outcome = .failed e.message) ∨
        ∃ app result, event.applicationRef = .ok app ∧ .describe app result ∈ journal.calls)) ∧
    (∀ name, outcome = .ignoredEventName name ↔
      ¬ IsListed payload ∧ ∃ members v, payload = .object members ∧
        Keyed.find? "detail" members = some v ∧ GoesBy v name) ∧
    (¬ IsListed payload → journal.calls = [] ∧ journal.state = state) ∧
    ∀ v : Value, v.kind ≠ .string → v.render ∉ listedNames := by
  refine ⟨handleValue_eq_ignoredUnrecognizedShape_iff plane payload state, fun members => ?_,
    handleValue_eq_ignoredMissingDetail_iff plane payload state,
    isActedOn_handleValue_iff plane payload state,
    fun listed => extraction_of_isListed plane listed state,
    handleValue_eq_ignoredEventName_iff plane payload state,
    fun unlisted => idle_of_not_isListed plane unlisted state,
    fun v unquoted => render_not_mem_listedNames unquoted⟩
  refine ⟨_, rfl, fun distinct => ?_⟩
  obtain ⟨event, read, same⟩ := ChangeEvent.readMembers_eq_ok distinct
  cases same
  exact read

/-- An event whose name is a listed one in an array of its own. -/
def wrappedName : Members :=
  [("detail", .object [("eventName", .array [.string "CreateApplication"])])]

theorem handleValue_filters_of_wrapped_name :
    (∃ event, ChangeEvent.readMembers wrappedName = .ok event) ∧
    (Scripted.plane.handleValue (.object wrappedName) {}).1 =
      .ignoredEventName "[\"CreateApplication\"]" ∧
    (Scripted.plane.handleValue (.object wrappedName) {}).2.calls = [] ∧
    (Value.array [.string "CreateApplication"]).render ∉ listedNames ∧
    ∃ event, ChangeEvent.ofValue (Sample.payload "UpdateApplication" "us-east-1" "orders") =
      .ok event ∧ ∃ app, event.applicationRef = .ok app := by
  have unlisted : ¬ IsListed (.object wrappedName) := by
    rintro ⟨_, _, _, ⟨⟩, ⟨⟩, ⟨⟩, -⟩
  have listed : IsListed (Sample.payload "UpdateApplication" "us-east-1" "orders") :=
    ⟨_, _, _, rfl, rfl, rfl, by decide⟩
  have wrapped := handleValue_filters Scripted.plane (.object wrappedName) {}
  have update :=
    handleValue_filters Scripted.plane (Sample.payload "UpdateApplication" "us-east-1" "orders") {}
  obtain ⟨event, -, members⟩ := wrapped.2.1 wrappedName
  have named : GoesBy (.object [("eventName", .array [.string "CreateApplication"])])
      (Value.array [.string "CreateApplication"]).render := .shown rfl nofun nofun
  have text : (Value.array [.string "CreateApplication"]).render = "[\"CreateApplication\"]" := by
    decide +kernel
  rw [text] at named
  obtain ⟨event', read, extracted⟩ := update.2.2.2.2.1 listed
  refine ⟨⟨event, members (by decide)⟩,
    (wrapped.2.2.2.2.2.1 _).2 ⟨unlisted, wrappedName, _, rfl, rfl, named⟩,
    (wrapped.2.2.2.2.2.2.1 unlisted).1, wrapped.2.2.2.2.2.2.2 _ nofun, event', read, ?_⟩
  rcases extracted with ⟨e, failed, -⟩ | ⟨app, -, target, -⟩
  · cases read
    cases failed
  · exact ⟨app, target⟩

end ControlPlane

end StartOnReady
