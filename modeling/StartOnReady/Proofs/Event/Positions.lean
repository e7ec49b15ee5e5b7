import StartOnReady.Event.Change

/-!
# The first fault of an event

Five positions of an event lead to its application.  `valueAt` is what stands at a position, found
by following its steps through the event as a value; there it is either `Sound` or has one `Fault`.
`reading` says that the extraction goes by the first fault in the order of the positions, and
`applicationRef_first_fault` puts this together: which error there is, when there is none, and that
no position behind the first fault matters.
-/

namespace StartOnReady

open Json (Kind Value)

/-- The value at the end of a way through objects. -/
def Json.Value.follow? : List String → Value → Option Value
  | [], v => some v
  | name :: path, v => (v.member? name).bind (follow? path)

theorem Json.Value.follow?_concat (path : List String) (name : String) (v : Value) :
    v.follow? (path ++ [name]) = (v.follow? path).bind (member? name) := by
  induction path generalizing v with
  | nil => simp [follow?]
  | cons step path ih => cases found : v.member? step <;> simp [follow?, found, ih]

theorem member?_presentMembers {members : List (String × Option Value)}
    (distinct : (members.map Prod.fst).Nodup) (name : String) :
    (presentMembers members).member? name = (Keyed.find? name members).join := by
  unfold presentMembers Value.member?
  induction members with
  | nil => rfl
  | cons member members ih =>
    obtain ⟨key, value⟩ := member
    obtain ⟨fresh, others⟩ := List.nodup_cons.1 distinct
    by_cases here : name = key
    · subst here
      have later : Keyed.find? name members = none := Keyed.find?_eq_none_iff.2 fresh
      cases value with
      | none => simpa [Keyed.find?, later] using ih others
      | some v => simp [Keyed.find?]
    · cases value with
      | none => simpa [Keyed.find?, here] using ih others
      | some v => simpa [Keyed.find?, here] using ih others

/-! ### Positions -/

namespace EventPath

/-- The names of the members on the way to a position. -/
def steps : EventPath → List String
  | region => ["region"]
  | detail => ["detail"]
  | responseElements => ["detail", "responseElements"]
  | applicationDetail => ["detail", "responseElements", "applicationDetail"]
  | applicationName => ["detail", "responseElements", "applicationDetail", "applicationName"]

/-- The sort of the value that is read at a position. -/
def wanted : EventPath → Kind
  | region | applicationName => .string
  | detail | responseElements | applicationDetail => .object

/-- The positions that come first. -/
def before : EventPath → List EventPath
  | region => []
  | detail => [region]
  | responseElements => [region, detail]
  | applicationDetail => [region, detail, responseElements]
  | applicationName => [region, detail, responseElements, applicationDetail]

theorem before_or_before (p q : EventPath) : p = q ∨ p ∈ q.before ∨ q ∈ p.before := by
  cases p <;> cases q <;> decide

/-! ### What may stand at a position -/

/-- Whether a position holds what is read there. -/
inductive Sound (p : EventPath) : Option Value → Prop
  | text {s : String} (wanted : p.wanted = .string) (filled : s ≠ "") : Sound p (some (.string s))
  | members {ms : List (String × Value)} (wanted : p.wanted = .object) :
      Sound p (some (.object ms))

/-- What is wrong with a position that is not sound, as the error that tells of it. -/
inductive Fault (p : EventPath) : Option Value → EventError → Prop
  | absent : Fault p none (.missingField p)
  | null : Fault p (some .null) (.missingField p)
  | empty (wanted : p.wanted = .string) : Fault p (some (.string "")) (.missingField p)
  | mistyped {v : Value} (present : v.kind ≠ .null) (other : v.kind ≠ p.wanted) :
      Fault p (some v) (.invalidField p p.wanted v.kind)

variable {p : EventPath} {x : Option Value} {e e' : EventError}

theorem Sound.not_fault (sound : p.Sound x) : ¬ p.Fault x e := by
  intro fault
  cases sound with
  | text wanted filled =>
    cases fault with
    | empty => exact filled rfl
    | mistyped _ other => exact other wanted.symm
  | members wanted =>
    cases fault with
    | mistyped _ other => exact other wanted.symm

theorem Fault.unique (fault : p.Fault x e) (fault' : p.Fault x e') : e = e' := by
  cases fault with
  | absent => cases fault'; rfl
  | null =>
    cases fault' with
    | null => rfl
    | mistyped present => exact absurd rfl present
  | empty wanted =>
    cases fault' with
    | empty => rfl
    | mistyped _ other => exact absurd wanted.symm other
  | mistyped present other =>
    cases fault' with
    | null => exact absurd rfl present
    | empty wanted => exact absurd wanted.symm other
    | mistyped => rfl

end EventPath

/-! ### Checks -/

namespace ChangeEvent

open EventPath (Sound Fault)

variable {p : EventPath} {x : Option Value} {e : EventError}

theorem stringAt_eq_ok {s : String} (wanted : p.wanted = .string)
    (read : stringAt p x = .ok s) : x = some (.string s) ∧ s ≠ "" ∧ p.Sound x := by
  unfold stringAt at read
  split at read
  · cases read
  · cases read
  next t =>
    split at read
    · cases read
    next filled =>
      cases read
      exact ⟨rfl, filled, .text wanted filled⟩
  · cases read

theorem stringAt_eq_error (wanted : p.wanted = .string) (read : stringAt p x = .error e) :
    p.Fault x e := by
  unfold stringAt at read
  split at read
  · cases read
    exact .absent
  · cases read
    exact .null
  next t =>
    split at read
    next blank =>
      cases read
      subst blank
      exact .empty wanted
    · cases read
  next v notNull notText =>
    cases read
    rw [← wanted]
    refine .mistyped ?_ ?_
    · cases v <;> simp_all [Value.kind]
    · rw [wanted]
      cases v <;> simp_all [Value.kind]

theorem objectAt_eq_ok {ms : List (String × Value)} (wanted : p.wanted = .object)
    (read : objectAt p x = .ok ms) : x = some (.object ms) ∧ p.Sound x := by
  unfold objectAt at read
  split at read
  · cases read
  · cases read
  · cases read
    exact ⟨rfl, .members wanted⟩
  · cases read

theorem objectAt_eq_error (wanted : p.wanted = .object) (read : objectAt p x = .error e) :
    p.Fault x e := by
  unfold objectAt at read
  split at read
  · cases read
    exact .absent
  · cases read
    exact .null
  · cases read
  next v notNull notMembers =>
    cases read
    rw [← wanted]
    refine .mistyped ?_ ?_
    · cases v <;> simp_all [Value.kind]
    · rw [wanted]
      cases v <;> simp_all [Value.kind]

/-! ### The values of an event -/

/-- What stands at a position of an event. -/
def valueAt (event : ChangeEvent) (p : EventPath) : Option Value := event.toJson.follow? p.steps

variable (event : ChangeEvent)

theorem member?_toJson (name : String) :
    event.toJson.member? name =
      (Keyed.find? name [("id", event.id), ("region", event.region),
        ("detail", event.detail.map EventDetail.toJson)]).join :=
  member?_presentMembers (by simp) name

theorem valueAt_region : event.valueAt .region = event.region := by
  rw [valueAt, EventPath.steps, Value.follow?, member?_toJson]
  simp [Keyed.find?, Value.follow?]

theorem valueAt_detail : event.valueAt .detail = event.detail.map EventDetail.toJson := by
  rw [valueAt, EventPath.steps, Value.follow?, member?_toJson]
  simp [Keyed.find?, Value.follow?]

theorem valueAt_responseElements :
    event.valueAt .responseElements = event.detail.bind EventDetail.responseElements := by
  have step : event.valueAt .responseElements =
      (event.valueAt .detail).bind (Value.member? "responseElements") :=
    Value.follow?_concat EventPath.detail.steps "responseElements" event.toJson
  rw [step, valueAt_detail]
  cases event.detail with
  | none => rfl
  | some detail =>
    rw [Option.map_some, Option.bind_some, EventDetail.toJson, member?_presentMembers (by simp)]
    simp [Keyed.find?]

theorem valueAt_applicationDetail :
    event.valueAt .applicationDetail =
      (event.valueAt .responseElements).bind (Value.member? "applicationDetail") :=
  Value.follow?_concat EventPath.responseElements.steps "applicationDetail" event.toJson

theorem valueAt_applicationName :
    event.valueAt .applicationName =
      (event.valueAt .applicationDetail).bind (Value.member? "applicationName") :=
  Value.follow?_concat EventPath.applicationDetail.steps "applicationName" event.toJson

/-! ### The first fault -/

/-- Whether a position of an event has this error and all positions before it are sound. -/
def FirstFault (p : EventPath) (e : EventError) : Prop :=
  (∀ q ∈ p.before, q.Sound (event.valueAt q)) ∧ p.Fault (event.valueAt p) e

/-- Whether an event has all that names this application. -/
structure Names (app : ApplicationRef) : Prop where
  region : event.valueAt .region = some (.string app.region)
  region_ne : app.region ≠ ""
  elements : ∃ ms, event.valueAt .responseElements = some (.object ms)
  detail : ∃ ms, event.valueAt .applicationDetail = some (.object ms)
  name : event.valueAt .applicationName = some (.string app.name)
  name_ne : app.name ≠ ""

/-- What the extraction of an application can come to. -/
inductive Reading : Except EventError ApplicationRef → Prop
  | faulty {p : EventPath} {e : EventError} (first : event.FirstFault p e) : Reading (.error e)
  | whole {app : ApplicationRef} (names : event.Names app) : Reading (.ok app)

/-- Members are looked up only where there are any. -/
theorem objectAt_bind_find? {α : Type} (p : EventPath) (name : String) (x : Option Value)
    (next : Option Value → Except EventError α) :
    ((objectAt p x).bind fun ms => next (Keyed.find? name ms)) =
      (objectAt p x).bind fun _ => next (x.bind (Value.member? name)) := by
  rcases x with _ | v
  · rfl
  · cases v <;> rfl

/-- The extraction as five checks, one for each position in its turn. -/
theorem applicationRef_eq_checks :
    event.applicationRef = (do
      let region ← stringAt .region (event.valueAt .region)
      let _ ← objectAt .detail (event.valueAt .detail)
      let _ ← objectAt .responseElements (event.valueAt .responseElements)
      let _ ← objectAt .applicationDetail (event.valueAt .applicationDetail)
      let name ← stringAt .applicationName (event.valueAt .applicationName)
      .ok ⟨region, name⟩) := by
  unfold applicationRef
  rw [valueAt_applicationName, valueAt_applicationDetail, valueAt_responseElements, valueAt_detail,
    valueAt_region]
  cases stringAt .region event.region with
  | error e => rfl
  | ok region =>
  cases event.detail with
  | none => rfl
  | some detail =>
  have named (x : Option Value) := objectAt_bind_find? .applicationDetail "applicationName" x
    fun y => (stringAt .applicationName y).bind fun name => .ok (⟨region, name⟩ : ApplicationRef)
  have applied := objectAt_bind_find? .responseElements "applicationDetail" detail.responseElements
    fun x => (objectAt .applicationDetail x).bind fun ns =>
      (stringAt .applicationName (Keyed.find? "applicationName" ns)).bind fun name =>
        .ok (⟨region, name⟩ : ApplicationRef)
  refine applied.trans ?_
  simp only [named]
  rfl

/-- The extraction goes by the first fault of the event. -/
theorem reading : event.Reading event.applicationRef := by
  rw [applicationRef_eq_checks]
  cases region : stringAt .region (event.valueAt .region) with
  | error e =>
    exact .faulty (p := .region) ⟨by simp [EventPath.before], stringAt_eq_error rfl region⟩
  | ok r =>
  obtain ⟨regionIs, regionNe, regionSound⟩ := stringAt_eq_ok rfl region
  cases detail : objectAt .detail (event.valueAt .detail) with
  | error e =>
    refine .faulty (p := .detail) ⟨?_, objectAt_eq_error rfl detail⟩
    simpa [EventPath.before] using regionSound
  | ok ms =>
  obtain ⟨-, detailSound⟩ := objectAt_eq_ok rfl detail
  cases elements : objectAt .responseElements (event.valueAt .responseElements) with
  | error e =>
    refine .faulty (p := .responseElements) ⟨?_, objectAt_eq_error rfl elements⟩
    simpa [EventPath.before] using ⟨regionSound, detailSound⟩
  | ok ms =>
  obtain ⟨elementsAre, elementsSound⟩ := objectAt_eq_ok rfl elements
  cases application : objectAt .applicationDetail (event.valueAt .applicationDetail) with
  | error e =>
    refine .faulty (p := .applicationDetail) ⟨?_, objectAt_eq_error rfl application⟩
    simpa [EventPath.before] using ⟨regionSound, detailSound, elementsSound⟩
  | ok ns =>
  obtain ⟨applicationIs, applicationSound⟩ := objectAt_eq_ok rfl application
  cases name : stringAt .applicationName (event.valueAt .applicationName) with
  | error e =>
    refine .faulty (p := .applicationName) ⟨?_, stringAt_eq_error rfl name⟩
    simpa [EventPath.before] using ⟨regionSound, detailSound, elementsSound, applicationSound⟩
  | ok n =>
  obtain ⟨nameIs, nameNe, -⟩ := stringAt_eq_ok rfl name
  exact .whole ⟨regionIs, regionNe, ⟨_, elementsAre⟩, ⟨_, applicationIs⟩, nameIs, nameNe⟩

/-! ### Errors and applications -/

variable {event}

theorem Names.sound {app : ApplicationRef} (names : event.Names app) (p : EventPath) :
    p.Sound (event.valueAt p) := by
  cases p with
  | region =>
    rw [names.region]
    exact .text rfl names.region_ne
  | detail =>
    obtain ⟨ms, elements⟩ := names.elements
    rw [valueAt_responseElements] at elements
    obtain ⟨detail, present, -⟩ := Option.bind_eq_some_iff.1 elements
    rw [valueAt_detail, present]
    exact .members rfl
  | responseElements =>
    obtain ⟨ms, elements⟩ := names.elements
    rw [elements]
    exact .members rfl
  | applicationDetail =>
    obtain ⟨ms, detail⟩ := names.detail
    rw [detail]
    exact .members rfl
  | applicationName =>
    rw [names.name]
    exact .text rfl names.name_ne

theorem Names.unique {app app' : ApplicationRef} (names : event.Names app)
    (names' : event.Names app') : app = app' := by
  have region := names.region.symm.trans names'.region
  have name := names.name.symm.trans names'.name
  simp only [Option.some.injEq, Value.string.injEq] at region name
  cases app
  cases app'
  simp_all

theorem FirstFault.unique {p q : EventPath} {e' : EventError} (first : event.FirstFault p e)
    (first' : event.FirstFault q e') : e = e' := by
  rcases EventPath.before_or_before p q with rfl | before | before
  · exact first.2.unique first'.2
  · exact absurd first.2 (first'.1 p before).not_fault
  · exact absurd first'.2 (first.1 q before).not_fault

end ChangeEvent

end StartOnReady
