import StartOnReady.Event.Change

/-!
# Payloads that are read alike

`ReadEquivalent p q` compares two payloads level by level in what is ever read of them: the region,
the event name and the application name, and on the way to them the sorts of the members.
`ReadEquivalent.ofValue` carries it over to the events, and alike events have the same application
or the same error.  `ReadEquivalent.setAt` says that no value makes a difference apart from the
positions of `readPaths`.
-/

namespace StartOnReady

open Json (Kind Value)

/-- The members of an object. -/
abbrev Members := List (String × Value)

/-! ### Members on the way -/

/-- Whether a member is absent or null. -/
def IsLacking (member : Option Value) : Prop := member = none ∨ member = some .null

/-- Whether two members are both lacking, both of one sort without members, or both objects whose
members are related. -/
inductive AlikeAt (inner : Members → Members → Prop) : Option Value → Option Value → Prop
  | lacking {x y : Option Value} (left : IsLacking x) (right : IsLacking y) : AlikeAt inner x y
  | sort {v w : Value} (same : v.kind = w.kind) (closed : v.kind ≠ .object) :
      AlikeAt inner (some v) (some w)
  | object {ms ns : Members} (alike : inner ms ns) :
      AlikeAt inner (some (.object ms)) (some (.object ns))

/-- Whether two details of an application name it alike. -/
def SameApplication (ms ns : Members) : Prop :=
  Keyed.find? "applicationName" ms = Keyed.find? "applicationName" ns

def SameElements (ms ns : Members) : Prop :=
  AlikeAt SameApplication (Keyed.find? "applicationDetail" ms) (Keyed.find? "applicationDetail" ns)

def SameDetail (ms ns : Members) : Prop :=
  Keyed.find? "eventName" ms = Keyed.find? "eventName" ns ∧
    AlikeAt SameElements (Keyed.find? "responseElements" ms) (Keyed.find? "responseElements" ns)

/-- Whether two details are both lacking, both without members, or both objects that are alike. -/
inductive AlikeDetails : Option Value → Option Value → Prop
  | lacking {x y : Option Value} (left : IsLacking x) (right : IsLacking y) : AlikeDetails x y
  | closed {v w : Value} (left : v.kind ≠ .null ∧ v.kind ≠ .object)
      (right : w.kind ≠ .null ∧ w.kind ≠ .object) : AlikeDetails (some v) (some w)
  | object {ms ns : Members} (alike : SameDetail ms ns) :
      AlikeDetails (some (.object ms)) (some (.object ns))

/-- Whether two payloads agree in all that is read of them. -/
inductive ReadEquivalent : Value → Value → Prop
  | sort {v w : Value} (same : v.kind = w.kind) (closed : v.kind ≠ .object) : ReadEquivalent v w
  | object {ms ns : Members} (region : Keyed.find? "region" ms = Keyed.find? "region" ns)
      (details : AlikeDetails (Keyed.find? "detail" ms) (Keyed.find? "detail" ns)) :
      ReadEquivalent (.object ms) (.object ns)

/-! ### Reflexivity -/

theorem AlikeAt.refl {inner : Members → Members → Prop} (same : ∀ ms, inner ms ms)
    (x : Option Value) : AlikeAt inner x x := by
  rcases x with _ | v
  · exact .lacking (Or.inl rfl) (Or.inl rfl)
  · by_cases closed : v.kind = .object
    · cases v with
      | object ms => exact .object (same ms)
      | null | boolean _ | number _ | string _ | array _ => cases closed
    · exact .sort rfl closed

theorem SameApplication.refl (ms : Members) : SameApplication ms ms := rfl

theorem SameElements.refl (ms : Members) : SameElements ms ms :=
  AlikeAt.refl SameApplication.refl _

theorem SameDetail.refl (ms : Members) : SameDetail ms ms :=
  ⟨rfl, AlikeAt.refl SameElements.refl _⟩

theorem AlikeAt.alikeDetails {x y : Option Value} (h : AlikeAt SameDetail x y) :
    AlikeDetails x y := by
  cases h with
  | lacking left right => exact .lacking left right
  | object alike => exact .object alike
  | @sort v w same closed =>
    by_cases null : v.kind = .null
    · have lacks (v : Value) (null : v.kind = .null) : IsLacking (some v) := by
        cases v with
        | null => exact Or.inr rfl
        | boolean _ | number _ | string _ | array _ | object _ => cases null
      exact .lacking (lacks v null) (lacks w (same.symm.trans null))
    · exact .closed ⟨null, closed⟩ ⟨same ▸ null, same ▸ closed⟩

/-! ### Events -/

/-- Whether two details give the same name and lead to the same application. -/
def EventDetail.Alike (d d' : EventDetail) : Prop :=
  d.eventName = d'.eventName ∧ AlikeAt SameElements d.responseElements d'.responseElements

/-- Whether two events agree in all that is read of them. -/
structure ChangeEvent.Alike (event event' : ChangeEvent) : Prop where
  region : event.region = event'.region
  detail : (event.detail = none ∧ event'.detail = none) ∨
    ∃ d d', event.detail = some d ∧ event'.detail = some d' ∧ d.Alike d'

theorem AlikeDetails.detailOf {x y : Option Value} (h : AlikeDetails x y) :
    (ChangeEvent.detailOf x = none ∧ ChangeEvent.detailOf y = none) ∨
      ∃ d d', ChangeEvent.detailOf x = some d ∧ ChangeEvent.detailOf y = some d' ∧ d.Alike d' := by
  have empty (v : Value) (filled : v.kind ≠ .null ∧ v.kind ≠ .object) :
      ChangeEvent.detailOf (some v) = some {} := by
    cases v with
    | null => exact absurd rfl filled.1
    | object ms => exact absurd rfl filled.2
    | boolean _ | number _ | string _ | array _ => rfl
  cases h with
  | lacking left right =>
    rcases left with rfl | rfl <;> rcases right with rfl | rfl <;> exact Or.inl ⟨rfl, rfl⟩
  | closed left right =>
    exact Or.inr ⟨_, _, empty _ left, empty _ right, rfl,
      .lacking (Or.inl rfl) (Or.inl rfl)⟩
  | object alike => exact Or.inr ⟨_, _, rfl, rfl, alike⟩

/-- Payloads that are read alike are refused with the same error or give alike events. -/
theorem ReadEquivalent.ofValue {p q : Value} (h : ReadEquivalent p q) :
    (∃ e, ChangeEvent.ofValue p = .error e ∧ ChangeEvent.ofValue q = .error e) ∨
      ∃ event event', ChangeEvent.ofValue p = .ok event ∧ ChangeEvent.ofValue q = .ok event' ∧
        event.Alike event' := by
  have refused (v : Value) (closed : v.kind ≠ .object) :
      ChangeEvent.ofValue v = .error (.notAnObject v.kind) := by
    cases v with
    | object ms => exact absurd rfl closed
    | null | boolean _ | number _ | string _ | array _ => rfl
  cases h with
  | sort same closed =>
    have closed' := closed
    rw [same] at closed'
    refine Or.inl ⟨_, refused p closed, ?_⟩
    rw [refused q closed', same]
  | object region details =>
    refine Or.inr ⟨_, _, rfl, rfl, ?_, details.detailOf⟩
    exact congrArg ChangeEvent.present region

/-! ### What an event is about -/

/-- Alike members are both objects that are related, or they give the same error. -/
theorem AlikeAt.objectAt {inner : Members → Members → Prop} {x y : Option Value}
    (h : AlikeAt inner x y) (path : EventPath) :
    (∃ e, ChangeEvent.objectAt path x = .error e ∧ ChangeEvent.objectAt path y = .error e) ∨
      ∃ ms ns, ChangeEvent.objectAt path x = .ok ms ∧ ChangeEvent.objectAt path y = .ok ns ∧
        inner ms ns := by
  have refused (v : Value) (closed : v.kind ≠ .object) :
      ChangeEvent.objectAt path (some v) =
        .error (if v.kind = .null then .missingField path
          else .invalidField path .object v.kind) := by
    cases v with
    | object ms => exact absurd rfl closed
    | null | boolean _ | number _ | string _ | array _ => rfl
  cases h with
  | lacking left right =>
    rcases left with rfl | rfl <;> rcases right with rfl | rfl <;> exact Or.inl ⟨_, rfl, rfl⟩
  | sort same closed =>
    have closed' := closed
    rw [same] at closed'
    refine Or.inl ⟨_, refused _ closed, ?_⟩
    rw [refused _ closed', same]
  | object alike => exact Or.inr ⟨_, _, rfl, rfl, alike⟩

theorem EventDetail.Alike.kind {d d' : EventDetail} (h : d.Alike d') : d.kind = d'.kind := by
  unfold EventDetail.kind EventDetail.name
  rw [h.1]

namespace ChangeEvent.Alike

variable {event event' : ChangeEvent}

theorem applicationRef (h : event.Alike event') : event.applicationRef = event'.applicationRef := by
  unfold ChangeEvent.applicationRef
  rw [h.region]
  rcases h.detail with ⟨none, none'⟩ | ⟨d, d', some, some', -, elements⟩
  · rw [none, none']
  · rw [some, some']
    simp only
    obtain ⟨e, left, right⟩ | ⟨ms, ns, left, right, details⟩ :=
      elements.objectAt .responseElements
    · rw [left, right]
    · obtain ⟨e, left', right'⟩ | ⟨ms', ns', left', right', names⟩ :=
        AlikeAt.objectAt details .applicationDetail
      · simp only [left, right, bind, Except.bind, left', right']
      · simp only [left, right, bind, Except.bind, left', right']
        rw [names]

end ChangeEvent.Alike

/-! ### Members that are not read -/

/-- Puts a value at a position inside objects.  Where the way to it breaks off nothing is put. -/
def setAt (value : Value) : List String → Members → Members
  | [], ms => ms
  | [name], ms => Keyed.insert name value ms
  | name :: path, ms =>
    match Keyed.find? name ms with
    | some (.object inner) => Keyed.insert name (.object (setAt value path inner)) ms
    | _ => ms

/-- Whether neither of two positions stands on the way to the other. -/
def Apart (path path' : List String) : Prop := ¬ path <+: path' ∧ ¬ path' <+: path

instance (path path' : List String) : Decidable (Apart path path') :=
  inferInstanceAs (Decidable (_ ∧ _))

/-- The positions whose values are read. -/
def readPaths : List (List String) :=
  [["region"], ["detail", "eventName"],
    ["detail", "responseElements", "applicationDetail", "applicationName"]]

theorem Apart.ne_nil {path read : List String} (h : Apart path read) : path ≠ [] := by
  rintro rfl
  exact h.1 List.nil_prefix

theorem Apart.tail {name : String} {path read : List String}
    (h : Apart (name :: path) (name :: read)) : Apart path read := by
  simpa [Apart] using h

theorem Apart.step_ne {name step : String} {path : List String}
    (h : Apart (step :: path) [name]) : step ≠ name := by
  rintro rfl
  exact h.2 (by simp)

theorem find?_setAt_of_ne {name step : String} (other : name ≠ step) (value : Value)
    (path : List String) (ms : Members) :
    Keyed.find? name (setAt value (step :: path) ms) = Keyed.find? name ms := by
  rcases path with _ | ⟨next, path⟩
  · rw [setAt, Keyed.find?_insert, if_neg other]
  · unfold setAt
    split
    · rw [Keyed.find?_insert, if_neg other]
    · rfl

/-- Something put below a member changes it inside only. -/
theorem AlikeAt.setAt {inner : Members → Members → Prop} (same : ∀ ms, inner ms ms) (value : Value)
    {name step : String} {path : List String}
    (deeper : step = name → path ≠ [] ∧ ∀ ms, inner ms (setAt value path ms)) (ms : Members) :
    AlikeAt inner (Keyed.find? name ms) (Keyed.find? name (setAt value (step :: path) ms)) := by
  by_cases here : step = name
  · obtain ⟨nonempty, below⟩ := deeper here
    subst here
    obtain ⟨next, path, rfl⟩ := List.exists_cons_of_ne_nil nonempty
    unfold StartOnReady.setAt
    split
    · next ns found =>
      rw [found, Keyed.find?_insert, if_pos rfl]
      exact .object (below ns)
    · exact AlikeAt.refl same _
  · rw [find?_setAt_of_ne (Ne.symm here)]
    exact AlikeAt.refl same _

theorem SameApplication.setAt {path : List String} (apart : Apart path ["applicationName"])
    (value : Value) (ms : Members) : SameApplication ms (setAt value path ms) := by
  obtain ⟨step, rest, rfl⟩ := List.exists_cons_of_ne_nil apart.ne_nil
  exact (find?_setAt_of_ne (Ne.symm apart.step_ne) value rest ms).symm

theorem SameElements.setAt {path : List String}
    (apart : Apart path ["applicationDetail", "applicationName"]) (value : Value) (ms : Members) :
    SameElements ms (setAt value path ms) := by
  obtain ⟨step, rest, rfl⟩ := List.exists_cons_of_ne_nil apart.ne_nil
  refine AlikeAt.setAt SameApplication.refl value ?_ ms
  rintro rfl
  exact ⟨apart.tail.ne_nil, SameApplication.setAt apart.tail value⟩

theorem SameDetail.setAt {path : List String} (named : Apart path ["eventName"])
    (apart : Apart path ["responseElements", "applicationDetail", "applicationName"])
    (value : Value) (ms : Members) : SameDetail ms (setAt value path ms) := by
  obtain ⟨step, rest, rfl⟩ := List.exists_cons_of_ne_nil apart.ne_nil
  refine ⟨(find?_setAt_of_ne (Ne.symm named.step_ne) value rest ms).symm, ?_⟩
  refine AlikeAt.setAt SameElements.refl value ?_ ms
  rintro rfl
  exact ⟨apart.tail.ne_nil, SameElements.setAt apart.tail value⟩

/-- A value at a position apart from those that are read makes no difference. -/
theorem ReadEquivalent.setAt {path : List String} (apart : ∀ read ∈ readPaths, Apart path read)
    (value : Value) (ms : Members) :
    ReadEquivalent (.object ms) (.object (setAt value path ms)) := by
  have region := apart ["region"] (by simp [readPaths])
  have named := apart ["detail", "eventName"] (by simp [readPaths])
  have applied := apart ["detail", "responseElements", "applicationDetail", "applicationName"]
    (by simp [readPaths])
  obtain ⟨step, rest, rfl⟩ := List.exists_cons_of_ne_nil region.ne_nil
  refine .object (find?_setAt_of_ne (Ne.symm region.step_ne) value rest ms).symm ?_
  refine (AlikeAt.setAt SameDetail.refl value ?_ ms).alikeDetails
  rintro rfl
  exact ⟨named.tail.ne_nil, SameDetail.setAt named.tail applied.tail value⟩

end StartOnReady
