import StartOnReady.Proofs.Event.Members
import StartOnReady.Proofs.Event.Positions
import StartOnReady.Proofs.Handler.Handling

/-!
# Writing an event back

An event is written with its members in the order of its fields (`ChangeEvent.toJson`) or, as a
value that was read would be, with rising names (`ChangeEvent.toValue`).  Both are a
`ChangeEvent.Form` of it: they hold its fields and nothing else.  Any form of an event that was
itself read is read as that event (`Form.ofValue_eq_ok_iff`); `ofValue_rewritten` is what follows for
payloads.
-/

namespace StartOnReady

open Json (Value)

/-! ### Objects in order -/

namespace Json.Value

/-- The names of the members of an object. -/
def memberNames : Value → List String
  | .object members => members.map Prod.fst
  | _ => []

/-- The object with its members in rising order of their names. -/
def arranged : Value → Value
  | .object members => .ofMembers members
  | v => v

end Json.Value

theorem memberNames_presentMembers (members : List (String × Option Value)) :
    (presentMembers members).memberNames.Sublist (members.map Prod.fst) := by
  unfold presentMembers Value.memberNames
  induction members with
  | nil => exact List.Sublist.refl _
  | cons member members ih =>
    obtain ⟨name, value⟩ := member
    cases value with
    | none => simpa using ih.cons name
    | some v => simpa using ih

theorem Keyed.mem_keys_ofList {α : Type} {bindings : List (String × α)} {key : String} :
    key ∈ (Keyed.ofList bindings).map Prod.fst ↔ key ∈ bindings.map Prod.fst := by
  rw [← not_iff_not, ← Keyed.find?_eq_none_iff, ← Keyed.find?_eq_none_iff,
    Keyed.find?_ofList_reverse, Keyed.find?_eq_none_iff, Keyed.find?_eq_none_iff, List.map_reverse,
    List.mem_reverse]

/-! ### Records of values -/

/-- Whether a value is an object that has members of these names only, each at most once. -/
structure IsRecord (fields : List String) (form : Value) : Prop where
  object : form.kind = .object
  nodup_names : form.memberNames.Nodup
  known : form.memberNames ⊆ fields

theorem isRecord_presentMembers {fields : List String} {members : List (String × Option Value)}
    (names : members.map Prod.fst = fields) (distinct : fields.Nodup) :
    IsRecord fields (presentMembers members) where
  object := rfl
  nodup_names := distinct.sublist (names ▸ memberNames_presentMembers members)
  known := (names ▸ memberNames_presentMembers members : List.Sublist _ fields).subset

theorem IsRecord.arranged {fields : List String} {form : Value} (h : IsRecord fields form) :
    IsRecord fields form.arranged := by
  obtain ⟨object, -, known⟩ := h
  cases form with
  | object members =>
    exact ⟨rfl, Keyed.nodup_keys_ofList members, fun _ here => known (Keyed.mem_keys_ofList.1 here)⟩
  | null | boolean _ | number _ | string _ | array _ => cases object

theorem IsRecord.member?_arranged {fields : List String} {form : Value} (h : IsRecord fields form)
    (name : String) : form.arranged.member? name = form.member? name := by
  obtain ⟨object, nodup_names, -⟩ := h
  cases form with
  | object members => exact Keyed.find?_ofList nodup_names name
  | null | boolean _ | number _ | string _ | array _ => cases object

/-! ### Forms of a detail -/

namespace EventDetail

/-- The members that a detail is read from. -/
def fieldNames : List String := ["eventName", "responseElements"]

/-- A detail as a value whose members are in order. -/
def toValue (detail : EventDetail) : Value := detail.toJson.arranged

/-- Whether a value holds a detail and nothing else. -/
structure Form (detail : EventDetail) (form : Value) : Prop extends IsRecord fieldNames form where
  eventName : form.member? "eventName" = detail.eventName
  responseElements : form.member? "responseElements" = detail.responseElements

variable {detail : EventDetail}

theorem form_toJson : detail.Form detail.toJson where
  toIsRecord := isRecord_presentMembers rfl (by decide)
  eventName := by
    rw [toJson, member?_presentMembers (by simp)]
    simp [Keyed.find?]
  responseElements := by
    rw [toJson, member?_presentMembers (by simp)]
    simp [Keyed.find?]

theorem form_toValue : detail.Form detail.toValue where
  toIsRecord := form_toJson.toIsRecord.arranged
  eventName := (form_toJson.member?_arranged _).trans form_toJson.eventName
  responseElements := (form_toJson.member?_arranged _).trans form_toJson.responseElements

/-- Any form of a detail is read as that detail. -/
theorem Form.detailOf {form : Value} (h : detail.Form form) :
    ChangeEvent.detailOf (some form) = some detail := by
  obtain ⟨⟨object, -, -⟩, eventName, responseElements⟩ := h
  cases form with
  | object members =>
    cases detail
    cases eventName
    cases responseElements
    rfl
  | null | boolean _ | number _ | string _ | array _ => cases object

end EventDetail

/-! ### Forms of an event -/

namespace ChangeEvent

/-- An event as a value whose members are in order, those of its detail too. -/
def toValue (event : ChangeEvent) : Value :=
  (presentMembers [("id", event.id), ("region", event.region),
    ("detail", event.detail.map EventDetail.toValue)]).arranged

/-- Whether a value holds an event and nothing else. -/
structure Form (event : ChangeEvent) (form : Value) : Prop extends IsRecord fieldNames form where
  id : form.member? "id" = event.id
  region : form.member? "region" = event.region
  detail : Option.Rel EventDetail.Form event.detail (form.member? "detail")

variable {event : ChangeEvent}

/-- The members of an event, with its detail written in some form. -/
theorem form_presentMembers {write : EventDetail → Value}
    (written : ∀ detail, EventDetail.Form detail (write detail)) :
    event.Form (presentMembers
      [("id", event.id), ("region", event.region), ("detail", event.detail.map write)]) where
  toIsRecord := isRecord_presentMembers rfl (by decide)
  id := by
    rw [member?_presentMembers (by simp)]
    simp [Keyed.find?]
  region := by
    rw [member?_presentMembers (by simp)]
    simp [Keyed.find?]
  detail := by
    rw [member?_presentMembers (by simp)]
    cases event.detail with
    | none => exact Option.Rel.none
    | some detail => simpa [Keyed.find?] using Option.Rel.some (written detail)

theorem Form.arranged {form : Value} (h : event.Form form) : event.Form form.arranged where
  toIsRecord := h.toIsRecord.arranged
  id := (h.member?_arranged _).trans h.id
  region := (h.member?_arranged _).trans h.region
  detail := by
    rw [h.member?_arranged]
    exact h.detail

theorem form_toJson : event.Form event.toJson :=
  form_presentMembers fun _ => EventDetail.form_toJson

theorem form_toValue : event.Form event.toValue :=
  (form_presentMembers fun _ => EventDetail.form_toValue).arranged

/-! ### Reading a form -/

/-- A member that holds a form of a detail, or is absent with it, is read as that detail. -/
theorem detailOf_of_rel {held : Option EventDetail} {member : Option Value}
    (written : Option.Rel EventDetail.Form held member) : detailOf member = held := by
  cases written with
  | some form => exact form.detailOf
  | none => rfl

/-- Whether an event can have been read: `null` is never kept in one of its own members. -/
structure IsRead (event : ChangeEvent) : Prop where
  id : event.id ≠ some .null
  region : event.region ≠ some .null

theorem present_ne_null (member : Option Value) : present member ≠ some .null := by
  rcases member with _ | v
  · exact nofun
  · cases v <;> exact nofun

theorem present_eq_self_iff {member : Option Value} :
    present member = member ↔ member ≠ some .null := by
  rcases member with _ | v
  · simp [present]
  · cases v <;> simp [present]

theorem isRead_of_ofValue {payload : Value} (read : ofValue payload = .ok event) :
    event.IsRead := by
  cases payload with
  | object members =>
    cases read
    exact ⟨present_ne_null _, present_ne_null _⟩
  | null | boolean _ | number _ | string _ | array _ => cases read

/-- What is read of a form: its event, except that `null` counts as absent. -/
theorem Form.ofValue_eq {form : Value} (h : event.Form form) :
    ofValue form = .ok { event with id := present event.id, region := present event.region } := by
  obtain ⟨⟨object, -, -⟩, id, region, detail⟩ := h
  cases form with
  | object members =>
    have kept : detailOf (Keyed.find? "detail" members) = event.detail := detailOf_of_rel detail
    rw [ofValue, ← id, ← region, ← kept]
    rfl
  | null | boolean _ | number _ | string _ | array _ => cases object

/-- A form is read as its event if and only if the event can have been read. -/
theorem Form.ofValue_eq_ok_iff {form : Value} (h : event.Form form) :
    ofValue form = .ok event ↔ event.IsRead := by
  rw [h.ofValue_eq, Except.ok.injEq]
  constructor
  · intro same
    exact ⟨present_eq_self_iff.1 (congrArg ChangeEvent.id same),
      present_eq_self_iff.1 (congrArg ChangeEvent.region same)⟩
  · rintro ⟨id, region⟩
    rw [present_eq_self_iff.2 id, present_eq_self_iff.2 region]

/-! ### Rewriting payloads -/

/-- The value of the event of a payload. -/
def rewrite (payload : Value) : Except EventError Value := (ofValue payload).map toValue

/-- Once rewritten, a payload stays as it is. -/
theorem rewrite_idempotent (payload : Value) : (rewrite payload >>= rewrite) = rewrite payload := by
  unfold rewrite
  cases read : ofValue payload with
  | error e => rfl
  | ok event =>
    have again : ofValue event.toValue = .ok event :=
      form_toValue.ofValue_eq_ok_iff.2 (isRead_of_ofValue read)
    simp only [Except.map, bind, Except.bind, again]

/-- Both ways to write the event of a payload hold its fields and nothing else, are read as the same
event, rewritten as the payload is, and handled as the payload is, on every plane. -/
theorem ofValue_rewritten (members : List (String × Value)) :
    ∃ event, ofValue (.object members) = .ok event ∧
      (∀ form ∈ [event.toJson, event.toValue],
        event.Form form ∧ ofValue form = .ok event ∧ rewrite form = rewrite (.object members) ∧
          ∀ {σ : Type} (plane : ControlPlane σ) (state : σ),
            plane.handleValue form state = plane.handleValue (.object members) state) ∧
      (rewrite (.object members) >>= rewrite) = .ok event.toValue := by
  obtain ⟨event, read⟩ : ∃ event, ofValue (.object members) = .ok event := ⟨_, rfl⟩
  refine ⟨event, read, fun form written => ?_, ?_⟩
  · have isForm : event.Form form := by
      rcases List.mem_pair.1 written with rfl | rfl
      · exact form_toJson
      · exact form_toValue
    have again : ofValue form = .ok event := isForm.ofValue_eq_ok_iff.2 (isRead_of_ofValue read)
    refine ⟨isForm, again, by rw [rewrite, rewrite, again, read], fun plane state => ?_⟩
    rw [plane.handleValue_of_ok again, plane.handleValue_of_ok read]
  · rw [rewrite_idempotent, rewrite, read]
    rfl

/-- A `null` inside the detail is kept, one at the top is not, and a detail that is no object is
written as an empty one. -/
example :
    (rewrite (.object [("detail", .object [("eventName", .null)]), ("id", .null)])).toOption.map
        Value.render = some "\x7b\"detail\":\x7b\"eventName\":null\x7d\x7d" ∧
      (rewrite (.object [("detail", Value.ofInt 7), ("source", .null)])).toOption.map
        Value.render = some "\x7b\"detail\":\x7b\x7d\x7d" := by
  decide +kernel

end ChangeEvent

end StartOnReady
