import StartOnReady.Application.Reference
import StartOnReady.Event.Error
import StartOnReady.Event.Kind
import StartOnReady.Json.Printer

/-!
# Change events

`ChangeEvent.ofValue` keeps of a payload the three members that are ever read, and fails only for a
payload that is no object.  `applicationRef` finds the application that an event is about; the first
bad position decides its error.
-/

namespace StartOnReady

open Json (Kind Value)

/-- The record of the call that an event reports.  A member that is present may be `null`. -/
structure EventDetail where
  eventName : Option Value := none
  responseElements : Option Value := none
  deriving Repr, BEq

/-- An event, as far as it is read. -/
structure ChangeEvent where
  id : Option Value := none
  region : Option Value := none
  detail : Option EventDetail := none
  deriving Repr, BEq

/-! ### Event names -/

/-- The name of an event that carries none. -/
def unknownEventName : String := "UnknownEventName"

namespace EventDetail

/-- The event name as text.  A name that is no string is shown as JSON. -/
def name (detail : EventDetail) : String :=
  match detail.eventName with
  | none | some .null => unknownEventName
  | some (.string s) => s
  | some v => v.render

def kind (detail : EventDetail) : EventKind := EventKind.parse detail.name

end EventDetail

/-! ### Payloads -/

namespace ChangeEvent

/-- A member, where `null` counts as absent. -/
def present (member : Option Value) : Option Value :=
  match member with
  | some .null => none
  | member => member

/-- The detail that a member holds.  `null` is no detail; anything else that is no object is a
detail without content. -/
def detailOf : Option Value → Option EventDetail
  | none | some .null => none
  | some (.object members) =>
    some ⟨Keyed.find? "eventName" members, Keyed.find? "responseElements" members⟩
  | some _ => some {}

/-- The event of a payload. -/
def ofValue : Value → Except EventError ChangeEvent
  | .object members => .ok {
      id := present (Keyed.find? "id" members)
      region := present (Keyed.find? "region" members)
      detail := detailOf (Keyed.find? "detail" members) }
  | v => .error (.notAnObject v.kind)

/-! ### The application of an event -/

/-- A string that must be there and not be empty. -/
def stringAt (path : EventPath) : Option Value → Except EventError String
  | none | some .null => .error (.missingField path)
  | some (.string s) => if s = "" then .error (.missingField path) else .ok s
  | some v => .error (.invalidField path .string v.kind)

/-- The members of an object that must be there. -/
def objectAt (path : EventPath) : Option Value → Except EventError (List (String × Value))
  | none | some .null => .error (.missingField path)
  | some (.object members) => .ok members
  | some v => .error (.invalidField path .object v.kind)

/-- The application that the event is about. -/
def applicationRef (event : ChangeEvent) : Except EventError ApplicationRef := do
  let region ← stringAt .region event.region
  let some detail := event.detail | .error (.missingField .detail)
  let elements ← objectAt .responseElements detail.responseElements
  let application ← objectAt .applicationDetail (Keyed.find? "applicationDetail" elements)
  let name ← stringAt .applicationName (Keyed.find? "applicationName" application)
  .ok ⟨region, name⟩

end ChangeEvent

/-! ### Events as values -/

/-- The members that are present. -/
def presentMembers (members : List (String × Option Value)) : Value :=
  .object (members.filterMap fun (name, value) => value.map (name, ·))

/-- A detail as a value. -/
def EventDetail.toJson (detail : EventDetail) : Value :=
  presentMembers [("eventName", detail.eventName), ("responseElements", detail.responseElements)]

/-- An event as a value. -/
def ChangeEvent.toJson (event : ChangeEvent) : Value :=
  presentMembers [("id", event.id), ("region", event.region),
    ("detail", event.detail.map EventDetail.toJson)]

end StartOnReady
