/-!
# Kinds of events

Only calls that create or update an application can leave it ready to be started.
-/

namespace StartOnReady

/-- The call that an event reports. -/
inductive EventKind where
  | createApplication
  | updateApplication
  | other (name : String)
  deriving DecidableEq, Repr

namespace EventKind

/-- The kind that an event name stands for. -/
def parse (name : String) : EventKind :=
  if name = "CreateApplication" then .createApplication
  else if name = "UpdateApplication" then .updateApplication
  else .other name

/-- The event name of a kind. -/
def text : EventKind → String
  | createApplication => "CreateApplication"
  | updateApplication => "UpdateApplication"
  | other name => name

/-- Whether events of this kind are acted on. -/
def isActionable : EventKind → Bool
  | other _ => false
  | _ => true

/-- No name is lost. -/
theorem text_parse (name : String) : (parse name).text = name := by
  unfold parse
  split
  · next same => rw [same, text]
  · split
    · next same => rw [same, text]
    · rfl

theorem isActionable_parse_iff (name : String) :
    (parse name).isActionable = true ↔ name ∈ ["CreateApplication", "UpdateApplication"] := by
  unfold parse
  split
  · next same => simp [same, isActionable]
  · next notCreate =>
    split
    · next same => simp [same, isActionable]
    · next notUpdate => simp [notCreate, notUpdate, isActionable]

end EventKind

end StartOnReady
