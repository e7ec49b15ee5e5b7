/-!
# The status of an application

`ApplicationStatus.parse` knows eleven words and keeps any other as it is; `text` is its inverse.
-/

namespace StartOnReady

/-- The status that the control plane reports. -/
inductive ApplicationStatus where
  | deleting
  | starting
  | stopping
  | ready
  | running
  | updating
  | autoscaling
  | forceStopping
  | rollingBack
  | maintenance
  | rolledBack
  /-- A word outside the list. -/
  | unknown (word : String)
  deriving DecidableEq, Repr

namespace ApplicationStatus

/-- The status that a word stands for. -/
def parse (word : String) : ApplicationStatus :=
  if word = "DELETING" then .deleting
  else if word = "STARTING" then .starting
  else if word = "STOPPING" then .stopping
  else if word = "READY" then .ready
  else if word = "RUNNING" then .running
  else if word = "UPDATING" then .updating
  else if word = "AUTOSCALING" then .autoscaling
  else if word = "FORCE_STOPPING" then .forceStopping
  else if word = "ROLLING_BACK" then .rollingBack
  else if word = "MAINTENANCE" then .maintenance
  else if word = "ROLLED_BACK" then .rolledBack
  else .unknown word

/-- The word for a status. -/
def text : ApplicationStatus → String
  | deleting => "DELETING"
  | starting => "STARTING"
  | stopping => "STOPPING"
  | ready => "READY"
  | running => "RUNNING"
  | updating => "UPDATING"
  | autoscaling => "AUTOSCALING"
  | forceStopping => "FORCE_STOPPING"
  | rollingBack => "ROLLING_BACK"
  | maintenance => "MAINTENANCE"
  | rolledBack => "ROLLED_BACK"
  | unknown word => word

theorem text_ite {word known : String} {status other : ApplicationStatus}
    (here : status.text = known) (there : other.text = word) :
    (if word = known then status else other).text = word := by
  split
  · next same => rw [here, same]
  · exact there

/-- No word is lost. -/
theorem text_parse (word : String) : (parse word).text = word := by
  unfold parse
  repeat refine text_ite rfl ?_
  rfl

theorem parse_eq_ready_iff (word : String) : parse word = ready ↔ word = "READY" := by
  constructor
  · intro parsed
    rw [← text_parse word, parsed, text]
  · rintro rfl
    rfl

/-- An application can be started only from `ready`. -/
def isStartable : ApplicationStatus → Bool
  | ready => true
  | _ => false

theorem isStartable_eq_true_iff (status : ApplicationStatus) :
    status.isStartable = true ↔ status = ready := by
  cases status <;> simp [isStartable]

theorem isStartable_eq_false_iff (status : ApplicationStatus) :
    status.isStartable = false ↔ status ≠ ready := by
  rw [← Bool.not_eq_true, isStartable_eq_true_iff]

end ApplicationStatus

end StartOnReady
