import StartOnReady.Event.Sample
import StartOnReady.Proofs.Event.ReadEquivalence
import StartOnReady.Proofs.Handler.Handling
import StartOnReady.Scripted.Plane

/-!
# What is never read makes no difference

Payloads that are read alike lead to one and the same program of calls and records, so no plane can
tell them apart (`handleValue_congr`).
-/

namespace StartOnReady

open Json (Value)

variable {event event' : ChangeEvent} {p q : Value}

/-- Alike events have one program. -/
theorem handleEvent_congr (h : event.Alike event') (planeName : String) :
    handleEvent planeName event = handleEvent planeName event' := by
  unfold handleEvent actOn
  rw [h.applicationRef]
  rcases h.detail with ⟨none, none'⟩ | ⟨d, d', some, some', alike⟩
  · rw [none, none']
  · rw [some, some']
    simp only [alike.kind]

/-- Payloads that are read alike have one program. -/
theorem handleValue_congr (h : ReadEquivalent p q) (planeName : String) :
    handleValue planeName p = handleValue planeName q := by
  unfold handleValue
  rcases h.ofValue with ⟨e, left, right⟩ | ⟨event, event', left, right, alike⟩
  · rw [left, right]
  · rw [left, right]
    exact handleEvent_congr alike planeName

namespace ControlPlane

/-- On any plane in any state, payloads that are read alike lead to the same outcome, calls and
records, and to the same state of the plane.  So does a payload with any value put anywhere but at,
above or below a position that is read. -/
theorem handleValue_reads_only {σ : Type} (plane : ControlPlane σ) (state : σ) :
    (∀ p q, ReadEquivalent p q → plane.handleValue p state = plane.handleValue q state) ∧
    ∀ members path value, (∀ read ∈ readPaths, Apart path read) →
      plane.handleValue (.object (setAt value path members)) state =
        plane.handleValue (.object members) state := by
  have alike (p q : Value) (h : ReadEquivalent p q) :
      plane.handleValue p state = plane.handleValue q state := by
    unfold ControlPlane.handleValue
    rw [handleValue_congr h]
  refine ⟨alike, fun members path value apart => ?_⟩
  exact (alike _ _ (ReadEquivalent.setAt apart value members)).symm

/-- The members of an update that are read, and no others. -/
def bareUpdate : Members :=
  [("detail", .object [("eventName", .string "UpdateApplication"),
      ("responseElements", .object [("applicationDetail",
        .object [("applicationName", .string "orders")])])]),
    ("region", .string "us-east-1")]

theorem handleValue_reads_only_of_update :
    Scripted.plane.handleValue (Sample.payload "UpdateApplication" "us-east-1" "orders") {} =
      Scripted.plane.handleValue (.object bareUpdate) {} ∧
    Scripted.plane.handleValue
        (.object (setAt (.array []) ["detail", "requestParameters"] bareUpdate)) {} =
      Scripted.plane.handleValue (.object bareUpdate) {} := by
  have reads := handleValue_reads_only Scripted.plane {}
  have apart : ∀ read ∈ readPaths, Apart ["detail", "requestParameters"] read := by decide
  exact ⟨reads.1 _ _ (.object rfl (.object ⟨rfl, .object (.object rfl)⟩)), reads.2 _ _ _ apart⟩

end ControlPlane

end StartOnReady
