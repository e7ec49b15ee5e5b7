import StartOnReady.Proofs.Handler.Handling

/-!
# Planes without records of their own

`muted` is a plane that does all that another one does, but logs nothing.  What a program logs on it
is logged by the program itself.  `run_woven` says that a program comes to the same on both planes,
and that its records on the one are those on the other with records of the plane in between.
-/

namespace StartOnReady

open Effects (Program)
open Log (Record)

/-! ### Records between others -/

/-- Whether a list of records is another one with some of a given sort in between. -/
inductive Woven (foreign : Record → Prop) : List Record → List Record → Prop
  | nil : Woven foreign [] []
  | own (record : Record) {own all : List Record} (rest : Woven foreign own all) :
      Woven foreign (record :: own) (record :: all)
  | between {record : Record} (here : foreign record) {own all : List Record}
      (rest : Woven foreign own all) : Woven foreign own (record :: all)

namespace Woven

variable {foreign : Record → Prop} {own all own' all' records : List Record}

theorem refl (records : List Record) : Woven foreign records records := by
  induction records with
  | nil => exact .nil
  | cons record records ih => exact .own record ih

theorem of_foreign (h : ∀ record ∈ records, foreign record) : Woven foreign [] records := by
  induction records with
  | nil => exact .nil
  | cons record records ih =>
    obtain ⟨here, rest⟩ := List.forall_mem_cons.1 h
    exact .between here (ih rest)

theorem append (first : Woven foreign own all) (last : Woven foreign own' all') :
    Woven foreign (own ++ own') (all ++ all') := by
  induction first with
  | nil => exact last
  | own record _ ih => exact .own record ih
  | between here _ ih => exact .between here ih

theorem map {f : Record → Record} (keeps : ∀ record, foreign record → foreign (f record))
    (h : Woven foreign own all) : Woven foreign (own.map f) (all.map f) := by
  induction h with
  | nil => exact .nil
  | own record _ ih => exact .own (f record) ih
  | between here _ ih => exact .between (keeps _ here) ih

theorem sublist (h : Woven foreign own all) : own.Sublist all := by
  induction h with
  | nil => exact .slnil
  | own record _ ih => exact ih.cons_cons record
  | between _ _ ih => exact ih.cons _

theorem filter_eq (h : Woven foreign own all) {p : Record → Bool}
    (apart : ∀ record, foreign record → p record = false) : all.filter p = own.filter p := by
  induction h with
  | nil => rfl
  | own record _ ih => rw [List.filter_cons, List.filter_cons, ih]
  | between here _ ih => rw [List.filter_cons, apart _ here, if_neg Bool.false_ne_true, ih]

end Woven

/-! ### Muted planes -/

namespace ControlPlane

variable {σ α : Type}

/-- The plane without its records. -/
def muted (plane : ControlPlane σ) : ControlPlane σ where
  name := plane.name
  describe app s := { plane.describe app s with records := [] }
  start app s := { plane.start app s with records := [] }

/-- Whether all records of a plane are of a given sort. -/
structure LogsOnly (plane : ControlPlane σ) (foreign : Record → Prop) : Prop where
  describe (app : ApplicationRef) (s : σ) :
    ∀ record ∈ (plane.describe app s).records, foreign record
  start (app : ApplicationRef) (s : σ) : ∀ record ∈ (plane.start app s).records, foreign record

theorem logsOnly_true (plane : ControlPlane σ) : plane.LogsOnly fun _ => True :=
  ⟨fun _ _ _ _ => trivial, fun _ _ _ _ => trivial⟩

/-- Whether two journals differ in records of a given sort only. -/
structure WovenJournals (foreign : Record → Prop) (own all : Journal σ) : Prop where
  state : own.state = all.state
  calls : own.calls = all.calls
  records : Woven foreign own.records all.records

/-- A program cannot tell a plane from its muted form. -/
theorem run_woven {plane : ControlPlane σ} {foreign : Record → Prop} (logs : plane.LogsOnly foreign)
    (p : Program Calls α) {own all : Journal σ} (h : WovenJournals foreign own all) :
    (p.run plane.muted.answer own).1 = (p.run plane.answer all).1 ∧
      WovenJournals foreign (p.run plane.muted.answer own).2 (p.run plane.answer all).2 := by
  induction p generalizing own all with
  | done a => exact ⟨rfl, h⟩
  | ask effect next ih =>
    obtain ⟨state, calls, records⟩ := own
    obtain ⟨_, _, records'⟩ := all
    obtain ⟨rfl, rfl, woven⟩ := h
    cases effect with
    | describe app =>
      refine ih _ ⟨rfl, rfl, woven.append (.of_foreign ?_)⟩
      exact logs.describe app state
    | start app =>
      refine ih _ ⟨rfl, rfl, woven.append (.of_foreign ?_)⟩
      exact logs.start app state
    | log record => exact ih _ ⟨rfl, rfl, woven.append (.refl [record])⟩

end ControlPlane

end StartOnReady
