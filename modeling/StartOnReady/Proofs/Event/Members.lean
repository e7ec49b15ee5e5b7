import Mathlib.Data.List.Induction
import Mathlib.Data.List.Nodup
import StartOnReady.Event.Json

/-!
# Reading an event member by member

`ChangeEvent.ofValue` looks its fields up among the members of an object.  `readMembers` goes
through the members instead, as the decoders of records do, and refuses a second member for one
field (`readMembers_eq_error`).  Where no field is repeated it has nothing to refuse
(`foldlM_take_eq_ok`), and with names that are all different both give the same event
(`readMembers_eq_ok`); so it is with every object that was itself read from a text
(`readMembers_ofList`).
-/

namespace StartOnReady.ChangeEvent

open Json (DecodeError Decoder Value)

/-! ### Reading -/

/-- Reads one member into its slot.  Members of other names are passed over. -/
def Slots.take (s : Slots) : String × Value → Except DecodeError Slots
  | ("id", v) => do .ok { s with id := ← Decoder.once "id" s.id (.ok (present (some v))) }
  | ("region", v) => do
    .ok { s with region := ← Decoder.once "region" s.region (.ok (present (some v))) }
  | ("detail", v) => do
    .ok { s with detail := ← Decoder.once "detail" s.detail (.ok (detailOf (some v))) }
  | _ => .ok s

/-- The event that the members of an object make up, read in their order. -/
def readMembers (members : List (String × Value)) : Except DecodeError ChangeEvent := do
  let s ← members.foldlM Slots.take {}
  .ok ⟨s.id.getD none, s.region.getD none, s.detail.getD none⟩

/-! ### Repeated fields -/

/-- The members that an event is read from. -/
def fieldNames : List String := ["id", "region", "detail"]

/-- Whether no field has two of these names. -/
def RepeatsNone (names : List String) : Prop := ∀ field ∈ fieldNames, names.count field ≤ 1

instance (names : List String) : Decidable (RepeatsNone names) :=
  inferInstanceAs (Decidable (∀ field ∈ fieldNames, names.count field ≤ 1))

/-- Whether `name` is the first field to be repeated. -/
def IsFirstRepeated (names : List String) (name : String) : Prop :=
  ∃ before after, names = before ++ name :: after ∧ name ∈ fieldNames ∧ name ∈ before ∧
    RepeatsNone before

theorem RepeatsNone.of_cons {name : String} {names : List String}
    (none : RepeatsNone (name :: names)) : RepeatsNone names := by
  intro field known
  have bound := none field known
  rw [List.count_cons] at bound
  omega

/-- A field in front does not come again. -/
theorem RepeatsNone.not_mem {name : String} {names : List String}
    (none : RepeatsNone (name :: names)) (known : name ∈ fieldNames) : name ∉ names := by
  have bound := none name known
  rw [List.count_cons_self] at bound
  exact List.count_eq_zero.1 (by omega)

theorem repeatsNone_of_nodup {names : List String} (distinct : names.Nodup) :
    RepeatsNone names := fun field _ => List.nodup_iff_count_le_one.1 distinct field

theorem RepeatsNone.concat {name : String} {names : List String} (none : RepeatsNone names)
    (fresh : name ∈ fieldNames → name ∉ names) : RepeatsNone (names ++ [name]) := by
  intro field known
  have bound := none field known
  rw [List.count_append, List.count_singleton]
  by_cases here : name = field
  · subst here
    rw [List.count_eq_zero.2 (fresh known)]
    simp
  · simpa [here] using bound

theorem IsFirstRepeated.not_repeatsNone {names : List String} {name : String}
    (first : IsFirstRepeated names name) : ¬ RepeatsNone names := by
  obtain ⟨before, after, rfl, known, earlier, -⟩ := first
  intro none
  have bound := none name known
  have seen := List.count_pos_iff.2 earlier
  rw [List.count_append, List.count_cons_self] at bound
  omega

/-- Names that repeat a field have a first one that does. -/
theorem exists_isFirstRepeated_of_not {names : List String} (repeats : ¬ RepeatsNone names) :
    ∃ name, IsFirstRepeated names name := by
  induction names using List.reverseRecOn with
  | nil => exact absurd (fun field _ => by simp) repeats
  | append_singleton names last ih =>
    by_cases none : RepeatsNone names
    · by_cases again : last ∈ fieldNames ∧ last ∈ names
      · exact ⟨last, names, [], rfl, again.1, again.2, none⟩
      · exact absurd (none.concat fun known => fun earlier => again ⟨known, earlier⟩) repeats
    · obtain ⟨name, before, after, split, rest⟩ := ih none
      exact ⟨name, before, after ++ [last], by simp [split], rest⟩

/-! ### Nothing to refuse -/

/-- Whether none of these members has a slot that is already filled. -/
structure Slots.IsFreeFor (s : Slots) (names : List String) : Prop where
  id : "id" ∈ names → s.id = none
  region : "region" ∈ names → s.region = none
  detail : "detail" ∈ names → s.detail = none

/-- The slots with the members added to what they hold. -/
def Slots.or (s : Slots) (members : List (String × Value)) : Slots where
  id := s.id.or ((Keyed.find? "id" members).map fun v => present (some v))
  region := s.region.or ((Keyed.find? "region" members).map fun v => present (some v))
  detail := s.detail.or ((Keyed.find? "detail" members).map fun v => detailOf (some v))

theorem Slots.take_eq_ok {s : Slots} {name : String} (free : s.IsFreeFor [name]) (v : Value) :
    s.take (name, v) = .ok (s.or [(name, v)]) := by
  obtain ⟨id, region, detail⟩ := s
  unfold take
  split
  next h =>
    obtain ⟨rfl, rfl⟩ := Prod.mk.inj h
    obtain rfl : id = none := free.id List.mem_cons_self
    simp [Slots.or, Keyed.find?, Decoder.once, bind, Except.bind, Except.map]
  next h =>
    obtain ⟨rfl, rfl⟩ := Prod.mk.inj h
    obtain rfl : region = none := free.region List.mem_cons_self
    simp [Slots.or, Keyed.find?, Decoder.once, bind, Except.bind, Except.map]
  next h =>
    obtain ⟨rfl, rfl⟩ := Prod.mk.inj h
    obtain rfl : detail = none := free.detail List.mem_cons_self
    simp [Slots.or, Keyed.find?, Decoder.once, bind, Except.bind, Except.map]
  next notId notRegion notDetail =>
    have id : "id" ≠ name := by
      rintro rfl
      exact notId v rfl
    have region : "region" ≠ name := by
      rintro rfl
      exact notRegion v rfl
    have detail : "detail" ≠ name := by
      rintro rfl
      exact notDetail v rfl
    simp [Slots.or, Keyed.find?, id, region, detail]

theorem Slots.or_nil (s : Slots) : s.or [] = s := by
  simp [Slots.or, Keyed.find?]

theorem Slots.or_cons (s : Slots) (member : String × Value) (members : List (String × Value)) :
    s.or (member :: members) = (s.or [member]).or members := by
  obtain ⟨name, v⟩ := member
  have cons {α : Type} (slot : Option α) (key : String) (f : Value → α) :
      slot.or ((Keyed.find? key ((name, v) :: members)).map f) =
        (slot.or ((Keyed.find? key [(name, v)]).map f)).or ((Keyed.find? key members).map f) := by
    rw [Option.or_assoc]
    by_cases here : key = name
    · simp [Keyed.find?, here]
    · simp [Keyed.find?, here]
  simp only [Slots.or, cons]

theorem Slots.IsFreeFor.of_subset {s : Slots} {names names' : List String}
    (free : s.IsFreeFor names) (h : names' ⊆ names) : s.IsFreeFor names' :=
  ⟨fun here => free.id (h here), fun here => free.region (h here), fun here => free.detail (h here)⟩

/-- A member leaves the slots of all other names as they are. -/
theorem Slots.IsFreeFor.or {s : Slots} {name : String} {names : List String}
    (free : s.IsFreeFor (name :: names)) (fresh : name ∈ fieldNames → name ∉ names) (v : Value) :
    (s.or [(name, v)]).IsFreeFor names := by
  have other (key : String) (known : key ∈ fieldNames) (later : key ∈ names) : key ≠ name := by
    rintro rfl
    exact fresh known later
  constructor
  · intro later
    have apart := other "id" (by simp [fieldNames]) later
    simp [Slots.or, Keyed.find?, apart, free.id (List.mem_cons_of_mem _ later)]
  · intro later
    have apart := other "region" (by simp [fieldNames]) later
    simp [Slots.or, Keyed.find?, apart, free.region (List.mem_cons_of_mem _ later)]
  · intro later
    have apart := other "detail" (by simp [fieldNames]) later
    simp [Slots.or, Keyed.find?, apart, free.detail (List.mem_cons_of_mem _ later)]

theorem Slots.foldlM_take_eq_ok {s : Slots} {members : List (String × Value)}
    (free : s.IsFreeFor (members.map Prod.fst)) (none : RepeatsNone (members.map Prod.fst)) :
    members.foldlM Slots.take s = .ok (s.or members) := by
  induction members generalizing s with
  | nil => rw [Slots.or_nil]; rfl
  | cons member members ih =>
    obtain ⟨name, v⟩ := member
    have first : s.IsFreeFor [name] := free.of_subset (by simp)
    rw [List.foldlM_cons, Slots.take_eq_ok first, s.or_cons (name, v) members]
    exact ih (free.or none.not_mem v) none.of_cons

theorem Slots.isFreeFor_empty (names : List String) : ({} : Slots).IsFreeFor names :=
  ⟨fun _ => rfl, fun _ => rfl, fun _ => rfl⟩

/-- An object that repeats no field is never refused, and its event is the one that `ofValue`
gives. -/
theorem readMembers_of_repeatsNone {members : List (String × Value)}
    (none : RepeatsNone (members.map Prod.fst)) :
    ∃ event, readMembers members = .ok event ∧ ofValue (.object members) = .ok event := by
  refine ⟨_, ?_, rfl⟩
  unfold readMembers
  rw [Slots.foldlM_take_eq_ok (Slots.isFreeFor_empty _) none]
  have slot {α : Type} (f : Option Value → Option α) (absent : f Option.none = Option.none)
      (key : String) :
      (((Option.none : Option (Option α)).or
        ((Keyed.find? key members).map fun v => f (some v))).getD Option.none) =
          f (Keyed.find? key members) := by
    cases Keyed.find? key members with
    | none => exact absent.symm
    | some v => rfl
  simp only [bind, Except.bind, Slots.or, slot present rfl, slot detailOf rfl]

/-- An object whose names are all different is never refused. -/
theorem readMembers_eq_ok {members : List (String × Value)}
    (distinct : (members.map Prod.fst).Nodup) :
    ∃ event, readMembers members = .ok event ∧ ofValue (.object members) = .ok event :=
  readMembers_of_repeatsNone (repeatsNone_of_nodup distinct)

/-- Objects that were read from a text are built this way. -/
theorem readMembers_ofList (bindings : List (String × Value)) :
    ∃ event, readMembers (Keyed.ofList bindings) = .ok event ∧
      ofValue (.ofMembers bindings) = .ok event :=
  readMembers_eq_ok (Keyed.nodup_keys_ofList bindings)

/-! ### The first repeated field -/

theorem Slots.take_eq_error {name : String} {members : List (String × Value)}
    (known : name ∈ fieldNames) (earlier : name ∈ members.map Prod.fst) (v : Value) :
    (({} : Slots).or members).take (name, v) = .error (.unsuitable (.repeatedField name)) := by
  obtain ⟨w, found⟩ : ∃ w, Keyed.find? name members = some w :=
    Option.ne_none_iff_exists'.1 fun none => Keyed.find?_eq_none_iff.1 none earlier
  simp only [fieldNames, List.mem_cons, List.not_mem_nil, or_false] at known
  rcases known with rfl | rfl | rfl <;>
    simp [take, Slots.or, found, Decoder.once, bind, Except.bind]

/-- The first repeated field is what an object is refused for. -/
theorem readMembers_eq_error {members : List (String × Value)} {name : String}
    (first : IsFirstRepeated (members.map Prod.fst) name) :
    readMembers members = .error (.unsuitable (.repeatedField name)) := by
  obtain ⟨before, after, names, known, earlier, none⟩ := first
  obtain ⟨front, rest, rfl, rfl, last⟩ := List.map_eq_append_iff.1 names
  obtain ⟨⟨name, v⟩, back, rfl, rfl, rfl⟩ := List.map_eq_cons_iff.1 last
  unfold readMembers
  rw [List.foldlM_append, Slots.foldlM_take_eq_ok (Slots.isFreeFor_empty _) none]
  simp only [bind, Except.bind, List.foldlM_cons]
  rw [Slots.take_eq_error known earlier]

end StartOnReady.ChangeEvent
