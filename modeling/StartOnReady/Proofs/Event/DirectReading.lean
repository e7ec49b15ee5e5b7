import Mathlib
import StartOnReady.Proofs.Event.Members

/-!
# Reading an event from its text

`ChangeEvent.decoder` works on the document of a text, `ChangeEvent.ofValue` on its value.  A document
with a value leaves the decoder no fault of a text (`isWhole_of_toValue?`, `memberDecoder_eq_ok`), so
that for an object it comes to reading the written members one by one
(`decoder_object_eq_readMembers`).  `decoder_agrees_ofValue` says where the two ways part.
-/

namespace StartOnReady

open Json (DecodeError Decoder Document Value)

/-! ### Documents with values -/

namespace Json.Document

mutual

/-- A part with a value can be passed over. -/
theorem isWhole_of_toValue? {d : Document} {levels : Nat} {v : Value}
    (read : d.toValue? levels = some v) :
    d.isWhole = true := by
  match d, levels, read with
  | .null, _, _ | .boolean _, _, _ | .number _, _, _ | .string _, _, _ => rfl
  | .array items true, levels + 1, read =>
    rw [toValue?, Option.map_eq_some_iff] at read
    obtain ⟨values, read, -⟩ := read
    simpa [isWhole] using areWhole_of_toItems? read
  | .object members true, levels + 1, read =>
    rw [toValue?, Option.map_eq_some_iff] at read
    obtain ⟨bindings, read, -⟩ := read
    simpa [isWhole] using membersAreWhole_of_toMembers? read

theorem areWhole_of_toItems? {items : List Document} {levels : Nat} {values : List Value}
    (read : toItems? items levels = some values) : areWhole items = true := by
  match items, read with
  | [], _ => rfl
  | item :: items, read =>
    simp only [toItems?, Option.bind_eq_bind, Option.bind_eq_some_iff] at read
    obtain ⟨v, first, vs, rest, -⟩ := read
    rw [areWhole, isWhole_of_toValue? first, areWhole_of_toItems? rest, Bool.and_true]

theorem membersAreWhole_of_toMembers? {members : List (Document × Document)} {levels : Nat}
    {bindings : List (String × Value)} (read : toMembers? members levels = some bindings) :
    membersAreWhole members = true := by
  match members, read with
  | [], _ => rfl
  | (name, item) :: members, read =>
    simp only [toMembers?, Option.bind_eq_bind, Option.bind_eq_some_iff] at read
    obtain ⟨s, named, v, first, vs, rest, -⟩ := read
    have text : name.isString = true := by
      cases name with
      | string => rfl
      | null | boolean _ | number _ | array _ _ | object _ _ | broken => cases named
    rw [membersAreWhole, text, isWhole_of_toValue? first, membersAreWhole_of_toMembers? rest]
    rfl

end

/-- Only null is read as null. -/
theorem eq_null_of_toValue? {d : Document} {levels : Nat}
    (read : d.toValue? levels = some .null) : d = .null := by
  cases d with
  | null => rfl
  | boolean _ | number _ | string _ => simp [toValue?] at read
  | array items closed =>
    cases closed <;> cases levels <;> simp [toValue?] at read
  | object members closed =>
    cases closed <;> cases levels <;> simp [toValue?, Value.ofMembers] at read
  | broken => cases read

theorem length_of_toItems? {items : List Document} {levels : Nat} {values : List Value}
    (read : toItems? items levels = some values) : values.length = items.length := by
  induction items generalizing values with
  | nil =>
    cases read
    rfl
  | cons item items ih =>
    simp only [toItems?, Option.bind_eq_bind, Option.bind_eq_some_iff] at read
    obtain ⟨v, first, vs, rest, same⟩ := read
    cases same
    simp [ih rest]

theorem getElem?_of_toItems? {items : List Document} {levels : Nat} {values : List Value}
    (read : toItems? items levels = some values) (place : Nat) :
    items[place]?.map (toValue? · levels) = values[place]?.map some := by
  induction items generalizing values place with
  | nil =>
    cases read
    rfl
  | cons item items ih =>
    simp only [toItems?, Option.bind_eq_bind, Option.bind_eq_some_iff] at read
    obtain ⟨v, first, vs, rest, same⟩ := read
    cases same
    cases place with
    | zero => simp [first]
    | succ place => simpa using ih rest place

end Json.Document

/-! ### Members that are read -/

namespace ChangeEvent

open Json.Document (toValue? toItems? toMembers?)

variable {d : Document} {v : Value}

theorem present_some_of_ne (filled : v ≠ .null) : present (some v) = some v := by
  cases v with
  | null => exact absurd rfl filled
  | boolean _ | number _ | string _ | array _ | object _ => rfl

theorem detailOf_present (member : Option Value) : detailOf (present member) = detailOf member := by
  rcases member with _ | v
  · rfl
  · cases v <;> rfl

theorem memberDecoder_eq_ok (read : d.toValue? memberLevels = some v) :
    memberDecoder d = .ok (present (some v)) := by
  by_cases null : d = .null
  · subst null
    cases read
    rfl
  · have filled : v ≠ .null := by
      rintro rfl
      exact null (Document.eq_null_of_toValue? read)
    rw [present_some_of_ne filled, memberDecoder, Decoder.optional]
    · rw [Decoder.value, read]
      rfl
    · exact null

theorem detailDecoder_eq_ok (read : d.toValue? memberLevels = some v) :
    detailDecoder d = .ok (detailOf (some v)) := by
  rw [detailDecoder, memberDecoder_eq_ok read, ← detailOf_present (some v)]
  rfl

/-- A member of a document is taken as its value is. -/
theorem Slots.step_eq_take (s : Slots) (name : String)
    (read : d.toValue? memberLevels = some v) : s.step name d = s.take (name, v) := by
  unfold step
  split
  · rw [memberDecoder_eq_ok read, take]
  · rw [memberDecoder_eq_ok read, take]
  · rw [detailDecoder_eq_ok read, take]
  next notId notRegion notDetail =>
    rw [Decoder.skip, Document.isWhole_of_toValue? read, take]
    · rfl
    · exact fun _ same => notId (Prod.mk.inj same).1
    · exact fun _ same => notRegion (Prod.mk.inj same).1
    · exact fun _ same => notDetail (Prod.mk.inj same).1

theorem foldMembers_eq_foldlM {members : List (Document × Document)}
    {written : List (String × Value)} (read : toMembers? members memberLevels = some written)
    (s : Slots) : Decoder.foldMembers Slots.step members true s = written.foldlM Slots.take s := by
  induction members generalizing written s with
  | nil =>
    cases read
    rfl
  | cons member members ih =>
    obtain ⟨name, item⟩ := member
    simp only [toMembers?, Option.bind_eq_bind, Option.bind_eq_some_iff] at read
    obtain ⟨text, named, v, first, rest, others, same⟩ := read
    cases same
    rw [Decoder.foldMembers, Decoder.memberName, named, List.foldlM_cons]
    simp only [bind, Except.bind]
    rw [Slots.step_eq_take s text first]
    cases s.take (text, v) with
    | error e => rfl
    | ok s => exact ih others s

theorem decoder_object_eq_readMembers {members : List (Document × Document)}
    {written : List (String × Value)} (read : toMembers? members memberLevels = some written) :
    decoder (.object members true) = readMembers written := by
  rw [decoder, Decoder.record, readMembers, foldMembers_eq_foldlM read]

theorem itemAt_eq_ok {α : Type} {items : List Document} {values : List Value}
    (read : toItems? items memberLevels = some values) {decode : Decoder α} {f : Value → α}
    (decodes : ∀ {d : Document} {v : Value}, d.toValue? memberLevels = some v →
      decode d = .ok (f v)) (place : Nat) :
    Decoder.itemAt items true place decode = .ok (values[place]?.map f) := by
  have same := Document.getElem?_of_toItems? read place
  unfold Decoder.itemAt
  cases item : items[place]? with
  | none =>
    rw [item, Option.map_none, eq_comm, Option.map_eq_none_iff] at same
    rw [same]
    rfl
  | some d =>
    rw [item, Option.map_some, eq_comm, Option.map_eq_some_iff] at same
    obtain ⟨v, found, known⟩ := same
    simp [found, decodes known.symm, Except.map]

/-! ### Texts -/

/-- The event that three items make up in the order of the fields. -/
def ofItems (items : List Value) : ChangeEvent where
  id := present items[0]?
  region := present items[1]?
  detail := detailOf items[2]?

/-- The event of the last member for each field. -/
def ofLast (written : List (String × Value)) : ChangeEvent where
  id := present (Keyed.find? "id" written.reverse)
  region := present (Keyed.find? "region" written.reverse)
  detail := detailOf (Keyed.find? "detail" written.reverse)

theorem ofValue_ofMembers (written : List (String × Value)) :
    ofValue (.ofMembers written) = .ok (ofLast written) := by
  simp only [Value.ofMembers, ofValue, ofLast, Keyed.find?_ofList_reverse]

theorem readMembers_eq_ofLast {written : List (String × Value)}
    (none : RepeatsNone (written.map Prod.fst)) : readMembers written = .ok (ofLast written) := by
  have last {field : String} (known : field ∈ fieldNames) :
      Keyed.find? field written.reverse = Keyed.find? field written :=
    Keyed.find?_reverse_of_count_le_one (none field known)
  obtain ⟨event, read, first⟩ := readMembers_of_repeatsNone none
  have same : ofValue (.object written) = .ok (ofLast written) := by
    rw [ofValue, ofLast, last (by simp [fieldNames]), last (by simp [fieldNames]),
      last (by simp [fieldNames])]
  rw [read, Except.ok.inj (first.symm.trans same)]

theorem decoder_array {items : List Document} {values : List Value}
    (read : toItems? items memberLevels = some values) :
    decoder (.array items true) =
      if values.length ≤ 3 then .ok (ofItems values) else .error .malformed := by
  have single (place : Nat) : (values[place]?.map fun v => present (some v)).getD none =
      present values[place]? := by
    cases values[place]? <;> rfl
  have nested : (values[2]?.map fun v => detailOf (some v)).getD none = detailOf values[2]? := by
    cases values[2]? <;> rfl
  rw [decoder, Decoder.record]
  simp only [itemAt_eq_ok read memberDecoder_eq_ok, itemAt_eq_ok read detailDecoder_eq_ok, bind,
    Except.bind, Decoder.endOfItems, Bool.true_and, ← Document.length_of_toItems? read, single,
    nested, decide_eq_true_eq]
  by_cases short : values.length ≤ 3
  · simp [short, ofItems]
  · simp [short]

theorem exists_refuse_eq_error {α : Type} (expected : String) (d : Document) :
    ∃ e, (Decoder.refuse expected d : Except DecodeError α) = .error e := by
  rw [Decoder.refuse]
  cases Decoder.found d <;> exact ⟨_, rfl⟩

theorem read_of_parse? {text : String} (parsed : Value.parse? text = some v) :
    ∃ d, Document.read text = (d, true) ∧ d.toValue? Json.maxLevels = some v := by
  unfold Value.parse? at parsed
  split at parsed
  next d read => exact ⟨d, read, parsed⟩
  · cases parsed

theorem run_of_read {text : String} (read : Document.read text = (d, true)) :
    Decoder.run decoder text = decoder d := by
  rw [Decoder.run, read]
  simp only [bind, Except.bind]
  cases decoder d <;> rfl

/-! ### Both ways -/

/-- The members that an object is written with, in their order. -/
def membersOf? : Document → Option (List (String × Value))
  | .object members _ => toMembers? members memberLevels
  | _ => none

/-- The members that the object of a text is written with. -/
def writtenMembers? (text : String) : Option (List (String × Value)) :=
  membersOf? (Document.read text).1

/-- Whether two readings give the same event or both fail. -/
inductive Agree {ε ε' : Type} : Except ε ChangeEvent → Except ε' ChangeEvent → Prop
  | event (event : ChangeEvent) : Agree (.ok event) (.ok event)
  | failure (e : ε) (e' : ε') : Agree (.error e) (.error e')

/-- What a text with a value is, and what its two readings come to. -/
inductive Readings (text : String) : Value → Except DecodeError ChangeEvent →
    Except EventError ChangeEvent → Prop
  | object {written : List (String × Value)} (members : writtenMembers? text = some written)
      (none : RepeatsNone (written.map Prod.fst)) :
      Readings text (.ofMembers written) (.ok (ofLast written)) (.ok (ofLast written))
  | repeated {written : List (String × Value)} {name : String}
      (members : writtenMembers? text = some written)
      (first : IsFirstRepeated (written.map Prod.fst) name) :
      Readings text (.ofMembers written) (.error (.unsuitable (.repeatedField name)))
        (.ok (ofLast written))
  | short {items : List Value} (members : writtenMembers? text = none)
      (short : items.length ≤ 3) :
      Readings text (.array items) (.ok (ofItems items)) (.error (.notAnObject .array))
  | long {items : List Value} {e : DecodeError} (members : writtenMembers? text = none)
      (long : 3 < items.length) :
      Readings text (.array items) (.error e) (.error (.notAnObject .array))
  | scalar {v : Value} {e : DecodeError} (members : writtenMembers? text = none)
      (notObject : v.kind ≠ .object) (notArray : v.kind ≠ .array) :
      Readings text v (.error e) (.error (.notAnObject v.kind))

/-- A text with a value is read in one of these ways. -/
theorem readings {text : String} (parsed : Value.parse? text = some v) :
    Readings text v (Decoder.run decoder text) (ofValue v) := by
  obtain ⟨d, read, valued⟩ := read_of_parse? parsed
  have members : writtenMembers? text = membersOf? d := by rw [writtenMembers?, read]
  rw [run_of_read read]
  cases d with
  | object ms closed =>
    cases closed with
    | false => cases valued
    | true =>
      obtain ⟨written, known, rfl⟩ := Option.map_eq_some_iff.1 valued
      have members : writtenMembers? text = some written := members.trans known
      rw [decoder_object_eq_readMembers known, ofValue_ofMembers]
      by_cases none : RepeatsNone (written.map Prod.fst)
      · rw [readMembers_eq_ofLast none]
        exact .object members none
      · obtain ⟨name, first⟩ := exists_isFirstRepeated_of_not none
        rw [readMembers_eq_error first]
        exact .repeated members first
  | array items closed =>
    cases closed with
    | false => cases valued
    | true =>
      obtain ⟨values, known, rfl⟩ := Option.map_eq_some_iff.1 valued
      rw [decoder_array known]
      by_cases short : values.length ≤ 3
      · rw [if_pos short]
        exact .short members short
      · rw [if_neg short]
        exact .long members (by omega)
  | null | boolean _ =>
    cases valued
    exact .scalar members nofun nofun
  | number literal =>
    obtain ⟨n, -, rfl⟩ := Option.map_eq_some_iff.1 valued
    obtain ⟨e, failed⟩ := exists_refuse_eq_error (α := ChangeEvent) "struct ChangeEvent"
      (.number literal)
    have failed : decoder (.number literal) = .error e := failed
    rw [failed]
    exact .scalar members nofun nofun
  | string pieces =>
    obtain ⟨cs, -, rfl⟩ := Option.map_eq_some_iff.1 valued
    obtain ⟨e, failed⟩ := exists_refuse_eq_error (α := ChangeEvent) "struct ChangeEvent"
      (.string pieces)
    have failed : decoder (.string pieces) = .error e := failed
    rw [failed]
    exact .scalar members nofun nofun
  | broken => cases valued

theorem isFirstRepeated_unique {written : List (String × Value)} {name name' : String}
    (first : IsFirstRepeated (written.map Prod.fst) name)
    (first' : IsFirstRepeated (written.map Prod.fst) name') : name = name' := by
  have same := (readMembers_eq_error first).symm.trans (readMembers_eq_error first')
  simpa using same

namespace Readings

variable {text : String} {direct : Except DecodeError ChangeEvent}
  {indirect : Except EventError ChangeEvent}

theorem kind_eq_object_iff (h : Readings text v direct indirect) :
    v.kind = .object ↔ ∃ written, writtenMembers? text = some written := by
  cases h with
  | object members | repeated members => simp [members, Value.ofMembers, Value.kind]
  | short members | long members => simp [members, Value.kind]
  | scalar members notObject => simp [members, notObject]

theorem of_written (h : Readings text v direct indirect) {written : List (String × Value)}
    (known : writtenMembers? text = some written) :
    v = .ofMembers written ∧ indirect = .ok (ofLast written) ∧
      (RepeatsNone (written.map Prod.fst) → direct = .ok (ofLast written)) ∧
      ∀ name, IsFirstRepeated (written.map Prod.fst) name →
        direct = .error (.unsuitable (.repeatedField name)) := by
  cases h with
  | object members none =>
    cases members.symm.trans known
    exact ⟨rfl, rfl, fun _ => rfl, fun name first => absurd none first.not_repeatsNone⟩
  | repeated members first =>
    cases members.symm.trans known
    refine ⟨rfl, rfl, fun none => absurd none first.not_repeatsNone, fun name first' => ?_⟩
    rw [isFirstRepeated_unique first first']
  | short members | long members | scalar members => cases members.symm.trans known

theorem of_array {items : List Value} (h : Readings text (.array items) direct indirect) :
    indirect = .error (.notAnObject .array) ∧
      (items.length ≤ 3 → direct = .ok (ofItems items)) ∧
      (3 < items.length → ∃ e, direct = .error e) := by
  cases h with
  | short members short => exact ⟨rfl, fun _ => rfl, fun long => by omega⟩
  | long members long => exact ⟨rfl, fun short => by omega, fun _ => ⟨_, rfl⟩⟩
  | scalar members notObject notArray => exact absurd rfl notArray

theorem of_scalar (h : Readings text v direct indirect) (notObject : v.kind ≠ .object)
    (notArray : v.kind ≠ .array) :
    (∃ e, direct = .error e) ∧ indirect = .error (.notAnObject v.kind) := by
  cases h with
  | object | repeated => exact absurd rfl notObject
  | short | long => exact absurd rfl notArray
  | scalar => exact ⟨⟨_, rfl⟩, rfl⟩

theorem agree_iff (h : Readings text v direct indirect) :
    Agree direct indirect ↔
      ¬ ((∃ written name, writtenMembers? text = some written ∧
          IsFirstRepeated (written.map Prod.fst) name) ∨
        ∃ items, v = .array items ∧ items.length ≤ 3) := by
  cases h with
  | @object written members none =>
    refine iff_of_true (.event _) ?_
    rintro (⟨written', name, known, first⟩ | ⟨items, same, -⟩)
    · cases members.symm.trans known
      exact first.not_repeatsNone none
    · cases same
  | repeated members first =>
    exact iff_of_false nofun (not_not_intro (Or.inl ⟨_, _, members, first⟩))
  | short members short =>
    exact iff_of_false nofun (not_not_intro (Or.inr ⟨_, rfl, short⟩))
  | long members long =>
    refine iff_of_true (.failure _ _) ?_
    rintro (⟨written, name, known, -⟩ | ⟨items, same, short⟩)
    · cases members.symm.trans known
    · cases same
      omega
  | scalar members notObject notArray =>
    refine iff_of_true (.failure _ _) ?_
    rintro (⟨written, name, known, -⟩ | ⟨items, same, -⟩)
    · cases members.symm.trans known
    · rw [same] at notArray
      exact notArray rfl

end Readings

/-- A text that is JSON gives the same event whether its document is decoded or its value is read, or
no event either way, with exactly two exceptions.  Where the object of the text repeats a field, its
first repeated field is the error of the decoding, while the value holds the last member of each
name.  An array of at most three items is decoded as the fields in their order, while its value is
no object. -/
theorem decoder_agrees_ofValue {text : String} {v : Value} (parsed : Value.parse? text = some v) :
    let direct := Decoder.run decoder text
    let indirect := ofValue v
    (v.kind = .object ↔ ∃ written, writtenMembers? text = some written) ∧
    (∀ written, writtenMembers? text = some written →
      v = .ofMembers written ∧ indirect = .ok (ofLast written) ∧
        (RepeatsNone (written.map Prod.fst) → direct = .ok (ofLast written)) ∧
        ∀ name, IsFirstRepeated (written.map Prod.fst) name →
          direct = .error (.unsuitable (.repeatedField name))) ∧
    (∀ items, v = .array items →
      indirect = .error (.notAnObject .array) ∧
        (items.length ≤ 3 → direct = .ok (ofItems items)) ∧
        (3 < items.length → ∃ e, direct = .error e)) ∧
    (v.kind ≠ .object → v.kind ≠ .array →
      (∃ e, direct = .error e) ∧ indirect = .error (.notAnObject v.kind)) ∧
    (Agree direct indirect ↔
      ¬ ((∃ written name, writtenMembers? text = some written ∧
          IsFirstRepeated (written.map Prod.fst) name) ∨
        ∃ items, v = .array items ∧ items.length ≤ 3)) := by
  intro direct indirect
  have way : Readings text v direct indirect := readings parsed
  refine ⟨way.kind_eq_object_iff, fun written known => way.of_written known, fun items listed => ?_,
    way.of_scalar, way.agree_iff⟩
  rw [listed] at way
  exact way.of_array

/-- A text that repeats the name of the event inside its detail and an unread member beside it, and
writes a field with an escape. -/
def repeatsInside : String :=
  "\x7b\"extra\":1,\"\\u0072egion\":\"us-east-1\",\"extra\":2,\"detail\":" ++
    "\x7b\"eventName\":1,\"eventName\":\"CreateApplication\"\x7d\x7d"

/-- A text that repeats two fields; the second to be written twice is met first. -/
def repeatsFields : String :=
  "\x7b\"id\":1,\"region\":\"a\",\"\\u0072egion\":\"b\",\"id\":2\x7d"

/-- Repeated members inside the detail make no difference; of the repeated fields, the first one to
come again is refused, and the value has the last member of each. -/
theorem decoder_agrees_ofValue_of_repeats :
    (∃ v, Value.parse? repeatsInside = some v ∧
      Agree (Decoder.run decoder repeatsInside) (ofValue v)) ∧
    ∃ v, Value.parse? repeatsFields = some v ∧
      Decoder.run decoder repeatsFields = .error (.unsuitable (.repeatedField "region")) ∧
      ofValue v = .ok ⟨some (.ofInt 2), some (.string "b"), none⟩ := by
  have inside : writtenMembers? repeatsInside = some [("extra", .ofInt 1),
      ("region", .string "us-east-1"), ("extra", .ofInt 2),
      ("detail", .object [("eventName", .string "CreateApplication")])] := by cbv
  have fields : writtenMembers? repeatsFields = some [("id", .ofInt 1), ("region", .string "a"),
      ("region", .string "b"), ("id", .ofInt 2)] := by cbv
  have parses : (Value.parse? repeatsInside).isSome = true := by decide +kernel
  have parses' : (Value.parse? repeatsFields).isSome = true := by decide +kernel
  obtain ⟨v, parsed⟩ := Option.isSome_iff_exists.1 parses
  obtain ⟨v', parsed'⟩ := Option.isSome_iff_exists.1 parses'
  refine ⟨⟨v, parsed, ?_⟩, v', parsed', ?_⟩
  · have agreed := decoder_agrees_ofValue parsed
    refine agreed.2.2.2.2.2 ?_
    rintro (⟨written, name, known, first⟩ | ⟨items, listed, -⟩)
    · cases inside.symm.trans known
      exact first.not_repeatsNone (by decide)
    · have object := agreed.1.2 ⟨_, inside⟩
      rw [listed] at object
      cases object
  · obtain ⟨-, last, -, refused⟩ := (decoder_agrees_ofValue parsed').2.1 _ fields
    refine ⟨refused "region" ⟨["id", "region"], ["id"], rfl, ?_, ?_, ?_⟩, last⟩
    · decide
    · decide
    · decide

end ChangeEvent

end StartOnReady
