import StartOnReady.Json.Decode
import StartOnReady.Proofs.Json.RoundTrip

/-!
# Decoding what was written

`Decoder.Reads` says what a decoder makes of the document of a value; `Reads.run` carries this over
to the text.  Single values are read back as they are, and a record is read member by member.
-/

namespace StartOnReady.Json

/-! ### Integers -/

/-- The digits of an integer of 64 bits stand for that integer. -/
theorem Number.ofLiteral?_integer {i : Int} (signed : Decimal.isSigned64 i = true) :
    Number.ofLiteral? ⟨i < 0, Nat.toDigits 10 i.natAbs, none, none⟩ = some (.integer i) := by
  have bounds : -0x8000000000000000 ≤ i ∧ i < 0x8000000000000000 := by
    simpa [Decimal.isSigned64] using signed
  unfold Number.ofLiteral? Decimal.Literal.wholeValue Decimal.Literal.isIntegral
  rw [Nat.ofDigitChars_ten_toDigits]
  by_cases negative : i < 0
  · have magnitude : (i.natAbs : Int) = -i := by omega
    have filled : i ≠ 0 := by omega
    simp [negative, magnitude, signed, filled]
  · have magnitude : (i.natAbs : Int) = i := by omega
    have fits : Decimal.isUnsigned64 i.natAbs = true := decide_eq_true (by omega)
    simp [negative, fits, magnitude]

namespace Decoder

variable {α σ : Type}

/-! ### Values that are read -/

/-- Whether the text of `v` is read as `a`. -/
def Reads (read : Decoder α) (v : Value) (a : α) : Prop := read v.document = .ok a

theorem Reads.run {read : Decoder α} {v : Value} {a : α} (h : Reads read v a)
    (exactly : v.isExact = true) : Decoder.run read v.render = .ok a := by
  unfold Decoder.run
  rw [Value.read_render exactly]
  simp only [bind, Except.bind, if_true]
  rw [h]

theorem reads_text (s : String) : Reads text (.string s) s := by
  simp only [Reads, Value.document, Value.stringDocument, text, pieceChars?_map,
    String.ofList_toList]

theorem reads_boolean (b : Bool) : Reads boolean (.boolean b) b := rfl

theorem reads_int64 {i : Int} (signed : Decimal.isSigned64 i = true) :
    Reads int64 (Value.ofInt i) i := by
  rw [Reads, Value.ofInt, Value.document, int64, Number.ofLiteral?_integer signed]
  exact if_pos signed

theorem reads_optional_null (read : Decoder α) : Reads (optional read) .null none := rfl

/-- A value other than `null` is read as one that is there. -/
theorem Reads.optional {read : Decoder α} {v : Value} {a : α} (h : Reads read v a)
    (filled : v ≠ .null) : Reads (optional read) v (some a) := by
  unfold Reads at h ⊢
  unfold Decoder.optional
  split
  next null =>
    refine absurd ?_ filled
    cases v with
    | number n => cases n <;> cases null
    | null => rfl
    | boolean _ | string _ | array _ | object _ => cases null
  next => rw [h]; rfl

/-! ### Records -/

theorem foldMembers_memberDocuments (step : σ → String → Decoder σ)
    (members : List (String × Value)) (s : σ) :
    foldMembers step (Value.memberDocuments members) true s =
      members.foldlM (fun s member => step s member.1 member.2.document) s := by
  induction members generalizing s with
  | nil => rfl
  | cons member members ih =>
    obtain ⟨name, v⟩ := member
    rw [Value.memberDocuments, foldMembers, memberName, Value.text?_stringDocument,
      List.foldlM_cons]
    simp only [bind, Except.bind, ih]

/-- A record that was written is read from its members in their order. -/
theorem record_document (name : String) (fields : Nat)
    (ofMembers : List (Document × Document) → (closed : Bool) → Except DecodeError α)
    (ofItems : List Document → (closed : Bool) → Except DecodeError α)
    (members : List (String × Value)) :
    record name fields ofMembers ofItems (Value.document (.object members)) =
      ofMembers (Value.memberDocuments members) true := rfl

/-- An empty slot takes what is read. -/
theorem once_none {read : Decoder α} {v : Value} {a : α} (name : String) (h : Reads read v a) :
    once name none (read v.document) = .ok (some a) := by
  rw [once, h]
  rfl

end Decoder

end StartOnReady.Json
