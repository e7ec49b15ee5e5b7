import StartOnReady.Json.Printer
import StartOnReady.Json.Reader

/-!
# Texts that are read back

`Value.document` is the shape that the compact text of a value has, and `read_render` says that the
reader finds exactly this shape in it, whatever characters the strings of the value contain.
`text?_stringDocument` gives a string back.  Floating-point numbers are left out (`Value.isExact`): their
digits are not those of a whole number.
-/

namespace StartOnReady.Json

/-! ### Strings -/

/-- How a character of a string is written. -/
def pieceOf (c : Char) : Piece :=
  if c ∈ ['"', '\\', '\x08', '\x0c', '\n', '\r', '\t'] then .escaped c
  else if c.toNat < 0x20 then .unit c.toNat
  else .plain c

theorem readHex?_hexPadded : ∀ n < 0x20, Text.readHex? 4 0 (Text.hexPadded 4 n) = some (n, []) := by
  decide

/-- One character of a string is read back as its piece. -/
theorem readPieces?_escapedChar (c : Char) (cs : List Char) :
    readPieces? (escapedChar c ++ cs) =
      (readPieces? cs).map fun (pieces, rest) => (pieceOf c :: pieces, rest) := by
  by_cases short : c ∈ ['"', '\\', '\x08', '\x0c', '\n', '\r', '\t']
  · rw [pieceOf, if_pos short]
    simp only [List.mem_cons, List.not_mem_nil, or_false] at short
    rcases short with rfl | rfl | rfl | rfl | rfl | rfl | rfl <;>
      · simp [escapedChar, readPieces?, escape?]
        cases readPieces? cs <;> rfl
  · rw [pieceOf, if_neg short]
    simp only [List.mem_cons, List.not_mem_nil, or_false, not_or] at short
    obtain ⟨quote, backslash, back, feed, line, carriage, tab⟩ := short
    simp only [escapedChar, quote, backslash, back, feed, line, carriage, tab, if_false]
    by_cases control : c.toNat < 0x20
    · have digits := readHex?_hexPadded c.toNat control
      rw [if_pos control, if_pos control]
      simp only [Text.hexPadded, List.nil_append, List.cons_append] at digits ⊢
      rw [readPieces?, digits]
      cases readPieces? cs <;> rfl
    · rw [if_neg control, if_neg control, List.singleton_append, readPieces?]
      · simp only [control, decide_false, Bool.false_or, beq_iff_eq, backslash, if_false]
        cases readPieces? cs <;> rfl
      · exact quote
      · exact fun _ _ _ _ _ same _ => backslash same
      · exact fun _ _ same _ => backslash same

/-- The pieces of a string are read up to its closing quote. -/
theorem readPieces?_flatMap (s rest : List Char) :
    readPieces? (s.flatMap escapedChar ++ '"' :: rest) = some (s.map pieceOf, rest) := by
  induction s with
  | nil => rfl
  | cons c s ih => rw [List.flatMap_cons, List.append_assoc, readPieces?_escapedChar, ih]; rfl

theorem pieceChars?_unit {n : Nat} (low : n < 0xd800) (pieces : List Piece) :
    pieceChars? (.unit n :: pieces) = (pieceChars? pieces).map (Char.ofNat n :: ·) := by
  have outside : ¬ 0xd800 ≤ n := by omega
  have outside' : ¬ 0xdc00 ≤ n := by omega
  rcases pieces with _ | ⟨_ | _ | _, pieces⟩ <;> simp [pieceChars?, outside, outside']

/-- The pieces of a string mean its characters. -/
theorem pieceChars?_map (s : List Char) : pieceChars? (s.map pieceOf) = some s := by
  induction s with
  | nil => rfl
  | cons c s ih =>
    rw [List.map_cons, pieceOf]
    split
    · rw [pieceChars?, ih]; rfl
    · split
      next control =>
        rw [pieceChars?_unit (by omega), ih, Char.ofNat_toNat]
        rfl
      · rw [pieceChars?, ih]; rfl

/-! ### Whole numbers -/

theorem exists_toDigits_eq_cons (n : Nat) :
    ∃ d ds, Nat.toDigits 10 n = d :: ds ∧ d.isDigit = true := by
  cases known : Nat.toDigits 10 n with
  | nil => exact absurd known Nat.toDigits_ne_nil
  | cons d ds =>
    have first : d ∈ Nat.toDigits 10 n := known ▸ List.mem_cons_self
    exact ⟨d, ds, rfl, Nat.isDigit_of_mem_toDigits (by decide) (by decide) first⟩

theorem head?_toDigits_ne_zero {n : Nat} (positive : 0 < n) :
    (Nat.toDigits 10 n).head? ≠ some '0' := by
  induction n using Nat.strongRecOn with
  | ind n ih =>
    by_cases small : n < 10
    · have digit : n ≠ 0 := by omega
      simp [Nat.toDigits_of_lt_base small, digit]
    · have bound : 10 ≤ n := by omega
      rw [Nat.toDigits_of_base_le (by decide) bound, List.head?_append]
      have head := ih (n / 10) (by omega) (by omega)
      obtain ⟨d, ds, known, -⟩ := exists_toDigits_eq_cons (n / 10)
      rw [known] at head ⊢
      exact head

/-- Whether a number is at its end in front of a text. -/
def EndsNumber (rest : List Char) : Prop :=
  ∀ c ∈ rest.head?, c.isDigit = false ∧ c ≠ '.' ∧ c ≠ 'e' ∧ c ≠ 'E'

theorem EndsNumber.nil : EndsNumber [] := fun _ none => absurd none nofun

theorem EndsNumber.cons {c : Char} (rest : List Char)
    (other : c.isDigit = false ∧ c ≠ '.' ∧ c ≠ 'e' ∧ c ≠ 'E') : EndsNumber (c :: rest) := by
  intro d first
  cases first
  exact other

theorem readDigits?_toDigits (n : Nat) {rest : List Char} (ends : EndsNumber rest) :
    readDigits? (Nat.toDigits 10 n ++ rest) = some (Nat.toDigits 10 n, rest) := by
  have digits : ∀ c ∈ Nat.toDigits 10 n, c.isDigit = true := fun c member =>
    Nat.isDigit_of_mem_toDigits (by decide) (by decide) member
  have taken : rest.takeWhile Char.isDigit = [] ∧ rest.dropWhile Char.isDigit = rest := by
    cases rest with
    | nil => exact ⟨rfl, rfl⟩
    | cons c rest => simp [(ends c rfl).1]
  unfold readDigits?
  rw [List.takeWhile_append_of_pos digits, List.dropWhile_append_of_pos digits, taken.1, taken.2,
    List.append_nil]
  obtain ⟨d, ds, known, -⟩ := exists_toDigits_eq_cons n
  rw [known]

theorem readWhole?_toDigits (n : Nat) {rest : List Char} (ends : EndsNumber rest) :
    readWhole? (Nat.toDigits 10 n ++ rest) = some (Nat.toDigits 10 n, rest) := by
  have digits := readDigits?_toDigits n ends
  by_cases zero : n = 0
  · subst zero
    rw [Nat.toDigits_zero] at digits ⊢
    cases rest with
    | nil => exact digits
    | cons c rest => simp [readWhole?, (ends c rfl).1]
  · have head := head?_toDigits_ne_zero (Nat.pos_of_ne_zero zero)
    obtain ⟨d, ds, known, -⟩ := exists_toDigits_eq_cons n
    rw [known] at digits head ⊢
    rw [List.cons_append, readWhole?]
    · exact digits
    · intro c cs same
      rw [List.cons.injEq] at same
      exact head (congrArg some same.1)

theorem readMagnitude?_toDigits (negative : Bool) (n : Nat) {rest : List Char}
    (ends : EndsNumber rest) :
    readMagnitude? negative (Nat.toDigits 10 n ++ rest) =
      some (⟨negative, Nat.toDigits 10 n, none, none⟩, rest) := by
  have fraction : readFraction? rest = some (none, rest) := by
    cases rest with
    | nil => rfl
    | cons c rest =>
      rw [readFraction?]
      intro cs same
      cases same
      exact (ends '.' rfl).2.1 rfl
  have exponent : readExponent? rest = some (none, rest) := by
    cases rest with
    | nil => rfl
    | cons c rest =>
      obtain ⟨-, -, small, capital⟩ := ends c rfl
      simp [readExponent?, small, capital]
  simp [readMagnitude?, readWhole?_toDigits n ends, fraction, exponent]

/-! ### Values -/

namespace Value

mutual

/-- Whether a value is free of floating-point numbers. -/
def isExact : Value → Bool
  | .number (.real _) => false
  | .array items => areExact items
  | .object members => membersAreExact members
  | _ => true

def areExact : List Value → Bool
  | [] => true
  | item :: items => isExact item && areExact items

def membersAreExact : List (String × Value) → Bool
  | [] => true
  | (_, value) :: members => isExact value && membersAreExact members

end

/-- The document of a string. -/
def stringDocument (s : String) : Document := .string (s.toList.map pieceOf)

mutual

/-- The shape of the text of a value. -/
def document : Value → Document
  | .null => .null
  | .boolean b => .boolean b
  | .number (.integer i) => .number ⟨i < 0, Nat.toDigits 10 i.natAbs, none, none⟩
  | .number (.real _) => .broken
  | .string s => stringDocument s
  | .array items => .array (itemDocuments items) true
  | .object members => .object (memberDocuments members) true

def itemDocuments : List Value → List Document
  | [] => []
  | item :: items => document item :: itemDocuments items

def memberDocuments : List (String × Value) → List (Document × Document)
  | [] => []
  | (name, value) :: members => (stringDocument name, document value) :: memberDocuments members

end

mutual

/-- A number of steps in which a value is read. -/
def steps : Value → Nat
  | .array items => 1 + itemSteps items
  | .object members => 1 + memberSteps members
  | _ => 1

def itemSteps : List Value → Nat
  | [] => 0
  | item :: items => 1 + steps item + itemSteps items

def memberSteps : List (String × Value) → Nat
  | [] => 0
  | (_, value) :: members => 1 + steps value + memberSteps members

end

theorem steps_pos (v : Value) : 0 < v.steps := by
  cases v <;> simp only [steps] <;> omega

theorem isJsonBlank_eq_false_of_isDigit {c : Char} (digit : c.isDigit = true) :
    isJsonBlank c = false := by
  simp only [isJsonBlank, Bool.or_eq_false_iff, beq_eq_false_iff_ne]
  refine ⟨⟨⟨?_, ?_⟩, ?_⟩, ?_⟩ <;>
    · rintro rfl
      cases digit

/-- A text of a value begins with a character that stands for no blank and no end. -/
theorem exists_chars_eq_cons {v : Value} (exact : v.isExact = true) :
    ∃ c cs, v.chars = c :: cs ∧ isJsonBlank c = false ∧ c ≠ ']' ∧ c ≠ '\x7d' := by
  cases v with
  | null | string s | array items | object members =>
    exact ⟨_, _, rfl, by decide, by decide, by decide⟩
  | boolean b => cases b <;> exact ⟨_, _, rfl, by decide, by decide, by decide⟩
  | number n =>
    cases n with
    | real x => cases exact
    | integer i =>
      by_cases negative : i < 0
      · refine ⟨'-', Nat.toDigits 10 i.natAbs, ?_, by decide, by decide, by decide⟩
        simp [chars, Number.chars, integerChars, negative]
      · obtain ⟨d, ds, known, digit⟩ := exists_toDigits_eq_cons i.natAbs
        refine ⟨d, ds, by simp [chars, Number.chars, integerChars, negative, known],
          isJsonBlank_eq_false_of_isDigit digit, ?_, ?_⟩ <;>
          · rintro rfl
            cases digit

theorem drop_itemChars (item : Value) (items : List Value) :
    (itemChars (item :: items)).drop 1 = item.chars ++ itemChars items := by
  simp [itemChars]

theorem drop_memberChars (name : String) (v : Value) (members : List (String × Value)) :
    (memberChars ((name, v) :: members)).drop 1 =
      stringChars name ++ ':' :: v.chars ++ memberChars members := by
  simp [memberChars]

theorem skipBlanks_of_head {c : Char} (cs : List Char) (filled : isJsonBlank c = false) :
    skipBlanks (c :: cs) = c :: cs := by
  simp [skipBlanks, filled]

theorem readDocument_stringChars (s : String) (rest : List Char) (steps : Nat) :
    readDocument (steps + 1) (stringChars s ++ rest) = (stringDocument s, rest) := by
  have text : stringChars s ++ rest = '"' :: (s.toList.flatMap escapedChar ++ '"' :: rest) := by
    simp [stringChars]
  rw [text, readDocument, skipBlanks_of_head _ (by decide)]
  simp [readPieces?_flatMap, orBroken, stringDocument]

theorem readDocument_integerChars (i : Int) {rest : List Char} (ends : EndsNumber rest)
    (steps : Nat) :
    readDocument (steps + 1) (integerChars i ++ rest) =
      (.number ⟨i < 0, Nat.toDigits 10 i.natAbs, none, none⟩, rest) := by
  by_cases negative : i < 0
  · have text : integerChars i ++ rest = '-' :: (Nat.toDigits 10 i.natAbs ++ rest) := by
      simp [integerChars, negative]
    rw [text, readDocument, skipBlanks_of_head _ (by decide)]
    simp [readMagnitude?_toDigits true _ ends, orBroken, negative]
  · have text : integerChars i ++ rest = Nat.toDigits 10 i.natAbs ++ rest := by
      simp [integerChars, negative]
    have read := readMagnitude?_toDigits false i.natAbs ends
    obtain ⟨d, ds, known, digit⟩ := exists_toDigits_eq_cons i.natAbs
    rw [known, List.cons_append] at read
    rw [text, known, List.cons_append, readDocument,
      skipBlanks_of_head _ (isJsonBlank_eq_false_of_isDigit digit)]
    split
    -- A digit is none of the seven characters that begin another document.
    case h_8 => simp [read, orBroken, negative]
    all_goals
      next same =>
        cases same
        cases digit

theorem endsNumber_itemChars (items : List Value) (rest : List Char) :
    EndsNumber (itemChars items ++ ']' :: rest) := by
  cases items <;> exact .cons _ (by decide)

theorem endsNumber_memberChars (members : List (String × Value)) (rest : List Char) :
    EndsNumber (memberChars members ++ '\x7d' :: rest) := by
  cases members <;> exact .cons _ (by decide)

mutual

/-- The text of a value is read back as its document, whatever follows. -/
theorem readDocument_chars (v : Value) (exact : v.isExact = true) (steps : Nat)
    (enough : v.steps ≤ steps) {rest : List Char} (ends : EndsNumber rest) :
    readDocument steps (v.chars ++ rest) = (v.document, rest) := by
  obtain ⟨steps, rfl⟩ : ∃ n, steps = n + 1 :=
    Nat.exists_eq_succ_of_ne_zero (by have := v.steps_pos; omega)
  match v with
  | .null =>
    simp [chars, readDocument, skipBlanks_of_head, readWord?, orBroken, document, isJsonBlank]
  | .boolean b =>
    cases b <;>
      simp [chars, readDocument, skipBlanks_of_head, readWord?, orBroken, document, isJsonBlank]
  | .number (.integer i) => exact readDocument_integerChars i ends steps
  | .number (.real x) => cases exact
  | .string s => exact readDocument_stringChars s rest steps
  | .array [] =>
    simp [chars, itemChars, readDocument, skipBlanks_of_head, document, itemDocuments, isJsonBlank]
  | .array (item :: items) =>
    have enough : itemSteps (item :: items) ≤ steps := by
      simp only [Value.steps] at enough
      omega
    have read := readItems_itemChars item items exact steps enough rest
    have first : item.isExact = true := (Bool.and_eq_true_iff.1 exact).1
    obtain ⟨c, cs, begins, filled, other, -⟩ := exists_chars_eq_cons first
    rw [begins, List.cons_append] at read
    rw [chars, drop_itemChars, begins]
    simp only [List.append_assoc, List.cons_append]
    rw [readDocument, skipBlanks_of_head _ (by decide)]
    simp [skipBlanks_of_head _ filled, read, other, document]
  | .object [] =>
    simp [chars, memberChars, readDocument, skipBlanks_of_head, document, memberDocuments,
      isJsonBlank]
  | .object ((name, value) :: members) =>
    have enough : memberSteps ((name, value) :: members) ≤ steps := by
      simp only [Value.steps] at enough
      omega
    have read := readMembers_memberChars name value members exact steps enough rest
    obtain ⟨cs, begins⟩ : ∃ cs, stringChars name = '"' :: cs := ⟨_, rfl⟩
    rw [begins, List.cons_append] at read
    rw [chars, drop_memberChars, begins]
    simp only [List.append_assoc, List.cons_append]
    rw [readDocument, skipBlanks_of_head _ (by decide)]
    simp [skipBlanks_of_head, isJsonBlank, read, document]
termination_by steps

theorem readItems_itemChars (item : Value) (items : List Value)
    (exact : areExact (item :: items) = true) (steps : Nat)
    (enough : itemSteps (item :: items) ≤ steps) (rest : List Char) :
    readItems steps (item.chars ++ (itemChars items ++ ']' :: rest)) =
      (itemDocuments (item :: items), true, rest) := by
  simp only [itemSteps] at enough
  obtain ⟨steps, rfl⟩ : ∃ n, steps = n + 1 := Nat.exists_eq_succ_of_ne_zero (by omega)
  obtain ⟨first, others⟩ := Bool.and_eq_true_iff.1 exact
  have head := readDocument_chars item first steps (by omega) (endsNumber_itemChars items rest)
  rw [readItems, head]
  match items with
  | [] => simp [itemChars, skipBlanks_of_head, isJsonBlank, itemDocuments]
  | next :: items =>
    have tail := readItems_itemChars next items others steps (by omega) rest
    simp only [itemChars, List.cons_append, List.append_assoc]
    rw [skipBlanks_of_head _ (by decide)]
    simp [tail, itemDocuments]
termination_by steps

theorem readMembers_memberChars (name : String) (value : Value) (members : List (String × Value))
    (exact : membersAreExact ((name, value) :: members) = true) (steps : Nat)
    (enough : memberSteps ((name, value) :: members) ≤ steps) (rest : List Char) :
    readMembers steps
        (stringChars name ++ ':' :: (value.chars ++ (memberChars members ++ '\x7d' :: rest))) =
      (memberDocuments ((name, value) :: members), true, rest) := by
  simp only [memberSteps] at enough
  obtain ⟨steps, rfl⟩ : ∃ n, steps = n + 2 :=
    ⟨steps - 2, by have := value.steps_pos; omega⟩
  obtain ⟨first, others⟩ := Bool.and_eq_true_iff.1 exact
  have head := readDocument_chars value first (steps + 1) (by omega)
    (endsNumber_memberChars members rest)
  rw [readMembers, readDocument_stringChars]
  simp only [stringDocument, Document.isString]
  rw [skipBlanks_of_head _ (by decide)]
  simp only [head]
  match members with
  | [] => simp [memberChars, skipBlanks_of_head, isJsonBlank, memberDocuments, stringDocument]
  | (name', value') :: members =>
    have tail := readMembers_memberChars name' value' members others (steps + 1) (by omega) rest
    simp only [memberChars, List.cons_append, List.append_assoc]
    rw [skipBlanks_of_head _ (by decide)]
    simp [tail, memberDocuments, stringDocument]
termination_by steps

end

mutual

/-- The steps that the reader takes for a whole text are enough. -/
theorem steps_le_length_chars : (v : Value) → v.steps ≤ 2 * v.chars.length + 1
  | .null | .boolean _ | .number _ | .string _ => by simp [steps]
  | .array items => by
    have := itemSteps_le_length_itemChars items
    simp only [steps, chars, List.length_append, List.length_cons, List.length_drop]
    omega
  | .object members => by
    have := memberSteps_le_length_memberChars members
    simp only [steps, chars, List.length_append, List.length_cons, List.length_drop]
    omega

theorem itemSteps_le_length_itemChars :
    (items : List Value) → itemSteps items ≤ 2 * (itemChars items).length
  | [] => by simp [itemSteps]
  | item :: items => by
    have := item.steps_le_length_chars
    have := itemSteps_le_length_itemChars items
    simp only [itemSteps, itemChars, List.length_append, List.length_cons]
    omega

theorem memberSteps_le_length_memberChars :
    (members : List (String × Value)) → memberSteps members ≤ 2 * (memberChars members).length
  | [] => by simp [memberSteps]
  | (name, value) :: members => by
    have := value.steps_le_length_chars
    have := memberSteps_le_length_memberChars members
    simp only [memberSteps, memberChars, List.length_append, List.length_cons]
    omega

end

/-- The text of a value is a whole document, that of the value. -/
theorem read_render {v : Value} (exact : v.isExact = true) :
    Document.read v.render = (v.document, true) := by
  have steps := v.steps_le_length_chars
  have read := readDocument_chars v exact (2 * v.chars.length + 2) (by omega) .nil
  rw [List.append_nil] at read
  simp [Document.read, render, read, skipBlanks]

/-- A string is read back from its document. -/
theorem text?_stringDocument (s : String) : (stringDocument s).text? = some s := by
  rw [stringDocument, Document.text?, pieceChars?_map, Option.map_some, String.ofList_toList]

theorem toValue?_stringDocument (s : String) (levels : Nat) :
    (stringDocument s).toValue? levels = some (.string s) := by
  rw [stringDocument, Document.toValue?, pieceChars?_map, Option.map_some, String.ofList_toList]

end Value

end StartOnReady.Json
