import Mathlib.Data.List.Forall2
import StartOnReady.Proofs.Settings.Readable

/-!
# Strings between quotes

`Spells written chars` says which characters are meant by what stands between two quotes.  The
reader of quoted strings takes a text up to its closing quote just if what stands in front of it
spells something (`Spells.endsAt_readQuoted`, `exists_spells_of_readQuoted`).  It reads what is
spelled where no character beyond ASCII stands in front of an escape (`Spells.readQuoted_eq`), and
may have to cut the string elsewhere.
-/

namespace StartOnReady.Settings

open Text (ReadError)

variable {α β : Type} {cs written chars rest digits : List Char} {c : Char} {n : Nat}

/-! ### Escapes -/

/-- The characters behind a backslash that stand for a single one. -/
def shortEscapes : List (Char × Char) :=
  [('"', '"'), ('\\', '\\'), ('b', '\x08'), ('f', '\x0c'), ('n', '\n'), ('r', '\r'), ('t', '\t')]

/-- Whether hexadecimal digits in either letter case write a number. -/
def IsHex (digits : List Char) (n : Nat) : Prop :=
  ∃ values, List.Forall₂ (fun c v => Text.hexValue? c = some v) digits values ∧
    values.foldl (fun m v => m * 16 + v) 0 = n

/-- What stands behind a backslash, and the character that is meant. -/
inductive IsEscape : List Char → Char → Prop where
  | short {mark c : Char} (listed : (mark, c) ∈ shortEscapes) : IsEscape [mark] c
  | code {mark : Char} {digits : List Char} {n : Nat}
      (wide : (mark, digits.length) ∈ [('u', 4), ('U', 8)]) (writes : IsHex digits n)
      (valid : n.isValidChar) : IsEscape (mark :: digits) (Char.ofNat n)

theorem escape?_eq_some_iff {mark : Char} :
    Toml.escape? mark = some c ↔ (mark, c) ∈ shortEscapes := by
  constructor
  · intro h
    unfold Toml.escape? at h
    split at h <;> cases h <;> decide
  · intro h
    simp only [shortEscapes, List.mem_cons, Prod.mk.injEq, List.not_mem_nil, or_false] at h
    rcases h with ⟨rfl, rfl⟩ | ⟨rfl, rfl⟩ | ⟨rfl, rfl⟩ | ⟨rfl, rfl⟩ | ⟨rfl, rfl⟩ | ⟨rfl, rfl⟩ |
      ⟨rfl, rfl⟩ <;> rfl

theorem readHex?_eq_some_iff {count value : Nat} :
    Text.readHex? count value cs = some (n, rest) ↔
      ∃ digits values, cs = digits ++ rest ∧ digits.length = count ∧
        List.Forall₂ (fun c v => Text.hexValue? c = some v) digits values ∧
        values.foldl (fun m v => m * 16 + v) value = n := by
  induction count generalizing cs value with
  | zero =>
    constructor
    · rintro ⟨⟩
      exact ⟨[], [], rfl, rfl, .nil, rfl⟩
    · rintro ⟨digits, values, rfl, none, same, rfl⟩
      obtain rfl := List.eq_nil_of_length_eq_zero none
      cases same
      rfl
  | succ count ih =>
    constructor
    · intro h
      cases cs with
      | nil => cases h
      | cons c cs =>
        obtain ⟨v, isValue, h⟩ := Option.bind_eq_some_iff.1 h
        obtain ⟨digits, values, rfl, long, same, rfl⟩ := ih.1 h
        exact ⟨c :: digits, v :: values, rfl, congrArg (· + 1) long, .cons isValue same, rfl⟩
    · rintro ⟨digits, values, rfl, long, same, rfl⟩
      cases same with
      | nil => cases long
      | cons isValue same =>
        refine Option.bind_eq_some_iff.2 ⟨_, isValue, ih.2 ⟨_, _, rfl, ?_, same, rfl⟩⟩
        exact Nat.succ.inj long

theorem readCode?_eq_some_iff {count : Nat} : Toml.readCode? count cs = some (c, rest) ↔
    ∃ digits n, cs = digits ++ rest ∧ digits.length = count ∧ IsHex digits n ∧ n.isValidChar ∧
      c = Char.ofNat n := by
  constructor
  · intro h
    obtain ⟨⟨n, behind⟩, read, h⟩ := Option.bind_eq_some_iff.1 h
    obtain ⟨c, isChar, ⟨⟩⟩ := Option.bind_eq_some_iff.1 h
    obtain ⟨digits, values, whole, long, same, writes⟩ := readHex?_eq_some_iff.1 read
    obtain ⟨valid, ⟨⟩⟩ := Option.ite_none_right_eq_some.1 isChar
    exact ⟨digits, n, whole, long, ⟨values, same, writes⟩, valid, rfl⟩
  · rintro ⟨digits, n, rfl, long, ⟨values, same, writes⟩, valid, rfl⟩
    have read : Text.readHex? count 0 (digits ++ rest) = some (n, rest) :=
      readHex?_eq_some_iff.2 ⟨digits, values, rfl, long, same, writes⟩
    have isChar : Text.charOf? n = some (Char.ofNat n) := if_pos valid
    exact Option.bind_eq_some_iff.2 ⟨_, read, Option.bind_eq_some_iff.2 ⟨_, isChar, rfl⟩⟩

/-- A reader of escapes takes just what an escape consists of. -/
theorem readEscape?_eq_some_iff : Toml.readEscape? cs = some (c, rest) ↔
    ∃ behind, cs = behind ++ rest ∧ IsEscape behind c := by
  constructor
  · intro h
    unfold Toml.readEscape? at h
    split at h
    next =>
      obtain ⟨digits, n, rfl, long, writes, valid, rfl⟩ := readCode?_eq_some_iff.1 h
      exact ⟨'u' :: digits, rfl, .code (by simp [long]) writes valid⟩
    next =>
      obtain ⟨digits, n, rfl, long, writes, valid, rfl⟩ := readCode?_eq_some_iff.1 h
      exact ⟨'U' :: digits, rfl, .code (by simp [long]) writes valid⟩
    next mark cs _ _ =>
      obtain ⟨c, isShort, ⟨⟩⟩ := Option.map_eq_some_iff.1 h
      exact ⟨[mark], rfl, .short (escape?_eq_some_iff.1 isShort)⟩
    next => cases h
  · rintro ⟨behind, rfl, listed | ⟨wide, writes, valid⟩⟩
    · simp only [shortEscapes, List.mem_cons, Prod.mk.injEq, List.not_mem_nil, or_false] at listed
      rcases listed with ⟨rfl, rfl⟩ | ⟨rfl, rfl⟩ | ⟨rfl, rfl⟩ | ⟨rfl, rfl⟩ | ⟨rfl, rfl⟩ |
        ⟨rfl, rfl⟩ | ⟨rfl, rfl⟩ <;> rfl
    · simp only [List.mem_cons, Prod.mk.injEq, List.not_mem_nil, or_false] at wide
      rcases wide with ⟨rfl, long⟩ | ⟨rfl, long⟩
      · exact readCode?_eq_some_iff.2 ⟨_, _, rfl, long, writes, valid, rfl⟩
      · exact readCode?_eq_some_iff.2 ⟨_, _, rfl, long, writes, valid, rfl⟩

theorem IsHex.ne_mark (h : IsHex digits n) : ∀ c ∈ digits, c ≠ '"' ∧ c ≠ '\\' := by
  obtain ⟨values, same, -⟩ := h
  intro c here
  obtain ⟨v, isValue⟩ : ∃ v, Text.hexValue? c = some v := by
    obtain ⟨place, inside, rfl⟩ := List.getElem_of_mem here
    exact ⟨_, same.get inside (same.length_eq ▸ inside)⟩
  constructor <;> rintro rfl <;> cases isValue

/-! ### What is spelled -/

/-- What stands between two quotes, and the characters that are meant. -/
inductive Spells : List Char → List Char → Prop where
  | nil : Spells [] []
  | plain {c : Char} {written chars : List Char} (text : Toml.isTextChar c = true) (quote : c ≠ '"')
      (backslash : c ≠ '\\') (more : Spells written chars) : Spells (c :: written) (c :: chars)
  | escape {c : Char} {behind written chars : List Char} (isEscape : IsEscape behind c)
      (more : Spells written chars) : Spells ('\\' :: (behind ++ written)) (c :: chars)

theorem Spells.append {written' chars' : List Char} (h : Spells written chars)
    (h' : Spells written' chars') : Spells (written ++ written') (chars ++ chars') := by
  induction h with
  | nil => exact h'
  | plain text quote backslash more ih => exact .plain text quote backslash ih
  | @escape c behind written chars isEscape more ih =>
    rw [List.cons_append, List.append_assoc]
    exact .escape isEscape ih

theorem Spells.length_le (h : Spells written chars) : chars.length ≤ written.length := by
  induction h with
  | nil => exact Nat.le_refl 0
  | plain text quote backslash more ih => exact Nat.succ_le_succ ih
  | escape isEscape more ih =>
    simp only [List.length_cons, List.length_append]
    omega

theorem Spells.readBasic?_eq (h : Spells written chars) {steps : Nat}
    (enough : written.length < steps) :
    Toml.readBasic? steps (written ++ '"' :: rest) = some (chars, rest) := by
  obtain ⟨steps, rfl⟩ := Nat.exists_eq_succ_of_ne_zero (Nat.ne_zero_of_lt enough)
  induction h generalizing steps with
  | nil => rfl
  | plain text quote backslash more ih =>
    simp only [List.length_cons] at enough
    obtain ⟨steps, rfl⟩ := Nat.exists_eq_succ_of_ne_zero (n := steps) (by omega)
    rw [List.cons_append, Toml.readBasic?, if_pos text, ih steps (by omega)]
    · rfl
    · exact quote
    · exact backslash
  | @escape c behind written chars isEscape more ih =>
    simp only [List.length_cons, List.length_append] at enough
    obtain ⟨steps, rfl⟩ := Nat.exists_eq_succ_of_ne_zero (n := steps) (by omega)
    have read : Toml.readEscape? (behind ++ (written ++ '"' :: rest)) =
        some (c, written ++ '"' :: rest) := readEscape?_eq_some_iff.2 ⟨behind, rfl, isEscape⟩
    rw [List.cons_append, List.append_assoc, Toml.readBasic?, read]
    show Toml.before c (Toml.readBasic? _ _) = _
    rw [ih steps (by omega)]
    rfl

theorem exists_spells_of_readBasic? {steps : Nat}
    (h : Toml.readBasic? steps cs = some (chars, rest)) :
    ∃ written, cs = written ++ '"' :: rest ∧ Spells written chars := by
  fun_induction Toml.readBasic? steps cs generalizing chars with
  | case1 => cases h
  | case2 => cases h
  | case3 =>
    cases h
    exact ⟨[], rfl, .nil⟩
  | case4 steps cs ih =>
    obtain ⟨⟨c, behind⟩, read, h⟩ := Option.bind_eq_some_iff.1 h
    obtain ⟨⟨inner, left⟩, readMore, ⟨⟩⟩ := Option.map_eq_some_iff.1 h
    obtain ⟨mark, rfl, isEscape⟩ := readEscape?_eq_some_iff.1 read
    obtain ⟨written, rfl, more⟩ := ih _ readMore
    exact ⟨'\\' :: (mark ++ written), by simp, .escape isEscape more⟩
  | case5 steps c cs quote backslash text ih =>
    obtain ⟨⟨inner, left⟩, read, ⟨⟩⟩ := Option.map_eq_some_iff.1 h
    obtain ⟨written, rfl, more⟩ := ih read
    exact ⟨c :: written, rfl, .plain text quote backslash more⟩
  | case6 => cases h

/-! ### Where a string closes -/

/-- Whether no quote in a text closes it. -/
inductive StaysOpen : List Char → Prop where
  | nil : StaysOpen []
  | single {c : Char} {written : List Char} (quote : c ≠ '"') (backslash : c ≠ '\\')
      (more : StaysOpen written) : StaysOpen (c :: written)
  | pair {c : Char} {written : List Char} (more : StaysOpen written) :
      StaysOpen ('\\' :: c :: written)

theorem StaysOpen.append_run (h : StaysOpen written)
    (run : ∀ c ∈ cs, c ≠ '"' ∧ c ≠ '\\') : StaysOpen (cs ++ written) := by
  induction cs with
  | nil => exact h
  | cons c cs ih =>
    obtain ⟨first, run⟩ := List.forall_mem_cons.1 run
    exact .single first.1 first.2 (ih run)

theorem StaysOpen.readQuotes?_eq (h : StaysOpen written) :
    readQuotes? (written ++ '"' :: rest) = some (written, rest) := by
  induction h with
  | nil => rfl
  | single quote backslash more ih =>
    rw [List.cons_append, readQuotes?, ih]
    · rfl
    · exact quote
    · exact fun _ _ same _ => backslash same
  | pair more ih =>
    rw [List.cons_append, List.cons_append, readQuotes?, ih]
    rfl

theorem staysOpen_of_readQuotes? (h : readQuotes? cs = some (written, rest)) :
    StaysOpen written := by
  fun_induction readQuotes? cs generalizing written with
  | case1 => cases h
  | case2 =>
    cases h
    exact .nil
  | case3 c cs ih =>
    obtain ⟨⟨inner, left⟩, read, ⟨⟩⟩ := Option.map_eq_some_iff.1 h
    exact .pair (ih read)
  | case4 c cs quote noPair ih =>
    obtain ⟨⟨inner, left⟩, read, ⟨⟩⟩ := Option.map_eq_some_iff.1 h
    refine .single quote (fun backslash => ?_) (ih read)
    -- A backslash at the very end is no pair, and nothing closes behind it.
    cases cs with
    | nil => cases read
    | cons c cs => exact noPair c cs backslash rfl

theorem Spells.staysOpen (h : Spells written chars) : StaysOpen written := by
  induction h with
  | nil => exact .nil
  | plain text quote backslash more ih => exact .single quote backslash ih
  | escape isEscape more ih =>
    cases isEscape with
    | short => exact .pair ih
    | code wide writes valid => exact .pair (ih.append_run writes.ne_mark)

/-- A text that no quote closes is cut by the first backslash into two of the kind. -/
theorem StaysOpen.split (h : StaysOpen written) :
    StaysOpen (written.takeWhile (· != '\\')) ∧ StaysOpen (written.dropWhile (· != '\\')) := by
  induction h with
  | nil => exact ⟨.nil, .nil⟩
  | single quote backslash more ih =>
    rw [List.takeWhile_cons_of_pos (p := (· != '\\')) (bne_iff_ne.2 backslash),
      List.dropWhile_cons_of_pos (p := (· != '\\')) (bne_iff_ne.2 backslash)]
    exact ⟨.single quote backslash ih.1, ih.2⟩
  | pair more ih => exact ⟨.nil, .pair more⟩

/-- In front of the first backslash each character stands for itself. -/
theorem Spells.split (h : Spells written chars) :
    ∃ later, chars = written.takeWhile (· != '\\') ++ later ∧
      Spells (written.takeWhile (· != '\\')) (written.takeWhile (· != '\\')) ∧
      Spells (written.dropWhile (· != '\\')) later := by
  induction h with
  | nil => exact ⟨[], rfl, .nil, .nil⟩
  | @plain c written chars text quote backslash more ih =>
    obtain ⟨later, rfl, front, behind⟩ := ih
    rw [List.takeWhile_cons_of_pos (p := (· != '\\')) (bne_iff_ne.2 backslash),
      List.dropWhile_cons_of_pos (p := (· != '\\')) (bne_iff_ne.2 backslash)]
    exact ⟨later, rfl, .plain text quote backslash front, behind⟩
  | escape isEscape more ih => exact ⟨_, rfl, .nil, .escape isEscape more⟩

/-! ### Reading -/

/-- Whether a reader ends in front of a text, unless it would have to cut one inside a character. -/
def EndsAt (rest : List Char) (read : Except ReadError (α × List Char)) : Prop :=
  read = .error .place ∨ ∃ a, read = .ok (a, rest)

theorem EndsAt.bind {rest' : List Char} {read : Except ReadError (α × List Char)}
    {next : α × List Char → Except ReadError (β × List Char)} (h : EndsAt rest read)
    (continues : ∀ a, EndsAt rest' (next (a, rest))) : EndsAt rest' (read >>= next) := by
  rcases h with rfl | ⟨a, rfl⟩
  · exact Or.inl rfl
  · exact continues a

theorem bind_eq_ok {b : β} {read : Except ReadError α} {next : α → Except ReadError β}
    (h : read >>= next = .ok b) : ∃ a, read = .ok a ∧ next a = .ok b := by
  cases read with
  | ok a => exact ⟨a, rfl, h⟩
  | error e => cases h

theorem Spells.escaped_eq (h : Spells written chars) : escaped written = .ok chars := by
  rw [escaped, h.readBasic?_eq (by omega)]

/-- What is spelled is one text. -/
theorem Spells.unique {chars' : List Char} (h : Spells written chars) (h' : Spells written chars') :
    chars = chars' := Except.ok.inj (h.escaped_eq.symm.trans h'.escaped_eq)

theorem exists_spells_of_escaped (h : escaped written = .ok chars) :
    ∃ inner rest, written ++ ['"'] = inner ++ '"' :: rest ∧ Spells inner chars := by
  unfold escaped at h
  split at h
  next rest read =>
    cases h
    obtain ⟨inner, whole, spells⟩ := exists_spells_of_readBasic? read
    exact ⟨inner, rest, whole, spells⟩
  next => cases h

theorem spells_of_escaped (opened : StaysOpen written) (h : escaped written = .ok chars) :
    Spells written chars := by
  obtain ⟨inner, rest, whole, spells⟩ := exists_spells_of_escaped h
  have closes : readQuotes? (written ++ ['"']) = some (written, []) := opened.readQuotes?_eq
  rw [whole, spells.staysOpen.readQuotes?_eq] at closes
  cases closes
  exact spells

theorem length_le_of_escaped (h : escaped written = .ok chars) :
    chars.length ≤ written.length := by
  obtain ⟨inner, rest, whole, spells⟩ := exists_spells_of_escaped h
  have sizes := congrArg List.length whole
  have shorter := spells.length_le
  simp only [List.length_append, List.length_cons, List.length_nil] at sizes
  omega

theorem length_le_of_takeBytes? {place : Nat} {part : List Char}
    (h : Text.takeBytes? place cs = some part) : part.length ≤ cs.length := by
  induction cs generalizing place part with
  | nil =>
    cases place with
    | zero =>
      cases h
      exact Nat.le_refl 0
    | succ place => cases h
  | cons c cs ih =>
    cases place with
    | zero =>
      cases h
      exact Nat.zero_le _
    | succ place =>
      obtain ⟨-, h⟩ := Option.ite_none_right_eq_some.1 h
      obtain ⟨inner, taken, rfl⟩ := Option.map_eq_some_iff.1 h
      exact Nat.succ_le_succ (ih taken)

/-- The front of a text is no longer than the text, if it is not cut inside a character. -/
theorem slice_zero_cases (stop : Nat) (cs : List Char) : Text.slice 0 stop cs = .error .place ∨
    ∃ kept, Text.slice 0 stop cs = .ok kept ∧ kept.length ≤ cs.length := by
  unfold Text.slice
  cases taken : Text.takeBytes? stop cs with
  | none => exact Or.inl rfl
  | some kept =>
    refine Or.inr ⟨kept, ?_, length_le_of_takeBytes? taken⟩
    rw [Option.bind_some, Text.dropBytes?]

theorem Spells.unquoted_cases (h : Spells written chars) :
    unquoted written = .error .place ∨ ∃ found, unquoted written = .ok found := by
  obtain ⟨later, rfl, front, behind⟩ := h.split
  unfold unquoted
  dsimp only
  split
  next => exact Or.inr ⟨_, front.escaped_eq⟩
  next =>
    rw [front.escaped_eq, behind.escaped_eq]
    simp only [bind, Except.bind]
    rcases slice_zero_cases (written.takeWhile (· != '\\')).length
      (written.takeWhile (· != '\\')) with cut | ⟨kept, sliced, -⟩
    · exact Or.inl (by simp only [cut])
    · exact Or.inr ⟨kept ++ later, by simp only [sliced]⟩

theorem Spells.unquoted_eq (h : Spells written chars) (ascii : EscapesBehindAscii written) :
    unquoted written = .ok chars := by
  obtain ⟨later, rfl, front, behind⟩ := h.split
  unfold unquoted
  dsimp only
  split
  next none =>
    rw [none] at behind
    cases behind
    rw [List.append_nil]
    exact front.escaped_eq
  next more =>
    have narrow : ∀ c ∈ written.takeWhile (· != '\\'), c.utf8Size = 1 :=
      fun c here => utf8Size_of_lt (ascii.front more c here)
    rw [front.escaped_eq, behind.escaped_eq]
    show (Text.slice _ _ _ >>= _) = _
    rw [Text.slice_length narrow]
    rfl

theorem exists_spells_of_unquoted {found : List Char} (opened : StaysOpen written)
    (h : unquoted written = .ok found) :
    (∃ chars, Spells written chars) ∧ found.length ≤ written.length := by
  have whole := List.takeWhile_append_dropWhile (p := (· != '\\')) (l := written)
  have sizes := congrArg List.length whole
  rw [List.length_append] at sizes
  obtain ⟨frontOpen, behindOpen⟩ := opened.split
  unfold unquoted at h
  dsimp only at h
  split at h
  next none =>
    have spells := spells_of_escaped frontOpen h
    rw [none, List.append_nil] at whole
    rw [whole] at spells h
    exact ⟨⟨found, spells⟩, length_le_of_escaped h⟩
  next =>
    obtain ⟨front, readFront, h⟩ := bind_eq_ok h
    obtain ⟨kept, sliced, h⟩ := bind_eq_ok h
    obtain ⟨later, readLater, ⟨⟩⟩ := bind_eq_ok h
    have spells := (spells_of_escaped frontOpen readFront).append
      (spells_of_escaped behindOpen readLater)
    rw [whole] at spells
    refine ⟨⟨_, spells⟩, ?_⟩
    have keptShorter : kept.length ≤ front.length := by
      rcases slice_zero_cases front.length front with cut | ⟨kept', sliced', shorter⟩
      · rw [cut] at sliced
        cases sliced
      · rw [sliced'] at sliced
        cases sliced
        exact shorter
    have frontShorter := length_le_of_escaped readFront
    have laterShorter := length_le_of_escaped readLater
    rw [List.length_append]
    omega

theorem Spells.endsAt_readQuoted (h : Spells written chars) :
    EndsAt rest (readQuoted (written ++ '"' :: rest)) := by
  rw [readQuoted, h.staysOpen.readQuotes?_eq]
  rcases h.unquoted_cases with cut | ⟨found, read⟩
  · exact Or.inl (by simp only [cut]; rfl)
  · exact Or.inr ⟨_, by simp only [read]; rfl⟩

theorem Spells.readQuoted_eq (h : Spells written chars) (ascii : EscapesBehindAscii written) :
    readQuoted (written ++ '"' :: rest) = .ok (String.ofList chars, rest) := by
  rw [readQuoted, h.staysOpen.readQuotes?_eq]
  simp only [h.unquoted_eq ascii]
  rfl

theorem exists_spells_of_readQuoted {s : String} (h : readQuoted cs = .ok (s, rest)) :
    ∃ written chars, cs = written ++ '"' :: rest ∧ Spells written chars ∧
      s.toList.length ≤ written.length := by
  unfold readQuoted at h
  split at h
  next written behind closes =>
    obtain ⟨found, read, ⟨⟩⟩ := bind_eq_ok h
    obtain ⟨⟨chars, spells⟩, shorter⟩ :=
      exists_spells_of_unquoted (staysOpen_of_readQuotes? closes) read
    rw [String.toList_ofList]
    exact ⟨written, chars, readQuotes?_eq closes, spells, shorter⟩
  next => cases h

end StartOnReady.Settings
