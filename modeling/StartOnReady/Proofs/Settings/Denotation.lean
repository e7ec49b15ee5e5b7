import StartOnReady.Proofs.Settings.Grammar
import StartOnReady.Proofs.Settings.Words
import StartOnReady.Settings.Extract

/-!
# What a text stands for

A setting is written as a text.  `IsTyped` says which texts are written as something else: truth
values, numbers, sequences and tables (`IsNonText`), and quotations.  `Denotes` says what a trimmed
text stands for, one case for each, and that every other text stands for itself
(`denotes_of_ofText?`).  A text that stands for nothing has an escape behind a character beyond
ASCII, and begins with a mark that opens something (`opens_of_ofText?_eq_none`).
-/

namespace StartOnReady.Settings

open Decimal (IsNumber isNumberChar)
open Text (IsTrimmed Stops stops_cons isAsciiBlank)

variable {cs rest written chars : List Char} {c : Char} {s : String} {t : Tree} {steps : Nat}

/-! ### Texts that are written as something else -/

/-- The words for truth values. -/
def IsTruthText (cs : List Char) : Prop := ∃ b, cs = truthWord b

/-- A sequence from its opening bracket to the closing one. -/
def IsSequenceText (cs : List Char) : Prop := ∃ items, cs = '[' :: items ∧ IsItems items

/-- A table from its opening brace to the closing one. -/
def IsTableText (cs : List Char) : Prop := ∃ members, cs = '\x7b' :: members ∧ IsMembers members

/-- What is written between two quotes, and a single character between apostrophes, with the
characters that are meant. -/
inductive Quotes : List Char → List Char → Prop where
  | double {written chars : List Char} (spells : Spells written chars) :
      Quotes ('"' :: (written ++ ['"'])) chars
  | single (c : Char) : Quotes ['\'', c, '\''] [c]

/-- A text that is written as a value of another type. -/
inductive IsNonText (cs : List Char) : Prop where
  | truth (isTruth : IsTruthText cs)
  | number (isNumber : IsNumber cs)
  | sequence (isSequence : IsSequenceText cs)
  | table (isTable : IsTableText cs)

/-- A text that is written as something else than itself. -/
inductive IsTyped (cs : List Char) : Prop where
  | nonText (isNonText : IsNonText cs)
  | quotation {chars : List Char} (quotes : Quotes cs chars)

/-! ### Numbers are bare words -/

theorem isSeparator_of_isNumberChar (number : isNumberChar c = true) : isSeparator c = false := by
  simp only [isSeparator, Bool.or_eq_false_iff, beq_eq_false_iff_ne]
  exact ⟨⟨⟨⟨Text.ne_of_kind number rfl, Text.ne_of_kind number rfl⟩,
    Text.ne_of_kind number rfl⟩, Text.ne_of_kind number rfl⟩, Text.ne_of_kind number rfl⟩

theorem isMark_of_isNumberChar (number : isNumberChar c = true) : isMark c = false := by
  have isNot {c' : Char} (other : isNumberChar c' = false) : (c == c') = false :=
    beq_eq_false_iff_ne.2 (Text.ne_of_kind number other)
  rw [isMark, isAsciiBlank, isOpening, isNot rfl, isNot rfl, isNot rfl, isNot rfl, isNot rfl,
    isNot rfl, isNot rfl, isNot rfl, isNot rfl]
  rfl

/-- The words for truth values are no numbers. -/
theorem exists_mem_truthWord (b : Bool) : ∃ c ∈ truthWord b, isNumberChar c = false := by
  cases b with
  | true => exact ⟨'t', List.mem_cons_self, rfl⟩
  | false => exact ⟨'f', List.mem_cons_self, rfl⟩

theorem isRun_of_isNumber (h : IsNumber cs) : IsRun cs where
  joined c here := isSeparator_of_isNumberChar (h.isNumberChar c here)
  starts := by
    refine ⟨fun c here => isMark_of_isNumberChar (h.isNumberChar c (List.mem_of_mem_head? here)),
      fun b rest same => ?_⟩
    obtain ⟨c, here, other⟩ := exists_mem_truthWord b
    exact Text.ne_of_kind (h.isNumberChar c (same ▸ List.mem_append_left rest here)) other rfl

/-! ### The readers know them -/

theorem IsNonText.isItem (h : IsNonText cs) : IsItem cs := by
  cases h with
  | truth isTruth =>
    obtain ⟨b, rfl⟩ := isTruth
    simpa using IsItem.truth b .nil .nil
  | number isNumber => simpa using IsItem.run .nil (isRun_of_isNumber isNumber)
  | sequence isSequence =>
    obtain ⟨items, rfl, isItems⟩ := isSequence
    simpa using IsItem.sequence .nil isItems .nil
  | table isTable =>
    obtain ⟨members, rfl, isMembers⟩ := isTable
    simpa using IsItem.table .nil isMembers .nil

theorem IsTyped.isItem (h : IsTyped cs) : IsItem cs := by
  cases h with
  | nonText isNonText => exact isNonText.isItem
  | quotation quotes =>
    cases quotes with
    | double spells => exact .quoted .nil spells .nil
    | single c => exact .letter c .nil .nil

theorem IsTyped.endsAt_readValue (h : IsTyped cs) :
    EndsAt [] (readValue (2 * cs.length + 2) cs) := by
  have ends : EndsAt [] (readValue (2 * cs.length + 2) (cs ++ [])) :=
    h.isItem.endsAt_readValue .nil _ (by omega)
  rwa [List.append_nil] at ends

/-! ### What texts stand for -/

/-- What a trimmed text stands for.  A string is what is spelled between the quotes as long as all
in front of its escapes is ASCII, and shorter than the text in any case. -/
inductive Denotes (cs : List Char) : Tree → Prop where
  | truth (b : Bool) (word : cs = truthWord b) : Denotes cs (setting (.boolean b))
  | number {datum : Datum} (isNumber : IsNumber cs) (numeric : datum.IsNumeric) :
      Denotes cs (setting datum)
  | sequence {items : List Tree} (isSequence : IsSequenceText cs) :
      Denotes cs (.sequence .environment items)
  | table {members : List (String × Tree)} (isTable : IsTableText cs) :
      Denotes cs (.table .environment members)
  | string {written chars : List Char} {s : String} (quoted : cs = '"' :: (written ++ ['"']))
      (spells : Spells written chars) (shorter : s.toList.length < cs.length)
      (meant : EscapesBehindAscii cs → s = String.ofList chars) : Denotes cs (setting (.text s))
  | letter (c : Char) (quoted : cs = ['\'', c, '\'']) : Denotes cs (setting (.letter c))
  | itself (untyped : ¬IsTyped cs) : Denotes cs (setting (.text (String.ofList cs)))

/-- Behind what has been read of a trimmed text there are no blanks. -/
theorem eq_nil_of_skipBlanks (cs : List Char) (trimmed : IsTrimmed (cs ++ rest))
    (none : skipBlanks rest = []) : rest = [] := by
  obtain ⟨blanks, all, whole⟩ := exists_skipBlanks rest
  rw [none, List.append_nil] at whole
  subst whole
  exact trimmed.eq_nil_of_append all

theorem StartsRun.not_isTyped (starts : StartsRun cs) (word : ¬IsNumber cs) : ¬IsTyped cs := by
  rintro (isNonText | quotes)
  · cases isNonText with
    | truth isTruth =>
      obtain ⟨b, rfl⟩ := isTruth
      exact starts.untrue b [] (List.append_nil _).symm
    | number isNumber => exact word isNumber
    | sequence isSequence =>
      obtain ⟨items, rfl, -⟩ := isSequence
      cases stops_cons.1 starts.unmarked
    | table isTable =>
      obtain ⟨members, rfl, -⟩ := isTable
      cases stops_cons.1 starts.unmarked
  · cases quotes <;> cases stops_cons.1 starts.unmarked

theorem StartsRun.denotes (starts : StartsRun cs) : Denotes cs (setting (.ofWord cs)) := by
  by_cases number : IsNumber cs
  · exact .number number (Datum.isNumeric_ofWord number)
  · rw [Datum.ofWord_eq_text number]
    exact .itself (starts.not_isTyped number)

theorem denotes_of_readQuoted (trimmed : IsTrimmed ('"' :: cs))
    (h : readQuoted cs = .ok (s, rest)) (none : skipBlanks rest = []) :
    Denotes ('"' :: cs) (setting (.text s)) := by
  obtain ⟨written, chars, rfl, spells, shorter⟩ := exists_spells_of_readQuoted h
  have last : rest = [] := by
    refine eq_nil_of_skipBlanks ('"' :: (written ++ ['"'])) ?_ none
    simpa using trimmed
  subst last
  refine .string rfl spells (by simp; omega) fun ascii => ?_
  have inner : written <:+: '"' :: (written ++ ['"']) := ⟨['"'], ['"'], by simp⟩
  rw [spells.readQuoted_eq (ascii.piece inner)] at h
  cases h
  rfl

theorem denotes_of_readValue (trimmed : IsTrimmed cs)
    (h : readValue (steps + 1) cs = .ok (t, [])) : Denotes cs t := by
  cases beginning trimmed.front.ascii with
  | truth b behind =>
    rw [readValue_truth] at h
    obtain ⟨rfl, none⟩ := Prod.mk.inj (Except.ok.inj h)
    obtain rfl := eq_nil_of_skipBlanks (truthWord b) trimmed none
    exact .truth b (List.append_nil _)
  | brace inner =>
    rw [readValue_brace] at h
    obtain ⟨⟨found, behind⟩, read, continues⟩ := bind_eq_ok h
    obtain ⟨rfl, none⟩ := Prod.mk.inj (Except.ok.inj continues)
    obtain ⟨members, rfl, isMembers⟩ := exists_isMembers_of_readMembers steps read
    obtain rfl := eq_nil_of_skipBlanks ('\x7b' :: members) trimmed none
    exact .table ⟨members, by simp, isMembers⟩
  | bracket inner =>
    rw [readValue_bracket] at h
    obtain ⟨⟨found, behind⟩, read, continues⟩ := bind_eq_ok h
    obtain ⟨rfl, none⟩ := Prod.mk.inj (Except.ok.inj continues)
    obtain ⟨items, rfl, isItems⟩ := exists_isItems_of_readItems steps read
    obtain rfl := eq_nil_of_skipBlanks ('[' :: items) trimmed none
    exact .sequence ⟨items, by simp, isItems⟩
  | quote inner =>
    rw [readValue_quote] at h
    obtain ⟨⟨s, behind⟩, read, continues⟩ := bind_eq_ok h
    obtain ⟨rfl, none⟩ := Prod.mk.inj (Except.ok.inj continues)
    exact denotes_of_readQuoted trimmed read none
  | letter c behind =>
    rw [readValue_letter] at h
    obtain ⟨rfl, none⟩ := Prod.mk.inj (Except.ok.inj h)
    obtain rfl := eq_nil_of_skipBlanks (['\'', c, '\'']) trimmed none
    exact .letter c rfl
  | apostrophe other =>
    rw [readValue_apostrophe other] at h
    cases h
  | run starts =>
    rw [readValue_run starts, skipBlanks_dropWhile_isSeparator] at h
    obtain ⟨rfl, none⟩ := Prod.mk.inj (Except.ok.inj h)
    have whole : cs.takeWhile (!isSeparator ·) = cs := by
      simpa [none] using List.takeWhile_append_dropWhile (p := (!isSeparator ·)) (l := cs)
    rw [whole, trimmed.trimChars_eq]
    exact starts.denotes

/-- A trimmed text that stands for anything stands for what it denotes. -/
theorem denotes_of_ofText? (trimmed : IsTrimmed s.toList) (h : Tree.ofText? s = some t) :
    Denotes s.toList t := by
  unfold Tree.ofText? at h
  dsimp only at h
  split at h
  next read =>
    cases h
    exact denotes_of_readValue trimmed read
  next => cases h
  next incomplete uncut =>
    cases h
    have untyped : ¬IsTyped s.toList := fun typed => by
      rcases typed.endsAt_readValue with cut | ⟨found, read⟩
      · exact uncut cut
      · exact incomplete found read
    simpa using Denotes.itself untyped

/-- A text that stands for nothing opens something, and has an escape behind a character beyond
ASCII. -/
theorem opens_of_ofText?_eq_none (trimmed : IsTrimmed s.toList) (h : Tree.ofText? s = none) :
    ¬EscapesBehindAscii s.toList ∧ ∃ c ∈ s.toList.head?, isOpening c = true := by
  refine ⟨fun ascii => ?_, ?_⟩
  · have read := Tree.isSome_ofText? ascii
    rw [h] at read
    cases read
  · unfold Tree.ofText? at h
    dsimp only at h
    split at h
    next => cases h
    next cut =>
      generalize s.toList = cs at trimmed cut ⊢
      cases beginning trimmed.front.ascii with
      | brace inner | bracket inner | quote inner => exact ⟨_, rfl, rfl⟩
      | truth b behind =>
        rw [readValue_truth] at cut
        cases cut
      | letter c behind =>
        rw [readValue_letter] at cut
        cases cut
      | apostrophe other =>
        rw [readValue_apostrophe other] at cut
        cases cut
      | run starts =>
        rw [readValue_run starts] at cut
        cases cut
    next => cases h

/-! ### What is read as a text -/

/-- The marks that open a quotation. -/
def isQuote (c : Char) : Bool := c == '"' || c == '\''

theorem IsNonText.stops (h : IsNonText cs) : Stops isQuote cs := by
  cases h with
  | truth isTruth =>
    obtain ⟨b, rfl⟩ := isTruth
    cases b <;> exact stops_cons.2 rfl
  | number isNumber =>
    intro c here
    have number := isNumber.isNumberChar c (List.mem_of_mem_head? here)
    rw [isQuote, Bool.or_eq_false_iff, beq_eq_false_iff_ne, beq_eq_false_iff_ne]
    exact ⟨Text.ne_of_kind number rfl, Text.ne_of_kind number rfl⟩
  | sequence isSequence =>
    obtain ⟨items, rfl, -⟩ := isSequence
    exact stops_cons.2 rfl
  | table isTable =>
    obtain ⟨members, rfl, -⟩ := isTable
    exact stops_cons.2 rfl

theorem Quotes.not_isNonText (h : Quotes cs chars) : ¬IsNonText cs := fun isNonText => by
  have stops := isNonText.stops
  cases h <;> cases stops_cons.1 stops

/-- What is written as something else and is no bare word ends with a mark. -/
theorem IsTyped.exists_getLast? (h : IsTyped cs) (other : ¬IsTruthText cs) (word : ¬IsNumber cs) :
    ∃ c ∈ cs.getLast?, isClosing c = true ∨ isQuote c = true := by
  rcases h with nonText | quotes
  · cases nonText with
    | truth isTruth => exact absurd isTruth other
    | number isNumber => exact absurd isNumber word
    | sequence isSequence =>
      obtain ⟨items, rfl, isItems⟩ := isSequence
      exact ⟨']', by rw [List.getLast?_cons, isItems.getLast?_eq]; rfl, Or.inl rfl⟩
    | table isTable =>
      obtain ⟨members, rfl, isMembers⟩ := isTable
      exact ⟨'\x7d', by rw [List.getLast?_cons, isMembers.getLast?_eq]; rfl, Or.inl rfl⟩
  · cases quotes with
    | double spells =>
      exact ⟨'"', by rw [List.getLast?_cons, List.getLast?_append]; rfl, Or.inr rfl⟩
    | single c => exact ⟨'\'', rfl, Or.inr rfl⟩

namespace Denotes

variable {path : List String}

theorem ne_absent (h : Denotes cs t) (source : Source) : t ≠ .leaf source .absent := by
  rintro rfl
  cases h with
  | number isNumber numeric => exact numeric

theorem text_of_not_isTyped (h : Denotes cs t) (untyped : ¬IsTyped cs) :
    Extractor.text path t = .ok (String.ofList cs) := by
  cases h with
  | truth b word => exact absurd (.nonText (.truth ⟨b, word⟩)) untyped
  | number isNumber => exact absurd (.nonText (.number isNumber)) untyped
  | sequence isSequence => exact absurd (.nonText (.sequence isSequence)) untyped
  | table isTable => exact absurd (.nonText (.table isTable)) untyped
  | string quoted spells => exact absurd (.quotation (quoted ▸ Quotes.double spells)) untyped
  | letter c quoted => exact absurd (.quotation (quoted ▸ Quotes.single c)) untyped
  | itself => rfl

theorem text_of_isNonText (h : Denotes cs t) (isNonText : IsNonText cs) :
    Extractor.text path t = .error ⟨.wrongType t.words "a string", path, .environment⟩ := by
  cases h with
  | truth | sequence | table => rfl
  | @number datum isNumber numeric =>
    cases datum with
    | unsigned | signed | real => rfl
    | text | letter | boolean | absent => exact numeric.elim
  | string quoted spells => exact absurd isNonText (quoted ▸ Quotes.double spells).not_isNonText
  | letter c quoted => exact absurd isNonText (quoted ▸ Quotes.single c).not_isNonText
  | itself untyped => exact absurd (.nonText isNonText) untyped

theorem exists_text_of_quotes (h : Denotes cs t) (quotes : Quotes cs chars) :
    ∃ s, Extractor.text path t = .ok s ∧ s.toList.length < cs.length ∧
      ∀ chars, Quotes cs chars → EscapesBehindAscii cs → s = String.ofList chars := by
  cases h with
  | truth b word => exact absurd (.truth ⟨b, word⟩) quotes.not_isNonText
  | number isNumber => exact absurd (.number isNumber) quotes.not_isNonText
  | sequence isSequence => exact absurd (.sequence isSequence) quotes.not_isNonText
  | table isTable => exact absurd (.table isTable) quotes.not_isNonText
  | @string written meant s quoted spells shorter exact =>
    refine ⟨s, rfl, shorter, fun chars quotes ascii => ?_⟩
    cases quotes with
    | double spells' =>
      obtain rfl := List.append_cancel_right (List.cons.inj quoted).2
      rw [exact ascii, spells.unique spells']
    | single c => cases quoted
  | letter c quoted =>
    subst quoted
    refine ⟨String.singleton c, rfl, by simp, fun chars quotes _ => ?_⟩
    cases quotes with
    | single => rfl
  | itself untyped => exact absurd (.quotation quotes) untyped

end Denotes

end StartOnReady.Settings
