import StartOnReady.Proofs.Settings.Quotation
import StartOnReady.Proofs.Text.Runs

/-!
# The grammar of sequences and tables

`IsItems` and `IsMembers` say what stands behind an opening bracket and an opening brace, and
`IsItem` what a value is in either.  The readers end where these forms do
(`IsItem.endsAt_readValue`), and what they have read is of these forms
(`exists_isItem_of_readValue`).  How a value begins decides how it is read (`Beginning`).
-/

namespace StartOnReady.Settings

open Text (ReadError Stops stops_cons stops_dropWhile isAsciiBlank)

variable {cs rest before run : List Char} {c : Char} {steps : Nat}

/-! ### Blanks -/

/-- Blanks of ASCII, or none. -/
def IsBlanks (cs : List Char) : Prop := ∀ c ∈ cs, isAsciiBlank c = true

theorem IsBlanks.nil : IsBlanks [] := nofun

theorem IsBlanks.skipBlanks_append (h : IsBlanks before) (cs : List Char) :
    skipBlanks (before ++ cs) = skipBlanks cs := List.dropWhile_append_of_pos h

theorem skipBlanks_eq (h : Stops isAsciiBlank cs) : skipBlanks cs = cs := h.dropWhile_eq

theorem exists_skipBlanks (cs : List Char) :
    ∃ before, IsBlanks before ∧ cs = before ++ skipBlanks cs :=
  ⟨cs.takeWhile isAsciiBlank, fun _ here => List.mem_takeWhile_imp here,
    List.takeWhile_append_dropWhile.symm⟩

theorem stops_skipBlanks (cs : List Char) : Stops isAsciiBlank (skipBlanks cs) :=
  stops_dropWhile _ cs

/-! ### Bare words -/

/-- The words for the truth values. -/
def truthWord : Bool → List Char
  | true => ['t', 'r', 'u', 'e']
  | false => ['f', 'a', 'l', 's', 'e']

/-- The marks that open a table, a sequence and a string. -/
def isOpening (c : Char) : Bool := c == '\x7b' || c == '[' || c == '"'

/-- Whether a value that begins with a character is no bare word. -/
def isMark (c : Char) : Bool := isAsciiBlank c || isOpening c || c == '\''

/-- Whether a text begins like a bare word. -/
structure StartsRun (cs : List Char) : Prop where
  unmarked : Stops isMark cs
  untrue : ∀ b rest, cs ≠ truthWord b ++ rest

/-- A bare word, with the blanks behind it. -/
structure IsRun (cs : List Char) : Prop where
  joined : ∀ c ∈ cs, isSeparator c = false
  starts : StartsRun cs

/-- Whether a text is at its end or begins with the mark behind an item. -/
def IsEnd (cs : List Char) : Prop := ∀ c ∈ cs.head?, c = ',' ∨ c = ']' ∨ c = '\x7d'

theorem IsEnd.nil : IsEnd [] := nofun

theorem isEnd_cons (mark : c ∈ [',', ']', '\x7d']) (cs : List Char) : IsEnd (c :: cs) := by
  rintro _ ⟨⟩
  simpa using mark

theorem isAsciiBlank_of_not_isMark (h : isMark c = false) : isAsciiBlank c = false :=
  (Bool.or_eq_false_iff.1 (Bool.or_eq_false_iff.1 h).1).1

theorem StartsRun.skipBlanks_eq (h : StartsRun cs) : skipBlanks cs = cs :=
  Settings.skipBlanks_eq fun c here => isAsciiBlank_of_not_isMark (h.unmarked c here)

theorem IsEnd.stops (h : IsEnd rest) {p : Char → Bool} (comma : p ',' = false)
    (bracket : p ']' = false) (brace : p '\x7d' = false) : Stops p rest := by
  intro c here
  rcases h c here with rfl | rfl | rfl <;> assumption

theorem IsRun.startsRun_append (h : IsRun run) (ends : IsEnd rest) : StartsRun (run ++ rest) where
  unmarked := by
    cases run with
    | nil => exact ends.stops rfl rfl rfl
    | cons c run => exact h.starts.unmarked
  untrue b behind same := by
    rcases List.append_eq_append_iff.1 same with ⟨more, word, rest'⟩ | ⟨more, isRun, -⟩
    · cases more with
      | nil => exact h.starts.untrue b [] (by simpa using word.symm)
      | cons c more =>
        have inside : c ∈ truthWord b := by rw [word]; simp
        rcases ends c (by rw [rest']; rfl) with rfl | rfl | rfl <;> cases b <;>
          exact absurd inside (by decide)
    · exact h.starts.untrue b more isRun

theorem StartsRun.isRun_takeWhile (h : StartsRun cs) :
    IsRun (cs.takeWhile (!isSeparator ·)) where
  joined c here := by simpa using List.mem_takeWhile_imp here
  starts := by
    refine ⟨h.unmarked.takeWhile _, fun b rest same => ?_⟩
    refine h.untrue b (rest ++ cs.dropWhile (!isSeparator ·)) ?_
    rw [← List.append_assoc, ← same, List.takeWhile_append_dropWhile]

/-! ### How a value begins -/

/-- The ways in which a text without blanks in front begins. -/
inductive Beginning : List Char → Prop where
  | truth (b : Bool) (cs : List Char) : Beginning (truthWord b ++ cs)
  | brace (cs : List Char) : Beginning ('\x7b' :: cs)
  | bracket (cs : List Char) : Beginning ('[' :: cs)
  | quote (cs : List Char) : Beginning ('"' :: cs)
  | letter (c : Char) (cs : List Char) : Beginning ('\'' :: c :: '\'' :: cs)
  | apostrophe {cs : List Char} (other : ∀ c rest, cs ≠ c :: '\'' :: rest) : Beginning ('\'' :: cs)
  | run {cs : List Char} (starts : StartsRun cs) : Beginning cs

theorem beginning (h : Stops isAsciiBlank cs) : Beginning cs := by
  by_cases word : ∃ b rest, cs = truthWord b ++ rest
  · obtain ⟨b, rest, rfl⟩ := word
    exact .truth b rest
  · have untrue : ∀ b rest, cs ≠ truthWord b ++ rest := fun b rest same => word ⟨b, rest, same⟩
    cases cs with
    | nil => exact .run ⟨.nil, untrue⟩
    | cons c cs =>
      cases mark : isMark c with
      | false => exact .run ⟨stops_cons.2 mark, untrue⟩
      | true =>
        rw [isMark, stops_cons.1 h, Bool.false_or] at mark
        simp only [isOpening, Bool.or_eq_true, beq_iff_eq] at mark
        obtain ((rfl | rfl) | rfl) | rfl := mark
        · exact .brace cs
        · exact .bracket cs
        · exact .quote cs
        · by_cases closed : ∃ c rest, cs = c :: '\'' :: rest
          · obtain ⟨c, rest, rfl⟩ := closed
            exact .letter c rest
          · exact .apostrophe fun c rest same => closed ⟨c, rest, same⟩

theorem readValue_blanks (h : IsBlanks before) (steps : Nat) (cs : List Char) :
    readValue steps (before ++ cs) = readValue steps cs := by
  cases steps with
  | zero => rfl
  | succ steps => rw [readValue, readValue, h.skipBlanks_append]

theorem readValue_truth (b : Bool) (cs : List Char) :
    readValue (steps + 1) (truthWord b ++ cs) = .ok (setting (.boolean b), skipBlanks cs) := by
  cases b <;> rfl

theorem readValue_brace (cs : List Char) : readValue (steps + 1) ('\x7b' :: cs) =
    readMembers steps cs >>= fun found =>
      .ok (.table .environment (Keyed.ofList found.1), skipBlanks found.2) := by
  rw [readValue]
  rfl

theorem readValue_bracket (cs : List Char) : readValue (steps + 1) ('[' :: cs) =
    readItems steps cs >>= fun found =>
      .ok (.sequence .environment found.1, skipBlanks found.2) := by
  rw [readValue]
  rfl

theorem readValue_quote (cs : List Char) : readValue (steps + 1) ('"' :: cs) =
    readQuoted cs >>= fun found => .ok (setting (.text found.1), skipBlanks found.2) := by
  rw [readValue]
  rfl

theorem readValue_letter (c : Char) (cs : List Char) :
    readValue (steps + 1) ('\'' :: c :: '\'' :: cs) = .ok (setting (.letter c), skipBlanks cs) := by
  rw [readValue]
  rfl

theorem readValue_apostrophe (other : ∀ c rest, cs ≠ c :: '\'' :: rest) :
    readValue (steps + 1) ('\'' :: cs) = .error .form := by
  rw [readValue, skipBlanks_eq (stops_cons.2 rfl)]
  split
  next found => cases found
  next found => cases found
  next found => cases found
  next found => cases found
  next found => cases found
  next found =>
    cases found
    exact absurd rfl (other _ _)
  next => rfl
  next other => exact absurd rfl (other cs)

theorem readValue_run (h : StartsRun cs) : readValue (steps + 1) cs =
    .ok (setting (.ofWord (Text.trimChars (cs.takeWhile (!isSeparator ·)))),
      skipBlanks (cs.dropWhile (!isSeparator ·))) := by
  rw [readValue, h.skipBlanks_eq]
  split
  next rest => exact absurd rfl (h.untrue true rest)
  next rest => exact absurd rfl (h.untrue false rest)
  next => cases stops_cons.1 h.unmarked
  next => cases stops_cons.1 h.unmarked
  next => cases stops_cons.1 h.unmarked
  next => cases stops_cons.1 h.unmarked
  next => cases stops_cons.1 h.unmarked
  next => rfl

/-! ### Keys -/

/-- A key of a table, with the blanks around it. -/
inductive IsKey : List Char → Prop where
  | bare {before key after : List Char} (front : IsBlanks before) (some : key ≠ [])
      (all : ∀ c ∈ key, Toml.isKeyChar c = true) (back : IsBlanks after) :
      IsKey (before ++ (key ++ after))
  | quoted {before written chars after : List Char} (front : IsBlanks before)
      (spells : Spells written chars) (back : IsBlanks after) :
      IsKey (before ++ '"' :: (written ++ '"' :: after))

theorem isAsciiBlank_of_isKeyChar (isKey : Toml.isKeyChar c = true) : isAsciiBlank c = false := by
  simp only [isAsciiBlank, Bool.or_eq_false_iff, beq_eq_false_iff_ne]
  exact ⟨⟨⟨⟨Text.ne_of_kind isKey rfl, Text.ne_of_kind isKey rfl⟩, Text.ne_of_kind isKey rfl⟩,
    Text.ne_of_kind isKey rfl⟩, Text.ne_of_kind isKey rfl⟩

theorem isKeyChar_of_isAsciiBlank (blank : isAsciiBlank c = true) : Toml.isKeyChar c = false := by
  cases isKey : Toml.isKeyChar c with
  | false => rfl
  | true => exact blank.symm.trans (isAsciiBlank_of_isKeyChar isKey)

theorem readMemberKey_bare {key : List Char} (some : key ≠ [])
    (all : ∀ c ∈ key, Toml.isKeyChar c = true) (stops : Stops Toml.isKeyChar rest) :
    readMemberKey (key ++ rest) = .ok (String.ofList key, rest) := by
  obtain ⟨c, key, rfl⟩ := List.exists_cons_of_ne_nil some
  have first := all c List.mem_cons_self
  have double : ∀ inner, c :: (key ++ rest) ≠ '"' :: inner := fun _ same =>
    Text.ne_of_kind first rfl (List.cons.inj same).1
  have single : ∀ inner, c :: (key ++ rest) ≠ '\'' :: inner := fun _ same =>
    Text.ne_of_kind first rfl (List.cons.inj same).1
  have read : Toml.readKey? (c :: key ++ rest) = Option.some (String.ofList (c :: key), rest) := by
    rw [List.cons_append, Toml.readKey?, ← List.cons_append, stops.takeWhile_run all,
      stops.dropWhile_run all]
    · exact double
    · exact single
  rw [List.cons_append, readMemberKey, ← List.cons_append, read]
  · exact double
  · exact single

theorem exists_key_of_readKey? {name : String} {behind : List Char}
    (double : ∀ inner, cs ≠ '"' :: inner) (single : ∀ inner, cs ≠ '\'' :: inner)
    (h : Toml.readKey? cs = some (name, behind)) :
    ∃ key, key ≠ [] ∧ (∀ c ∈ key, Toml.isKeyChar c = true) ∧ cs = key ++ behind := by
  unfold Toml.readKey? at h
  split at h
  next => exact absurd rfl (double _)
  next => exact absurd rfl (single _)
  next =>
    split at h
    next => cases h
    next some =>
      cases h
      exact ⟨_, some, fun c here => List.mem_takeWhile_imp here,
        List.takeWhile_append_dropWhile.symm⟩

theorem IsKey.endsAt_readMemberKey {key : List Char} (h : IsKey key) (rest : List Char) :
    ∃ after, IsBlanks after ∧
      EndsAt (after ++ '=' :: rest) (readMemberKey (skipBlanks (key ++ '=' :: rest))) := by
  cases h with
  | @bare before key after front some all back =>
    refine ⟨after, back, Or.inr ⟨String.ofList key, ?_⟩⟩
    have solid : Stops isAsciiBlank (key ++ (after ++ '=' :: rest)) := by
      obtain ⟨c, key, rfl⟩ := List.exists_cons_of_ne_nil some
      exact stops_cons.2 (isAsciiBlank_of_isKeyChar (all c List.mem_cons_self))
    have stops : Stops Toml.isKeyChar (after ++ '=' :: rest) := by
      cases after with
      | nil => exact stops_cons.2 rfl
      | cons c after => exact stops_cons.2 (isKeyChar_of_isAsciiBlank (back c List.mem_cons_self))
    rw [List.append_assoc, List.append_assoc, front.skipBlanks_append, skipBlanks_eq solid,
      readMemberKey_bare some all stops]
  | @quoted before written chars after front spells back =>
    refine ⟨after, back, ?_⟩
    rw [List.append_assoc, front.skipBlanks_append, List.cons_append, List.append_assoc,
      skipBlanks_eq (stops_cons.2 rfl)]
    exact spells.endsAt_readQuoted

theorem exists_isKey_of_readMemberKey {name : String} {behind : List Char}
    (h : readMemberKey (skipBlanks cs) = .ok (name, behind))
    (assigns : skipBlanks behind = '=' :: rest) : ∃ key, cs = key ++ '=' :: rest ∧ IsKey key := by
  obtain ⟨before, front, whole⟩ := exists_skipBlanks cs
  obtain ⟨after, back, rest'⟩ := exists_skipBlanks behind
  rw [assigns] at rest'
  generalize skipBlanks cs = cs' at h whole
  subst whole rest'
  unfold readMemberKey at h
  split at h
  next inner =>
    obtain ⟨written, chars, rfl, spells, -⟩ := exists_spells_of_readQuoted h
    exact ⟨_, by simp, .quoted front spells back⟩
  next => cases h
  next double single =>
    split at h
    next read =>
      cases h
      obtain ⟨key, some, all, rfl⟩ :=
        exists_key_of_readKey? (fun _ same => double _ same) (fun _ same => single _ same) read
      exact ⟨_, by simp, .bare front some all back⟩
    next => cases h

/-! ### Items and members -/

mutual

/-- A value in a sequence or a table, with the blanks around it. -/
inductive IsItem : List Char → Prop where
  | truth {before after : List Char} (b : Bool) (front : IsBlanks before) (back : IsBlanks after) :
      IsItem (before ++ (truthWord b ++ after))
  | quoted {before written chars after : List Char} (front : IsBlanks before)
      (spells : Spells written chars) (back : IsBlanks after) :
      IsItem (before ++ '"' :: (written ++ '"' :: after))
  | letter {before after : List Char} (c : Char) (front : IsBlanks before) (back : IsBlanks after) :
      IsItem (before ++ '\'' :: c :: '\'' :: after)
  | run {before run : List Char} (front : IsBlanks before) (isRun : IsRun run) :
      IsItem (before ++ run)
  | sequence {before items after : List Char} (front : IsBlanks before) (inner : IsItems items)
      (back : IsBlanks after) : IsItem (before ++ '[' :: (items ++ after))
  | table {before members after : List Char} (front : IsBlanks before) (inner : IsMembers members)
      (back : IsBlanks after) : IsItem (before ++ '\x7b' :: (members ++ after))

/-- The items of a sequence and the closing bracket.  A comma may stand behind the last item. -/
inductive IsItems : List Char → Prop where
  | close : IsItems [']']
  | last {item : List Char} (isItem : IsItem item) : IsItems (item ++ [']'])
  | more {item items : List Char} (isItem : IsItem item) (others : IsItems items) :
      IsItems (item ++ ',' :: items)

/-- The members of a table and the closing brace.  A comma may stand behind the last member. -/
inductive IsMembers : List Char → Prop where
  | close : IsMembers ['\x7d']
  | last {key item : List Char} (isKey : IsKey key) (isItem : IsItem item) :
      IsMembers (key ++ '=' :: (item ++ ['\x7d']))
  | more {key item members : List Char} (isKey : IsKey key) (isItem : IsItem item)
      (others : IsMembers members) : IsMembers (key ++ '=' :: (item ++ ',' :: members))

end

/-- A sequence ends with its bracket. -/
theorem IsItems.getLast?_eq {cs : List Char} : IsItems cs → cs.getLast? = some ']'
  | .close => rfl
  | .last isItem => by rw [List.getLast?_append]; rfl
  | .more isItem others => by
    rw [List.getLast?_append, List.getLast?_cons, others.getLast?_eq]
    rfl

/-- A table ends with its brace. -/
theorem IsMembers.getLast?_eq {cs : List Char} : IsMembers cs → cs.getLast? = some '\x7d'
  | .close => rfl
  | .last isKey isItem => by
    rw [List.getLast?_append, List.getLast?_cons, List.getLast?_append]
    rfl
  | .more isKey isItem others => by
    rw [List.getLast?_append, List.getLast?_cons, List.getLast?_append, List.getLast?_cons,
      others.getLast?_eq]
    rfl

/-- Whether a mark closes a sequence or a table. -/
def isClosing (c : Char) : Bool := c == ']' || c == '\x7d'

theorem isClosing_of_isAsciiBlank (blank : isAsciiBlank c = true) : isClosing c = false := by
  rw [isClosing, Bool.or_eq_false_iff, beq_eq_false_iff_ne, beq_eq_false_iff_ne]
  exact ⟨Text.ne_of_kind blank rfl, Text.ne_of_kind blank rfl⟩

theorem IsBlanks.stops_append (h : IsBlanks before) (stops : Stops isClosing cs) :
    Stops isClosing (before ++ cs) := by
  cases before with
  | nil => exact stops
  | cons c before => exact stops_cons.2 (isClosing_of_isAsciiBlank (h c List.mem_cons_self))

theorem IsItem.stops {item : List Char} (h : IsItem item) : Stops isClosing item := by
  cases h with
  | truth b front back => exact front.stops_append (by cases b <;> exact stops_cons.2 rfl)
  | run front isRun =>
    refine front.stops_append fun c here => ?_
    have joined := isRun.joined c (List.mem_of_mem_head? here)
    simp only [isSeparator, Bool.or_eq_false_iff] at joined
    rw [isClosing, joined.2, joined.1.1.2]
    rfl
  | letter c front back => exact front.stops_append (stops_cons.2 rfl)
  | quoted front | sequence front | table front => exact front.stops_append (stops_cons.2 rfl)

theorem IsKey.stops {key : List Char} (h : IsKey key) : Stops isClosing key := by
  cases h with
  | bare front some all back =>
    obtain ⟨c, key, rfl⟩ := List.exists_cons_of_ne_nil some
    have first := all c List.mem_cons_self
    refine front.stops_append (stops_cons.2 ?_)
    rw [isClosing, Bool.or_eq_false_iff, beq_eq_false_iff_ne, beq_eq_false_iff_ne]
    exact ⟨Text.ne_of_kind first rfl, Text.ne_of_kind first rfl⟩
  | quoted front spells back => exact front.stops_append (stops_cons.2 rfl)

theorem IsItems.ne_nil (h : IsItems cs) : cs ≠ [] := by cases h <;> simp

theorem IsMembers.ne_nil (h : IsMembers cs) : cs ≠ [] := by cases h <;> simp

theorem readItems_eq (opened : ∀ behind, cs ≠ ']' :: behind) : readItems (steps + 1) cs =
    readValue steps cs >>= fun found =>
      match found.2 with
      | ']' :: cs => .ok ([found.1], cs)
      | ',' :: cs => readItems steps cs >>= fun more => .ok (found.1 :: more.1, more.2)
      | _ => .error .form := readItems.eq_3 cs steps opened

theorem readMembers_eq (opened : ∀ behind, cs ≠ '\x7d' :: behind) : readMembers (steps + 1) cs =
    readMemberKey (skipBlanks cs) >>= fun key =>
      match skipBlanks key.2 with
      | '=' :: cs =>
        readValue steps cs >>= fun found =>
          match found.2 with
          | '\x7d' :: cs => .ok ([(key.1, found.1)], cs)
          | ',' :: cs => readMembers steps cs >>= fun more =>
            .ok ((key.1, found.1) :: more.1, more.2)
          | _ => .error .form
      | _ => .error .form := readMembers.eq_3 cs steps opened

/-! ### The readers end where the forms do

The three readers call each other with one step less, so the induction is on the steps. -/

mutual

theorem IsItem.endsAt_readValue {item rest : List Char} (h : IsItem item) (ends : IsEnd rest) :
    ∀ steps, 2 * item.length + 1 ≤ steps → EndsAt rest (readValue steps (item ++ rest))
  | 0, enough => absurd enough (Nat.not_succ_le_zero _)
  | steps + 1, enough => by
    have solid : skipBlanks rest = rest := skipBlanks_eq (ends.stops rfl rfl rfl)
    have behind {after : List Char} (back : IsBlanks after) : skipBlanks (after ++ rest) = rest :=
      (back.skipBlanks_append rest).trans solid
    cases h with
    | truth b front back =>
      rw [List.append_assoc, List.append_assoc, readValue_blanks front, readValue_truth,
        behind back]
      exact Or.inr ⟨_, rfl⟩
    | quoted front spells back =>
      rw [List.append_assoc, readValue_blanks front, List.cons_append, List.append_assoc,
        List.cons_append, readValue_quote]
      refine spells.endsAt_readQuoted.bind fun s => ?_
      rw [behind back]
      exact Or.inr ⟨_, rfl⟩
    | letter c front back =>
      rw [List.append_assoc, readValue_blanks front, List.cons_append, List.cons_append,
        List.cons_append, readValue_letter, behind back]
      exact Or.inr ⟨_, rfl⟩
    | @run before run front isRun =>
      have joined : ∀ c ∈ run, (!isSeparator c) = true := fun c here => by
        rw [isRun.joined c here]
        rfl
      have stops : Stops (!isSeparator ·) rest := ends.stops rfl rfl rfl
      rw [List.append_assoc, readValue_blanks front, readValue_run (isRun.startsRun_append ends),
        stops.dropWhile_run joined, solid]
      exact Or.inr ⟨_, rfl⟩
    | @sequence before items after front inner back =>
      simp only [List.length_append, List.length_cons] at enough
      rw [List.append_assoc, readValue_blanks front, List.cons_append, List.append_assoc,
        readValue_bracket]
      refine (inner.endsAt_readItems steps (by omega)).bind fun found => ?_
      rw [behind back]
      exact Or.inr ⟨_, rfl⟩
    | @table before members after front inner back =>
      simp only [List.length_append, List.length_cons] at enough
      rw [List.append_assoc, readValue_blanks front, List.cons_append, List.append_assoc,
        readValue_brace]
      refine (inner.endsAt_readMembers steps (by omega)).bind fun found => ?_
      rw [behind back]
      exact Or.inr ⟨_, rfl⟩

theorem IsItems.endsAt_readItems {items rest : List Char} (h : IsItems items) :
    ∀ steps, 2 * items.length ≤ steps → EndsAt rest (readItems steps (items ++ rest))
  | 0, enough => by
    have some := List.length_pos_iff.2 h.ne_nil
    omega
  | steps + 1, enough => by
    cases h with
    | close => exact Or.inr ⟨[], by rw [List.singleton_append, readItems]⟩
    | @last item isItem =>
      simp only [List.length_append, List.length_singleton] at enough
      rw [List.append_assoc, List.singleton_append]
      by_cases none : item = []
      · -- Nothing at all in front of the bracket is read as no item.
        rw [none]
        exact Or.inr ⟨[], by rw [List.nil_append, readItems]⟩
      · have opened : Stops isClosing (item ++ ']' :: rest) := isItem.stops.append_of_ne_nil none
        rw [readItems_eq (opened.ne_cons rfl)]
        refine (isItem.endsAt_readValue (isEnd_cons (by simp) _) steps (by omega)).bind
          fun found => ?_
        exact Or.inr ⟨_, rfl⟩
    | @more item items isItem others =>
      simp only [List.length_append, List.length_cons] at enough
      rw [List.append_assoc, List.cons_append]
      have opened : Stops isClosing (item ++ ',' :: (items ++ rest)) :=
        isItem.stops.append (stops_cons.2 rfl)
      rw [readItems_eq (opened.ne_cons rfl)]
      refine (isItem.endsAt_readValue (isEnd_cons (by simp) _) steps (by omega)).bind
        fun found => ?_
      refine (others.endsAt_readItems steps (by omega)).bind fun more => ?_
      exact Or.inr ⟨_, rfl⟩

theorem IsMembers.endsAt_readMembers {members rest : List Char} (h : IsMembers members) :
    ∀ steps, 2 * members.length ≤ steps → EndsAt rest (readMembers steps (members ++ rest))
  | 0, enough => by
    have some := List.length_pos_iff.2 h.ne_nil
    omega
  | steps + 1, enough => by
    cases h with
    | close => exact Or.inr ⟨[], by rw [List.singleton_append, readMembers]⟩
    | @last key item isKey isItem =>
      simp only [List.length_append, List.length_cons, List.length_nil] at enough
      rw [List.append_assoc, List.cons_append, List.append_assoc, List.singleton_append]
      have opened : Stops isClosing (key ++ '=' :: (item ++ '\x7d' :: rest)) :=
        isKey.stops.append (stops_cons.2 rfl)
      obtain ⟨after, back, read⟩ := isKey.endsAt_readMemberKey (item ++ '\x7d' :: rest)
      rw [readMembers_eq (opened.ne_cons rfl)]
      refine read.bind fun name => ?_
      have assigns : skipBlanks (after ++ '=' :: (item ++ '\x7d' :: rest)) =
          '=' :: (item ++ '\x7d' :: rest) := by
        rw [back.skipBlanks_append, skipBlanks_eq (stops_cons.2 rfl)]
      rw [assigns]
      refine (isItem.endsAt_readValue (isEnd_cons (by simp) _) steps (by omega)).bind
        fun found => ?_
      exact Or.inr ⟨_, rfl⟩
    | @more key item members isKey isItem others =>
      simp only [List.length_append, List.length_cons] at enough
      rw [List.append_assoc, List.cons_append, List.append_assoc, List.cons_append]
      have opened : Stops isClosing (key ++ '=' :: (item ++ ',' :: (members ++ rest))) :=
        isKey.stops.append (stops_cons.2 rfl)
      obtain ⟨after, back, read⟩ := isKey.endsAt_readMemberKey (item ++ ',' :: (members ++ rest))
      rw [readMembers_eq (opened.ne_cons rfl)]
      refine read.bind fun name => ?_
      have assigns : skipBlanks (after ++ '=' :: (item ++ ',' :: (members ++ rest))) =
          '=' :: (item ++ ',' :: (members ++ rest)) := by
        rw [back.skipBlanks_append, skipBlanks_eq (stops_cons.2 rfl)]
      rw [assigns]
      refine (isItem.endsAt_readValue (isEnd_cons (by simp) _) steps (by omega)).bind
        fun found => ?_
      refine (others.endsAt_readMembers steps (by omega)).bind fun more => ?_
      exact Or.inr ⟨_, rfl⟩

end

/-! ### What the readers have read is of these forms -/

theorem skipBlanks_dropWhile_isSeparator (cs : List Char) :
    skipBlanks (cs.dropWhile (!isSeparator ·)) = cs.dropWhile (!isSeparator ·) := by
  refine skipBlanks_eq fun c here => ?_
  have separates : isSeparator c = true := by simpa using stops_dropWhile _ cs c here
  simp only [isSeparator, Bool.or_eq_true, beq_iff_eq] at separates
  obtain (((rfl | rfl) | rfl) | rfl) | rfl := separates <;> rfl

mutual

theorem exists_isItem_of_readValue {cs rest : List Char} {t : Tree} :
    ∀ steps, readValue steps cs = .ok (t, rest) → ∃ item, cs = item ++ rest ∧ IsItem item
  | 0, h => nomatch h
  | steps + 1, h => by
    obtain ⟨before, front, whole⟩ := exists_skipBlanks cs
    have begins := beginning (stops_skipBlanks cs)
    rw [whole, readValue_blanks front] at h
    generalize skipBlanks cs = solid at whole begins h
    subst whole
    cases begins with
    | truth b behind =>
      rw [readValue_truth] at h
      cases h
      obtain ⟨after, back, behind'⟩ := exists_skipBlanks behind
      refine ⟨before ++ (truthWord b ++ after), ?_, .truth b front back⟩
      rw [List.append_assoc, List.append_assoc, ← behind']
    | brace inner =>
      rw [readValue_brace] at h
      obtain ⟨⟨found, behind⟩, read, ⟨⟩⟩ := bind_eq_ok h
      obtain ⟨members, rfl, isMembers⟩ := exists_isMembers_of_readMembers steps read
      obtain ⟨after, back, behind'⟩ := exists_skipBlanks behind
      refine ⟨before ++ '\x7b' :: (members ++ after), ?_, .table front isMembers back⟩
      rw [List.append_assoc, List.cons_append, List.append_assoc, ← behind']
    | bracket inner =>
      rw [readValue_bracket] at h
      obtain ⟨⟨found, behind⟩, read, ⟨⟩⟩ := bind_eq_ok h
      obtain ⟨items, rfl, isItems⟩ := exists_isItems_of_readItems steps read
      obtain ⟨after, back, behind'⟩ := exists_skipBlanks behind
      refine ⟨before ++ '[' :: (items ++ after), ?_, .sequence front isItems back⟩
      rw [List.append_assoc, List.cons_append, List.append_assoc, ← behind']
    | quote inner =>
      rw [readValue_quote] at h
      obtain ⟨⟨found, behind⟩, read, ⟨⟩⟩ := bind_eq_ok h
      obtain ⟨written, chars, rfl, spells, -⟩ := exists_spells_of_readQuoted read
      obtain ⟨after, back, behind'⟩ := exists_skipBlanks behind
      refine ⟨before ++ '"' :: (written ++ '"' :: after), ?_, .quoted front spells back⟩
      rw [List.append_assoc, List.cons_append, List.append_assoc, List.cons_append, ← behind']
    | letter c behind =>
      rw [readValue_letter] at h
      cases h
      obtain ⟨after, back, behind'⟩ := exists_skipBlanks behind
      refine ⟨before ++ '\'' :: c :: '\'' :: after, ?_, .letter c front back⟩
      rw [List.append_assoc, List.cons_append, List.cons_append, List.cons_append, ← behind']
    | apostrophe other =>
      rw [readValue_apostrophe other] at h
      cases h
    | run starts =>
      rw [readValue_run starts, skipBlanks_dropWhile_isSeparator] at h
      cases h
      refine ⟨before ++ solid.takeWhile (!isSeparator ·), ?_, .run front starts.isRun_takeWhile⟩
      rw [List.append_assoc, List.takeWhile_append_dropWhile]

theorem exists_isItems_of_readItems {cs rest : List Char} {ts : List Tree} :
    ∀ steps, readItems steps cs = .ok (ts, rest) → ∃ items, cs = items ++ rest ∧ IsItems items
  | 0, h => nomatch h
  | steps + 1, h => by
    by_cases closed : ∃ behind, cs = ']' :: behind
    · obtain ⟨behind, rfl⟩ := closed
      rw [readItems] at h
      cases h
      exact ⟨[']'], rfl, .close⟩
    · rw [readItems_eq fun behind same => closed ⟨behind, same⟩] at h
      obtain ⟨⟨t, behind⟩, read, continues⟩ := bind_eq_ok h
      obtain ⟨item, rfl, isItem⟩ := exists_isItem_of_readValue steps read
      dsimp only at continues
      split at continues
      next =>
        cases continues
        exact ⟨item ++ [']'], by simp, .last isItem⟩
      next =>
        obtain ⟨⟨more, left⟩, readMore, ⟨⟩⟩ := bind_eq_ok continues
        obtain ⟨items, rfl, isItems⟩ := exists_isItems_of_readItems steps readMore
        exact ⟨item ++ ',' :: items, by simp, .more isItem isItems⟩
      next => cases continues

theorem exists_isMembers_of_readMembers {cs rest : List Char} {ts : List (String × Tree)} :
    ∀ steps, readMembers steps cs = .ok (ts, rest) →
      ∃ members, cs = members ++ rest ∧ IsMembers members
  | 0, h => nomatch h
  | steps + 1, h => by
    by_cases closed : ∃ behind, cs = '\x7d' :: behind
    · obtain ⟨behind, rfl⟩ := closed
      rw [readMembers] at h
      cases h
      exact ⟨['\x7d'], rfl, .close⟩
    · rw [readMembers_eq fun behind same => closed ⟨behind, same⟩] at h
      obtain ⟨⟨name, behindKey⟩, readKey, assigned⟩ := bind_eq_ok h
      dsimp only at assigned
      split at assigned
      next assigns =>
        obtain ⟨key, rfl, isKey⟩ := exists_isKey_of_readMemberKey readKey assigns
        obtain ⟨⟨t, behind⟩, read, continues⟩ := bind_eq_ok assigned
        obtain ⟨item, rfl, isItem⟩ := exists_isItem_of_readValue steps read
        dsimp only at continues
        split at continues
        next =>
          cases continues
          exact ⟨key ++ '=' :: (item ++ ['\x7d']), by simp, .last isKey isItem⟩
        next =>
          obtain ⟨⟨more, left⟩, readMore, ⟨⟩⟩ := bind_eq_ok continues
          obtain ⟨members, rfl, isMembers⟩ := exists_isMembers_of_readMembers steps readMore
          exact ⟨key ++ '=' :: (item ++ ',' :: members), by simp, .more isKey isItem isMembers⟩
        next => cases continues
      next => cases assigned

end

end StartOnReady.Settings
