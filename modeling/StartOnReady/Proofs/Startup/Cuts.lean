import Mathlib.Data.List.Infix
import StartOnReady.Log.Filter

/-!
# Directives that are cut between characters

The marks of a directive are counted in its text without the blanks around it, and its parts are cut
from the text with them.  So all cuts fall between characters if each place of the one text is a
place of the other (`IsAligned`).  That is so without a blank in front, and it is so in ASCII, where
every byte is a character (`IsPlain.isAligned`).  A filter of such directives is read, or has
another form, but is never cut inside a character (`Filter.parse_ne_place`).
-/

namespace StartOnReady

/-! ### Places -/

namespace Text

variable {place start stop : Nat} {cs rest text : List Char}

theorem bytesOf_append (front behind : List Char) :
    bytesOf (front ++ behind) = bytesOf front + bytesOf behind := by
  induction front with
  | nil => exact (Nat.zero_add _).symm
  | cons c front ih => rw [List.cons_append, bytesOf, bytesOf, ih, Nat.add_assoc]

theorem bytesOf_eq_zero_iff : bytesOf cs = 0 ↔ cs = [] := by
  cases cs with
  | nil => exact iff_of_true rfl rfl
  | cons c cs =>
    have := Char.utf8Size_pos c
    exact iff_of_false (by rw [bytesOf]; omega) (List.cons_ne_nil c cs)

theorem bytesOf_of_narrow (narrow : ∀ c ∈ cs, c.utf8Size = 1) : bytesOf cs = cs.length := by
  induction cs with
  | nil => rfl
  | cons c cs ih =>
    obtain ⟨one, narrow⟩ := List.forall_mem_cons.1 narrow
    rw [bytesOf, one, ih narrow, List.length_cons, Nat.add_comm]

theorem takeBytes?_append (front behind : List Char) :
    takeBytes? (bytesOf front) (front ++ behind) = some front := by
  induction front with
  | nil => cases behind <;> rfl
  | cons c front ih =>
    obtain ⟨n, size⟩ := Nat.exists_eq_succ_of_ne_zero (Char.utf8Size_pos c).ne'
    have more : bytesOf (c :: front) = n + bytesOf front + 1 := by rw [bytesOf, size]; omega
    have left : n + bytesOf front + 1 - c.utf8Size = bytesOf front := by omega
    rw [more, List.cons_append, takeBytes?, if_pos (by omega), left, ih, Option.map_some]

theorem dropBytes?_append (front behind : List Char) :
    dropBytes? (bytesOf front) (front ++ behind) = some behind := by
  induction front with
  | nil => cases behind <;> rfl
  | cons c front ih =>
    obtain ⟨n, size⟩ := Nat.exists_eq_succ_of_ne_zero (Char.utf8Size_pos c).ne'
    have more : bytesOf (c :: front) = n + bytesOf front + 1 := by rw [bytesOf, size]; omega
    have left : n + bytesOf front + 1 - c.utf8Size = bytesOf front := by omega
    rw [more, List.cons_append, dropBytes?, if_pos (by omega), left, ih]

/-- Whether the rest of a text begins at a place. -/
def BeginsAt (place : Nat) (rest text : List Char) : Prop :=
  ∃ front, front ++ rest = text ∧ bytesOf front = place

/-- Whether a place is an end of a text or between two of its characters. -/
def IsPlace (place : Nat) (text : List Char) : Prop := ∃ rest, BeginsAt place rest text

theorem BeginsAt.skip {run : List Char} (h : BeginsAt place (run ++ rest) text) :
    BeginsAt (place + bytesOf run) rest text := by
  obtain ⟨front, rfl, rfl⟩ := h
  exact ⟨front ++ run, by simp, bytesOf_append front run⟩

theorem BeginsAt.next {c : Char} (h : BeginsAt place (c :: rest) text) :
    BeginsAt (place + c.utf8Size) rest text := by
  have whole : BeginsAt place ([c] ++ rest) text := h
  exact whole.skip

theorem beginsAt_zero (text : List Char) : BeginsAt 0 text text := ⟨[], rfl, rfl⟩

theorem IsPlace.suffix_ne_place (h : IsPlace place text) :
    suffix place text ≠ .error .place := by
  obtain ⟨rest, front, rfl, rfl⟩ := h
  rw [suffix, dropBytes?_append]
  rintro ⟨⟩

/-- What lies between two places is a part of the text. -/
theorem IsPlace.slice_ne_place (first : IsPlace start text) (last : IsPlace stop text)
    (ordered : start ≤ stop) : slice start stop text ≠ .error .place := by
  obtain ⟨rest, front, whole, rfl⟩ := first
  obtain ⟨behind, upTo, rfl, rfl⟩ := last
  have shorter : front <+: upTo := by
    rcases List.prefix_or_prefix_of_prefix ⟨rest, whole⟩ (List.prefix_append upTo behind) with
      inside | ⟨more, rfl⟩
    · exact inside
    · rw [bytesOf_append] at ordered
      rw [bytesOf_eq_zero_iff.1 (by omega : bytesOf more = 0), List.append_nil]
  obtain ⟨part, rfl⟩ := shorter
  rw [slice, takeBytes?_append, Option.bind_some, dropBytes?_append]
  rintro ⟨⟩

/-! ### Parts -/

theorem mem_of_mem_parts {mark c : Char} {part : List Char} (given : part ∈ parts mark cs)
    (here : c ∈ part) : c ∈ cs := by
  induction cs generalizing part with
  | nil =>
    cases List.mem_singleton.1 given
    exact here
  | cons d cs ih =>
    unfold parts at given
    split at given
    next =>
      rcases List.mem_cons.1 given with rfl | later
      · cases here
      · exact List.mem_cons_of_mem d (ih later here)
    next =>
      split at given
      next =>
        cases List.mem_singleton.1 given
        rw [List.mem_singleton.1 here]
        exact List.mem_cons_self
      next first rest split =>
        rcases List.mem_cons.1 given with rfl | later
        · rcases List.mem_cons.1 here with rfl | inside
          · exact List.mem_cons_self
          · exact List.mem_cons_of_mem d (ih (split ▸ List.mem_cons_self) inside)
        · exact List.mem_cons_of_mem d (ih (split ▸ List.mem_cons_of_mem first later) here)

end Text

namespace Log

open Text (BeginsAt IsPlace ReadError)

/-! ### Directives -/

/-- Whether the places of a text without the blanks around it are also places of the whole text. -/
def IsAligned (text : List Char) : Prop :=
  ∀ place, IsPlace place (Text.trimChars text) → IsPlace place text

theorem bind_ne_place {α β : Type} {read : Except ReadError α} {next : α → Except ReadError β}
    (first : read ≠ .error .place) (later : ∀ a, read = .ok a → next a ≠ .error .place) :
    read >>= next ≠ .error .place := by
  cases read with
  | ok a => exact later a rfl
  | error e =>
    rintro ⟨⟩
    exact first rfl

theorem ok_ne_place {α : Type} (a : α) : (.ok a : Except ReadError α) ≠ .error .place := by
  rintro ⟨⟩

theorem form_ne_place {α : Type} : (.error .form : Except ReadError α) ≠ .error .place := by
  rintro ⟨⟩

theorem Directive.withThreshold_ne_place (d : Directive) (word : List Char) :
    d.withThreshold word ≠ .error .place := by
  unfold withThreshold
  split
  next => exact ok_ne_place _
  next => exact form_ne_place

theorem Directive.withField_ne_place (d : Directive) (field : List Char) :
    d.withField field ≠ .error .place := by
  unfold withField
  split
  next =>
    split
    next => exact form_ne_place
    next => exact ok_ne_place _
  next => exact form_ne_place

variable {text : List Char} {opening mark : Mark} {marks cs rest : List Char} {place : Nat}

theorem findMark_ne_place : findMark marks place cs ≠ .error .place := by
  unfold findMark
  dsimp only
  split
  next => exact form_ne_place
  next => exact ok_ne_place _

/-- A mark is found at the place where it stands. -/
theorem beginsAt_findMark {whole : List Char} (here : BeginsAt place cs whole)
    (found : findMark marks place cs = .ok mark) :
    BeginsAt mark.place (mark.char :: mark.rest) whole ∧ place ≤ mark.place := by
  unfold findMark at found
  dsimp only at found
  split at found
  next => cases found
  next c rest stop =>
    cases found
    refine ⟨?_, Nat.le_add_right _ _⟩
    refine BeginsAt.skip ?_
    rw [← stop, List.takeWhile_append_dropWhile]
    exact here

variable (aligned : IsAligned text)

include aligned

theorem afterScope_ne_place (d : Directive) (here : BeginsAt place rest (Text.trimChars text)) :
    afterScope text place rest d ≠ .error .place := by
  unfold afterScope
  split
  next => exact ok_ne_place d
  next behind =>
    have sign : IsPlace (place + 1) text := aligned _ ⟨behind, here.next⟩
    exact bind_ne_place sign.suffix_ne_place fun word _ => d.withThreshold_ne_place word
  next => exact form_ne_place

theorem fieldScope_ne_place (d : Directive)
    (here : BeginsAt opening.place (opening.char :: opening.rest) (Text.trimChars text)) :
    fieldScope text opening d ≠ .error .place := by
  unfold fieldScope
  refine bind_ne_place findMark_ne_place fun closing found => ?_
  obtain ⟨there, ordered⟩ := beginsAt_findMark here.next found
  have first : IsPlace opening.after text := aligned _ ⟨_, here.next⟩
  have last : IsPlace closing.place text := aligned _ ⟨_, there⟩
  refine bind_ne_place (first.slice_ne_place last ordered) fun field _ => ?_
  refine bind_ne_place (d.withField_ne_place field) fun d' _ => ?_
  split
  next rest behind =>
    have bracket := there.next
    rw [behind] at bracket
    exact afterScope_ne_place aligned d' bracket.next
  next => exact form_ne_place

theorem scope_ne_place (d : Directive)
    (here : BeginsAt opening.place (opening.char :: opening.rest) (Text.trimChars text)) :
    scope text opening d ≠ .error .place := by
  unfold scope
  refine bind_ne_place findMark_ne_place fun mark found => ?_
  obtain ⟨there, ordered⟩ := beginsAt_findMark here.next found
  have first : IsPlace opening.after text := aligned _ ⟨_, here.next⟩
  have last : IsPlace mark.place text := aligned _ ⟨_, there⟩
  refine bind_ne_place (first.slice_ne_place last ordered) fun span _ => ?_
  split
  next => exact afterScope_ne_place aligned _ there.next
  next => exact fieldScope_ne_place aligned _ there

theorem sourced_ne_place
    (here : BeginsAt mark.place (mark.char :: mark.rest) (Text.trimChars text)) :
    sourced text mark ≠ .error .place := by
  have first : IsPlace 0 text := aligned _ ⟨_, Text.beginsAt_zero _⟩
  have last : IsPlace mark.place text := aligned _ ⟨_, here⟩
  have behind : IsPlace mark.after text := aligned _ ⟨_, here.next⟩
  unfold sourced
  refine bind_ne_place (first.slice_ne_place last (Nat.zero_le _)) fun source _ => ?_
  split
  next => exact scope_ne_place aligned _ here
  next =>
    exact bind_ne_place behind.suffix_ne_place fun word _ =>
      Directive.withThreshold_ne_place _ word

/-- Without a difference between the places nothing is cut inside a character. -/
theorem Directive.ofChars_ne_place : ofChars text ≠ .error .place := by
  unfold ofChars
  dsimp only
  split
  next => exact form_ne_place
  next rest scan =>
    refine scope_ne_place aligned _ ?_
    rw [scan]
    exact Text.beginsAt_zero _
  next =>
    split
    next =>
      split
      next mark found =>
        exact sourced_ne_place aligned (beginsAt_findMark (Text.beginsAt_zero _) found).1
      next => exact ok_ne_place _
    next => exact form_ne_place

omit aligned

/-! ### Plain directives -/

/-- Whether a directive has no blank in front or no character beyond ASCII. -/
def IsPlain (directive : List Char) : Prop :=
  (∀ c ∈ directive.head?, Text.isBlank c = false) ∨ ∀ c ∈ directive, c.toNat < 128

theorem trimChars_sublist (cs : List Char) : (Text.trimChars cs).Sublist cs := by
  have back := (List.dropWhile_sublist Text.isBlank).trans
    (List.reverse_sublist.2 (List.dropWhile_sublist (l := cs) Text.isBlank))
  simpa [Text.trimChars] using List.reverse_sublist.2 back

theorem trimChars_prefix (filled : ∀ c ∈ cs.head?, Text.isBlank c = false) :
    Text.trimChars cs <+: cs := by
  have kept : cs.dropWhile Text.isBlank = cs := by
    cases cs with
    | nil => rfl
    | cons c cs => exact List.dropWhile_cons_of_neg (by simp [filled c rfl])
  rw [Text.trimChars, kept, ← List.reverse_suffix, List.reverse_reverse]
  exact List.dropWhile_suffix _

theorem IsPlain.isAligned (plain : IsPlain text) : IsAligned text := by
  rintro place ⟨rest, front, whole, rfl⟩
  rcases plain with filled | ascii
  · obtain ⟨behind, split⟩ := trimChars_prefix filled
    exact ⟨rest ++ behind, front, by rw [← split, ← whole, List.append_assoc], rfl⟩
  · have narrow : ∀ c ∈ text, c.utf8Size = 1 := fun c here =>
      Char.utf8Size_eq_one_iff.2 (Nat.le_of_lt_succ (ascii c here))
    have part : front.Sublist text :=
      (List.sublist_append_left front rest).trans (whole ▸ trimChars_sublist text)
    have size : Text.bytesOf (text.take front.length) = Text.bytesOf front := by
      rw [Text.bytesOf_of_narrow fun c here => narrow c (List.mem_of_mem_take here),
        Text.bytesOf_of_narrow fun c here => narrow c (part.subset here), List.length_take,
        Nat.min_eq_left part.length_le]
    exact ⟨text.drop front.length, text.take front.length, List.take_append_drop _ _, size⟩

/-! ### Filters -/

namespace Filter

variable {s : String}

/-- Whether the directives of a filter, which stand between commas, are plain. -/
def IsPlain (s : String) : Prop := ∀ directive ∈ s.toList.splitOn ',', Log.IsPlain directive

/-- A filter in ASCII is plain. -/
theorem isPlain_of_ascii (ascii : s.toList.all (·.toNat < 128) = true) : IsPlain s := by
  refine fun directive given => Or.inr fun c here => ?_
  rw [← Text.parts_eq_splitOn] at given
  exact of_decide_eq_true (List.all_eq_true.1 ascii c (Text.mem_of_mem_parts given here))

theorem ofChars_ne_place (plain : IsPlain s) {directive : List Char}
    (given : directive ∈ texts s) : Directive.ofChars directive ≠ .error .place := by
  refine Directive.ofChars_ne_place (IsPlain.isAligned (plain directive ?_))
  rw [← Text.parts_eq_splitOn]
  exact (List.mem_filter.1 given).1

/-- A filter that is not read has a directive that is not. -/
theorem parse_eq_error {e : ReadError} (h : parse s = .error e) :
    ∃ directive ∈ texts s, Directive.ofChars directive = .error e := by
  have one (directives : List (List Char))
      (failed : directives.mapM Directive.ofChars = .error e) :
      ∃ directive ∈ directives, Directive.ofChars directive = .error e := by
    induction directives with
    | nil => cases failed
    | cons directive directives ih =>
      rw [List.mapM_cons] at failed
      cases first : Directive.ofChars directive with
      | error e' =>
        rw [first] at failed
        cases failed
        exact ⟨directive, List.mem_cons_self, first⟩
      | ok d =>
        cases later : directives.mapM Directive.ofChars with
        | error e' =>
          rw [first, later] at failed
          cases failed
          obtain ⟨other, given, unread⟩ := ih later
          exact ⟨other, List.mem_cons_of_mem directive given, unread⟩
        | ok ds =>
          rw [first, later] at failed
          cases failed
  unfold parse at h
  cases read : (texts s).mapM Directive.ofChars with
  | ok ds =>
    rw [read] at h
    cases h
  | error e' =>
    rw [read] at h
    cases h
    exact one _ read

/-- A filter whose directives may have any form is read unless one of them has to be cut inside a
character. -/
theorem ofText_eq_error {e : ReadError} (h : ofText s = .error e) :
    e = .place ∧ ∃ directive ∈ texts s, Directive.ofChars directive = .error .place := by
  have one (directives : List (List Char)) (failed : directivesIn directives = .error e) :
      e = .place ∧ ∃ directive ∈ directives, Directive.ofChars directive = .error .place := by
    induction directives with
    | nil => cases failed
    | cons directive directives ih =>
      have behind (later : directivesIn directives = .error e) : e = .place ∧
          ∃ other ∈ directive :: directives, Directive.ofChars other = .error .place := by
        obtain ⟨rfl, other, given, cut⟩ := ih later
        exact ⟨rfl, other, List.mem_cons_of_mem directive given, cut⟩
      unfold directivesIn at failed
      split at failed
      next =>
        cases later : directivesIn directives with
        | error e' =>
          rw [later] at failed
          cases failed
          exact behind later
        | ok ds =>
          rw [later] at failed
          cases failed
      next => exact behind failed
      next cut =>
        cases failed
        exact ⟨rfl, directive, List.mem_cons_self, cut⟩
  unfold ofText at h
  cases read : directivesIn (texts s) with
  | ok ds =>
    rw [read] at h
    cases h
  | error e' =>
    rw [read] at h
    cases h
    exact one _ read

theorem parse_ne_place (plain : IsPlain s) : parse s ≠ .error .place := by
  intro cut
  obtain ⟨directive, given, cut⟩ := parse_eq_error cut
  exact ofChars_ne_place plain given cut

theorem ofText_ne_place (plain : IsPlain s) : ofText s ≠ .error .place := by
  intro cut
  obtain ⟨-, directive, given, cut⟩ := ofText_eq_error cut
  exact ofChars_ne_place plain given cut

end Filter

end Log

end StartOnReady
