import StartOnReady.Text.Blank

/-!
# Runs of characters

A reader that takes characters of one kind takes all of a run, and nothing behind it, if the text
behind the run stops: it is empty or begins with a character of another kind.  A text is trimmed if
it stops for blanks from both ends, and trimming leaves it alone.
-/

namespace StartOnReady.Text

variable {p : Char → Bool} {c : Char} {cs run rest : List Char}

/-- Characters of different kinds are different. -/
theorem ne_of_kind {c' : Char} (here : p c = true) (other : p c' = false) : c ≠ c' := by
  rintro rfl
  rw [here] at other
  cases other

/-- Whether a text does not begin with a character of a kind. -/
def Stops (p : Char → Bool) (cs : List Char) : Prop := ∀ c ∈ cs.head?, p c = false

theorem Stops.nil : Stops p [] := nofun

theorem stops_cons : Stops p (c :: cs) ↔ p c = false := by simp [Stops]

instance (p : Char → Bool) : DecidablePred (Stops p)
  | [] => isTrue .nil
  | c :: _ => decidable_of_iff (p c = false) stops_cons.symm

theorem Stops.append_of_ne_nil (h : Stops p cs) (some : cs ≠ []) : Stops p (cs ++ rest) := by
  obtain ⟨c, cs, rfl⟩ := List.exists_cons_of_ne_nil some
  exact h

theorem Stops.append (h : Stops p cs) (h' : Stops p rest) : Stops p (cs ++ rest) := by
  cases cs with
  | nil => exact h'
  | cons c cs => exact h

theorem Stops.ne_cons (h : Stops p cs) (here : p c = true) (rest : List Char) : cs ≠ c :: rest := by
  rintro rfl
  rw [stops_cons.1 h] at here
  cases here

theorem stops_dropWhile (p : Char → Bool) (cs : List Char) : Stops p (cs.dropWhile p) := by
  induction cs with
  | nil => exact .nil
  | cons c cs ih =>
    by_cases here : p c
    · rwa [List.dropWhile_cons_of_pos here]
    · rw [List.dropWhile_cons_of_neg here]
      exact stops_cons.2 (by simpa using here)

theorem Stops.takeWhile_eq (h : Stops p cs) : cs.takeWhile p = [] := by
  cases cs with
  | nil => rfl
  | cons c cs => exact List.takeWhile_cons_of_neg (by simp [stops_cons.1 h])

theorem Stops.dropWhile_eq (h : Stops p cs) : cs.dropWhile p = cs := by
  cases cs with
  | nil => rfl
  | cons c cs => exact List.dropWhile_cons_of_neg (by simp [stops_cons.1 h])

theorem Stops.takeWhile_run (h : Stops p rest) (all : ∀ c ∈ run, p c = true) :
    (run ++ rest).takeWhile p = run := by
  rw [List.takeWhile_append_of_pos all, h.takeWhile_eq, List.append_nil]

theorem Stops.dropWhile_run (h : Stops p rest) (all : ∀ c ∈ run, p c = true) :
    (run ++ rest).dropWhile p = rest := by
  rw [List.dropWhile_append_of_pos all, h.dropWhile_eq]

theorem Stops.takeWhile (h : Stops p cs) (q : Char → Bool) : Stops p (cs.takeWhile q) := by
  cases cs with
  | nil => exact .nil
  | cons c cs =>
    by_cases here : q c
    · rw [List.takeWhile_cons_of_pos here]
      exact h
    · rw [List.takeWhile_cons_of_neg here]
      exact .nil

/-! ### Trimmed texts -/

/-- Whether a text neither starts nor ends with a blank. -/
structure IsTrimmed (cs : List Char) : Prop where
  front : Stops isBlank cs
  back : Stops isBlank cs.reverse

instance : DecidablePred IsTrimmed := fun cs =>
  decidable_of_iff (Stops isBlank cs ∧ Stops isBlank cs.reverse)
    ⟨fun h => ⟨h.1, h.2⟩, fun h => ⟨h.front, h.back⟩⟩

theorem IsTrimmed.trimChars_eq (h : IsTrimmed cs) : trimChars cs = cs := by
  rw [trimChars, h.front.dropWhile_eq, h.back.dropWhile_eq, List.reverse_reverse]

theorem isBlank_of_isAsciiBlank (h : isAsciiBlank c = true) : isBlank c = true := by
  simp only [isAsciiBlank, Bool.or_eq_true, beq_iff_eq] at h
  obtain (((rfl | rfl) | rfl) | rfl) | rfl := h <;> rfl

theorem Stops.ascii (h : Stops isBlank cs) : Stops isAsciiBlank cs := by
  intro c here
  cases blank : isAsciiBlank c with
  | false => rfl
  | true => exact (isBlank_of_isAsciiBlank blank).symm.trans (h c here)

/-- A trimmed text does not end with blanks. -/
theorem IsTrimmed.eq_nil_of_append (h : IsTrimmed (cs ++ rest))
    (blanks : ∀ c ∈ rest, isAsciiBlank c = true) : rest = [] := by
  rcases List.eq_nil_or_concat rest with rfl | ⟨front, c, rfl⟩
  · rfl
  · have last := h.back c (by simp)
    rw [isBlank_of_isAsciiBlank (blanks c (by simp))] at last
    cases last

end StartOnReady.Text
