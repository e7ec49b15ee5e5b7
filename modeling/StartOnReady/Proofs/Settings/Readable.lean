import Mathlib.Data.List.Infix
import Mathlib.Data.List.TakeWhile
import StartOnReady.Settings.Environment

/-!
# Settings that can be read

A string of a setting is cut behind as many bytes as characters stand in front of its first escape.
So no text is cut inside a character if no character beyond ASCII stands in front of a backslash
(`Tree.isSome_ofText?`).  The readers leave an end of the text they are given, and the condition
holds of every piece of a text for which it holds.
-/

namespace StartOnReady

/-! ### Slices of ASCII -/

namespace Text

theorem slice_length {cs : List Char} (narrow : ∀ c ∈ cs, c.utf8Size = 1) :
    slice 0 cs.length cs = .ok cs := by
  simp [slice, takeBytes?_of_narrow narrow (Nat.le_refl _), dropBytes?]

end Text

namespace Settings

open Text (ReadError)

/-- Whether each character in front of a backslash is one of ASCII. -/
def EscapesBehindAscii (cs : List Char) : Prop :=
  ∀ front behind, cs = front ++ '\\' :: behind → ∀ c ∈ front, c.toNat < 128

theorem EscapesBehindAscii.piece {cs piece : List Char} (h : EscapesBehindAscii cs)
    (inside : piece <:+: cs) : EscapesBehindAscii piece := by
  obtain ⟨before, after, rfl⟩ := inside
  rintro front behind rfl c here
  refine h (before ++ front) (behind ++ after) ?_ c (List.mem_append_right _ here)
  simp

theorem EscapesBehindAscii.suffix {cs rest : List Char} (h : EscapesBehindAscii cs)
    (last : rest <:+ cs) : EscapesBehindAscii rest := h.piece last.isInfix

theorem EscapesBehindAscii.of_notMem {cs : List Char} (plain : '\\' ∉ cs) :
    EscapesBehindAscii cs := by
  rintro front behind rfl
  exact absurd (List.mem_append_right front List.mem_cons_self) plain

theorem utf8Size_of_lt {c : Char} (ascii : c.toNat < 128) : c.utf8Size = 1 :=
  Char.utf8Size_eq_one_iff.2 (Nat.le_of_lt_succ ascii)

/-! ### Quoted strings -/

/-- Whether a reader cuts nothing, and leaves an end of its text. -/
def Uncut {α : Type} (cs : List Char) : Except ReadError (α × List Char) → Prop
  | .ok (_, rest) => rest <:+ cs
  | .error e => e ≠ .place

variable {α β : Type} {cs rest : List Char}

theorem Uncut.mono {read : Except ReadError (α × List Char)} (h : Uncut rest read)
    (last : rest <:+ cs) : Uncut cs read := by
  cases read with
  | ok found => exact List.IsSuffix.trans h last
  | error e => exact h

theorem Uncut.bind {read : Except ReadError (α × List Char)}
    {next : α × List Char → Except ReadError (β × List Char)} (h : Uncut cs read)
    (continues : ∀ a rest, rest <:+ cs → Uncut rest (next (a, rest))) :
    Uncut cs (read >>= next) := by
  cases read with
  | ok found => exact (continues found.1 found.2 h).mono h
  | error e => exact h

/-- Without an escape a string has no character that is not written. -/
theorem readBasic?_subset {steps : Nat} {chars : List Char} (plain : '\\' ∉ cs)
    (h : Toml.readBasic? steps cs = some (chars, rest)) : chars ⊆ cs := by
  fun_induction Toml.readBasic? steps cs generalizing chars with
  | case1 => cases h
  | case2 => cases h
  | case3 =>
    cases h
    exact List.nil_subset _
  | case4 => exact absurd List.mem_cons_self plain
  | case5 steps c cs _ _ _ ih =>
    obtain ⟨⟨behind, left⟩, read, ⟨⟩⟩ := Option.map_eq_some_iff.1 h
    exact List.cons_subset_cons c (ih (fun here => plain (List.mem_cons_of_mem c here)) read)
  | case6 => cases h

theorem readQuotes?_eq {written : List Char} (h : readQuotes? cs = some (written, rest)) :
    cs = written ++ '"' :: rest := by
  fun_induction readQuotes? cs generalizing written with
  | case1 => cases h
  | case2 =>
    cases h
    rfl
  | case3 c cs ih =>
    obtain ⟨⟨inner, left⟩, read, ⟨⟩⟩ := Option.map_eq_some_iff.1 h
    rw [ih read]
    rfl
  | case4 c cs _ _ ih =>
    obtain ⟨⟨inner, left⟩, read, ⟨⟩⟩ := Option.map_eq_some_iff.1 h
    rw [ih read]
    rfl

theorem escaped_ne_place (written : List Char) : escaped written ≠ .error .place := by
  unfold escaped
  split <;> nofun

theorem escaped_subset {written chars : List Char} (plain : '\\' ∉ written)
    (h : escaped written = .ok chars) : chars ⊆ '"' :: written := by
  unfold escaped at h
  split at h
  next read =>
    cases h
    refine List.Subset.trans (readBasic?_subset (by simpa using plain) read) ?_
    simp
  next => cases h

/-- In front of the first escape all is ASCII. -/
theorem EscapesBehindAscii.front {written : List Char} (ascii : EscapesBehindAscii written)
    (more : written.dropWhile (· != '\\') ≠ []) :
    ∀ c ∈ written.takeWhile (· != '\\'), c.toNat < 128 := by
  obtain ⟨c, behind, rest⟩ := List.exists_cons_of_ne_nil more
  have mark : c = '\\' := by simpa [rest] using List.head_dropWhile_not (· != '\\') more
  have whole : written.takeWhile (· != '\\') ++ written.dropWhile (· != '\\') = written :=
    List.takeWhile_append_dropWhile
  rw [rest, mark] at whole
  exact ascii _ behind whole.symm

theorem unquoted_ne_place {written : List Char} (ascii : EscapesBehindAscii written) :
    unquoted written ≠ .error .place := by
  have plain : '\\' ∉ written.takeWhile (· != '\\') := fun here => by
    simpa using List.mem_takeWhile_imp here
  unfold unquoted
  dsimp only
  split
  next => exact escaped_ne_place _
  next more =>
    cases front : escaped (written.takeWhile (· != '\\')) with
    | error e =>
      rintro ⟨⟩
      exact escaped_ne_place _ front
    | ok chars =>
      have narrow : ∀ c ∈ chars, c.utf8Size = 1 := fun c here => by
        refine utf8Size_of_lt ?_
        rcases List.mem_cons.1 (escaped_subset plain front here) with rfl | inside
        · decide
        · exact ascii.front more c inside
      simp only [bind, Except.bind, Text.slice_length narrow]
      cases behind : escaped (written.dropWhile (· != '\\')) with
      | error e =>
        rintro ⟨⟩
        exact escaped_ne_place _ behind
      | ok _ => nofun

theorem uncut_readQuoted (ascii : EscapesBehindAscii cs) : Uncut cs (readQuoted cs) := by
  unfold readQuoted
  split
  next written rest found =>
    have whole := readQuotes?_eq found
    have inside : written <:+: cs := ⟨[], _, whole.symm⟩
    have last : rest <:+ cs := ⟨written ++ ['"'], by simp [whole]⟩
    cases read : unquoted written with
    | ok chars => exact last
    | error e =>
      rintro rfl
      exact unquoted_ne_place (ascii.piece inside) read
  next => nofun

/-- Behind a bare key stands an end of the text. -/
theorem suffix_of_readKey? {key : String} (double : ∀ behind, cs ≠ '"' :: behind)
    (single : ∀ behind, cs ≠ '\'' :: behind) (h : Toml.readKey? cs = some (key, rest)) :
    rest <:+ cs := by
  unfold Toml.readKey? at h
  split at h
  next => exact absurd rfl (double _)
  next => exact absurd rfl (single _)
  next =>
    split at h
    next => cases h
    next =>
      cases h
      exact List.dropWhile_suffix _

theorem uncut_readMemberKey (ascii : EscapesBehindAscii cs) : Uncut cs (readMemberKey cs) := by
  unfold readMemberKey
  split
  next cs =>
    exact (uncut_readQuoted (ascii.suffix (List.suffix_cons _ _))).mono (List.suffix_cons _ _)
  next => nofun
  next double single =>
    split
    next found key =>
      exact suffix_of_readKey? (fun _ same => double _ same) (fun _ same => single _ same) key
    next => nofun

/-! ### Values

The three readers call each other with one step less, so the induction is on the steps. -/

theorem skipBlanks_suffix (cs : List Char) : skipBlanks cs <:+ cs := List.dropWhile_suffix _

mutual

theorem uncut_readValue {cs : List Char} (ascii : EscapesBehindAscii cs) :
    ∀ steps, Uncut cs (readValue steps cs)
  | 0 => nofun
  | steps + 1 => by
    rw [readValue]
    have start := skipBlanks_suffix cs
    refine Uncut.mono ?_ start
    have ascii := ascii.suffix start
    generalize skipBlanks cs = cs at ascii ⊢
    split
    next rest =>
      exact (skipBlanks_suffix rest).trans (List.suffix_append ['t', 'r', 'u', 'e'] rest)
    next rest =>
      exact (skipBlanks_suffix rest).trans (List.suffix_append ['f', 'a', 'l', 's', 'e'] rest)
    next rest =>
      have inner := List.suffix_cons '\x7b' rest
      exact ((uncut_readMembers (ascii.suffix inner) steps).mono inner).bind fun _ rest _ =>
        skipBlanks_suffix rest
    next rest =>
      have inner := List.suffix_cons '[' rest
      exact ((uncut_readItems (ascii.suffix inner) steps).mono inner).bind fun _ rest _ =>
        skipBlanks_suffix rest
    next rest =>
      have inner := List.suffix_cons '"' rest
      exact ((uncut_readQuoted (ascii.suffix inner)).mono inner).bind fun _ rest _ =>
        skipBlanks_suffix rest
    next c rest => exact (skipBlanks_suffix rest).trans (List.suffix_append ['\'', c, '\''] rest)
    next => nofun
    next => exact (skipBlanks_suffix _).trans (List.dropWhile_suffix _)

theorem uncut_readItems {cs : List Char} (ascii : EscapesBehindAscii cs) :
    ∀ steps, Uncut cs (readItems steps cs)
  | 0 => nofun
  | steps + 1 => by
    by_cases closed : ∃ rest, cs = ']' :: rest
    · obtain ⟨rest, rfl⟩ := closed
      rw [readItems]
      exact List.suffix_cons ']' rest
    rw [readItems]
    · refine (uncut_readValue ascii steps).bind fun item rest left => ?_
      have ascii := ascii.suffix left
      dsimp only
      split
      next rest => exact List.suffix_cons ']' rest
      next rest =>
        have inner := List.suffix_cons ',' rest
        exact ((uncut_readItems (ascii.suffix inner) steps).mono inner).bind fun _ rest _ =>
          List.suffix_refl rest
      next => nofun
    · exact fun rest same => closed ⟨rest, same⟩

theorem uncut_readMembers {cs : List Char} (ascii : EscapesBehindAscii cs) :
    ∀ steps, Uncut cs (readMembers steps cs)
  | 0 => nofun
  | steps + 1 => by
    by_cases closed : ∃ rest, cs = '\x7d' :: rest
    · obtain ⟨rest, rfl⟩ := closed
      rw [readMembers]
      exact List.suffix_cons '\x7d' rest
    rw [readMembers]
    · have start := skipBlanks_suffix cs
      refine ((uncut_readMemberKey (ascii.suffix start)).mono start).bind fun key rest left => ?_
      have start := skipBlanks_suffix rest
      have ascii := (ascii.suffix left).suffix start
      refine Uncut.mono ?_ start
      dsimp only
      split
      next rest found =>
        rw [found] at ascii ⊢
        have inner := List.suffix_cons '=' rest
        have ascii := ascii.suffix inner
        refine Uncut.mono ((uncut_readValue ascii steps).bind fun item rest left => ?_) inner
        have ascii := ascii.suffix left
        dsimp only
        split
        next rest => exact List.suffix_cons '\x7d' rest
        next rest =>
          have inner := List.suffix_cons ',' rest
          exact ((uncut_readMembers (ascii.suffix inner) steps).mono inner).bind fun _ rest _ =>
            List.suffix_refl rest
        next => nofun
      next => nofun
    · exact fun rest same => closed ⟨rest, same⟩

end

/-- A text whose escapes stand behind ASCII is a setting, whatever it holds. -/
theorem Tree.isSome_ofText? {s : String} (ascii : EscapesBehindAscii s.toList) :
    (Tree.ofText? s).isSome := by
  have uncut := uncut_readValue ascii (2 * s.toList.length + 2)
  unfold Tree.ofText?
  dsimp only
  split
  next => rfl
  next cut =>
    rw [cut] at uncut
    exact absurd rfl uncut
  next => rfl

end Settings

end StartOnReady
