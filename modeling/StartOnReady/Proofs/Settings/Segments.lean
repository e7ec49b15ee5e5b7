import Mathlib.Data.List.TakeWhile
import StartOnReady.Settings.Environment

/-!
# The first key of a variable

The path of keys of a variable begins with the first segment of its name behind the lead, in lower
case (`keyPath?_eq_some`), as long as the name has no blanks that would be trimmed.  The variable
that is reserved and the variables without the lead have no path (`keyPath?_eq_none`).
-/

namespace StartOnReady

namespace Text

theorem dropWhile_isBlank_of_solid {cs : List Char} (solid : ∀ c ∈ cs, isBlank c = false) :
    cs.dropWhile isBlank = cs := by
  cases cs with
  | nil => rfl
  | cons c cs => exact List.dropWhile_cons_of_neg (by simp [solid c List.mem_cons_self])

/-- Where nothing is blank nothing is trimmed. -/
theorem trimChars_of_solid {cs : List Char} (solid : ∀ c ∈ cs, isBlank c = false) :
    trimChars cs = cs := by
  rw [trimChars, dropWhile_isBlank_of_solid solid,
    dropWhile_isBlank_of_solid fun c here => solid c (List.mem_reverse.1 here),
    List.reverse_reverse]

/-- The first part of a text is what stands in front of the first mark. -/
theorem head?_parts (mark : Char) (cs : List Char) :
    (parts mark cs).head? = some (cs.takeWhile (· != mark)) := by
  induction cs with
  | nil => rfl
  | cons c cs ih =>
    by_cases same : c = mark
    · simp [parts, same]
    · cases rest : parts mark cs with
      | nil => rw [rest] at ih; cases ih
      | cons part behind =>
        rw [rest, List.head?_cons, Option.some.injEq] at ih
        simp [parts, same, rest, ih]

end Text

namespace Settings

/-- The text up to the first two underscores or the first point. -/
def firstSegment : List Char → List Char
  | '_' :: '_' :: _ => []
  | '.' :: _ => []
  | c :: cs => c :: firstSegment cs
  | [] => []

/-- Whether a name is free of blanks. -/
def IsSolid (name : String) : Prop := ∀ c ∈ name.toList, Text.isBlank c = false

instance : DecidablePred IsSolid := fun name => List.decidableBAll _ name.toList

/-- The first segment ends where the first key does. -/
theorem firstSegment_eq (cs : List Char) : firstSegment cs = (pointed cs).takeWhile (· != '.') := by
  induction cs using pointed.induct with
  | case1 cs ih => rfl
  | case2 c cs other ih =>
    rw [pointed]
    · by_cases point : c = '.'
      · subst point
        rfl
      · rw [firstSegment, ih]
        · simp [point]
        · exact other
        · exact point
    · exact other
  | case3 => rfl

theorem mem_of_mem_pointed {c : Char} {cs : List Char} (h : c ∈ pointed cs) : c = '.' ∨ c ∈ cs := by
  induction cs using pointed.induct with
  | case1 cs ih =>
    rcases List.mem_cons.1 h with point | later
    · exact Or.inl point
    · exact (ih later).imp_right fun here => List.mem_cons_of_mem _ (List.mem_cons_of_mem _ here)
  | case2 first cs other ih =>
    rw [pointed] at h
    · rcases List.mem_cons.1 h with rfl | later
      · exact Or.inr List.mem_cons_self
      · exact (ih later).imp_right (List.mem_cons_of_mem _)
    · exact other
  | case3 => exact absurd h List.not_mem_nil

theorem isBlank_of_mem_pointed {cs : List Char} (solid : ∀ c ∈ cs, Text.isBlank c = false) :
    ∀ c ∈ pointed cs, Text.isBlank c = false := by
  intro c here
  rcases mem_of_mem_pointed here with rfl | inside
  · decide
  · exact solid c inside

/-! ### Paths of solid names -/

variable {name : String}

theorem trim_of_isSolid (solid : IsSolid name) : (Text.trim name).toList = name.toList := by
  rw [Text.trim, String.toList_ofList, Text.trimChars_of_solid solid]

/-- Characters behind the lead stand in the name. -/
theorem mem_of_afterLead? {cs rest : List Char} (h : afterLead? cs = some rest) : rest ⊆ cs := by
  unfold afterLead? at h
  dsimp only at h
  split at h
  · cases h
    exact fun _ => List.mem_of_mem_drop
  · cases h

/-- The path of a name begins with its first segment in lower case. -/
theorem keyPath?_eq_some (solid : IsSolid name) {path : List String}
    (h : keyPath? name = some path) :
    ∃ rest keys, afterLead? name.toList = some rest ∧
      path = String.ofList (lowered (firstSegment rest)) :: keys := by
  unfold keyPath? at h
  rw [trim_of_isSolid solid] at h
  obtain ⟨rest, behind, h⟩ := Option.bind_eq_some_iff.1 h
  have unblanked := isBlank_of_mem_pointed fun c here => solid c (mem_of_afterLead? behind here)
  split at h
  · cases h
  · dsimp only at h
    split at h
    · cases h
    · cases h
      have first := Text.head?_parts '.' (pointed rest)
      rw [Text.trimChars_of_solid unblanked]
      cases keys : Text.parts '.' (pointed rest) with
      | nil =>
        rw [keys] at first
        cases first
      | cons key keys =>
        rw [keys, ← firstSegment_eq] at first
        cases first
        exact ⟨rest, _, behind, rfl⟩

/-- Without the lead, and behind it for the reserved variable, there is no path. -/
theorem keyPath?_eq_none (solid : IsSolid name)
    (other : ∀ rest, afterLead? name.toList = some rest → lowered rest = reservedName) :
    keyPath? name = none := by
  unfold keyPath?
  rw [trim_of_isSolid solid]
  cases behind : afterLead? name.toList with
  | none => rfl
  | some rest => exact if_pos (other rest behind)

end Settings

end StartOnReady
