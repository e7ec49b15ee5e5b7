/-!
# Searching and dividing texts
-/

namespace StartOnReady.Text

/-- Whether a text starts with a word. -/
def startsWith (word s : String) : Bool := word.toList.isPrefixOf s.toList

/-- Whether a word stands somewhere among the characters. -/
def occursIn (word : List Char) : List Char → Bool
  | [] => word.isEmpty
  | c :: cs => word.isPrefixOf (c :: cs) || occursIn word cs

/-- Whether a text contains a word. -/
def contains (word s : String) : Bool := occursIn word.toList s.toList

theorem occursIn_iff (word cs : List Char) : occursIn word cs = true ↔ word <:+: cs := by
  induction cs with
  | nil => simp [occursIn]
  | cons c cs ih => simp [occursIn, ih, List.infix_cons_iff]

theorem contains_iff (word s : String) : contains word s = true ↔ word.toList <:+: s.toList :=
  occursIn_iff _ _

/-- The parts of a text between marks; without a mark there is one part. -/
def parts (mark : Char) : List Char → List (List Char)
  | [] => [[]]
  | c :: cs =>
    if c = mark then [] :: parts mark cs
    else
      match parts mark cs with
      | [] => [[c]]
      | part :: rest => (c :: part) :: rest

theorem parts_eq_splitOn (mark : Char) (cs : List Char) : parts mark cs = cs.splitOn mark := by
  induction cs with
  | nil => rfl
  | cons c cs ih =>
    rw [parts, List.splitOn, List.splitOnP_cons_eq_if_modifyHead, ih, List.splitOn]
    by_cases same : c = mark
    · simp [same]
    · cases split : cs.splitOnP (· == mark) with
      | nil => exact absurd split (List.splitOnP_ne_nil _ _)
      | cons part rest => simp [same]

end StartOnReady.Text
