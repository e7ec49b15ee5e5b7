/-!
# Cutting texts at byte places

A text is cut at places that are counted in bytes of UTF-8.  A place inside a character is none.
-/

namespace StartOnReady.Text

/-- Why a text was not read. -/
inductive ReadError where
  /-- The text is not of the form that was asked for. -/
  | form
  /-- The text would have to be cut inside a character. -/
  | place
  deriving DecidableEq, Repr

/-- The bytes of a text. -/
def bytesOf : List Char → Nat
  | [] => 0
  | c :: cs => c.utf8Size + bytesOf cs

/-- The text from a place on. -/
def dropBytes? : (place : Nat) → List Char → Option (List Char)
  | 0, cs => some cs
  | _ + 1, [] => none
  | n + 1, c :: cs => if c.utf8Size ≤ n + 1 then dropBytes? (n + 1 - c.utf8Size) cs else none
termination_by structural _ cs => cs

/-- The text up to a place. -/
def takeBytes? : (place : Nat) → List Char → Option (List Char)
  | 0, _ => some []
  | _ + 1, [] => none
  | n + 1, c :: cs =>
    if c.utf8Size ≤ n + 1 then (takeBytes? (n + 1 - c.utf8Size) cs).map (c :: ·) else none
termination_by structural _ cs => cs

/-- Characters of one byte are cut by their number. -/
theorem takeBytes?_of_narrow {cs : List Char} (narrow : ∀ c ∈ cs, c.utf8Size = 1) {n : Nat}
    (inside : n ≤ cs.length) : takeBytes? n cs = some (cs.take n) := by
  induction cs generalizing n with
  | nil =>
    obtain rfl : n = 0 := Nat.le_zero.1 inside
    rfl
  | cons c cs ih =>
    obtain ⟨one, narrow⟩ := List.forall_mem_cons.1 narrow
    cases n with
    | zero => rfl
    | succ n => simp [takeBytes?, one, ih narrow (Nat.le_of_succ_le_succ inside)]

/-- The text from a place on, or the error. -/
def suffix (place : Nat) (cs : List Char) : Except ReadError (List Char) :=
  match dropBytes? place cs with
  | some rest => .ok rest
  | none => .error .place

/-- The text from one place to another, or the error. -/
def slice (start stop : Nat) (cs : List Char) : Except ReadError (List Char) :=
  match (takeBytes? stop cs).bind (dropBytes? start) with
  | some part => .ok part
  | none => .error .place

end StartOnReady.Text
