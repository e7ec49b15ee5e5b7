import Mathlib.Data.List.TakeWhile
import StartOnReady.Proofs.Text.Runs
import StartOnReady.Settings.Value

/-!
# Numbers among the bare words

A bare word is a number if it is a whole one that 64 bits hold, or one with a point.  Both are said
here by how they are written, and `Datum.ofWord_eq_text` and `Datum.isNumeric_ofWord` say that
a bare word stands for itself just if it is neither.
-/

namespace StartOnReady

namespace Decimal

open Text (Stops stops_cons stops_dropWhile)

/-! ### How numbers are written -/

/-- One digit at least, and nothing else. -/
def IsDigits (cs : List Char) : Prop := cs ≠ [] ∧ ∀ c ∈ cs, c.isDigit = true

/-- A sign, or none. -/
def IsSign (cs : List Char) : Prop := cs = [] ∨ cs = ['+'] ∨ cs = ['-']

/-- A whole number that 64 bits hold, with its sign if it has one. -/
inductive IsWhole : List Char → Prop where
  | bare {digits : List Char} (all : IsDigits digits)
      (fits : Nat.ofDigitChars 10 digits 0 < 0x10000000000000000) : IsWhole digits
  | plus {digits : List Char} (all : IsDigits digits)
      (fits : Nat.ofDigitChars 10 digits 0 < 0x10000000000000000) : IsWhole ('+' :: digits)
  | minus {digits : List Char} (all : IsDigits digits)
      (fits : Nat.ofDigitChars 10 digits 0 ≤ 0x8000000000000000) : IsWhole ('-' :: digits)

/-- A power of ten behind its mark, or none. -/
def IsExponent (cs : List Char) : Prop :=
  cs = [] ∨ ∃ mark sign digits, cs = mark :: (sign ++ digits) ∧ (mark = 'e' ∨ mark = 'E') ∧
    IsSign sign ∧ IsDigits digits

/-- A number with a point: there are digits on one side of it at least. -/
def IsPointed (cs : List Char) : Prop :=
  ∃ sign whole fraction exponent, cs = sign ++ (whole ++ '.' :: (fraction ++ exponent)) ∧
    IsSign sign ∧ IsDigits (whole ++ fraction) ∧ IsExponent exponent

/-- A number, by how it is written. -/
def IsNumber (cs : List Char) : Prop := IsWhole cs ∨ IsPointed cs

variable {cs digits rest : List Char}

/-! ### Digits and signs -/

theorem digits?_eq_some : digits? cs = some digits ↔ IsDigits cs ∧ digits = cs := by
  unfold digits? IsDigits
  simp only [Option.ite_none_right_eq_some, Bool.and_eq_true, Bool.not_eq_true',
    List.isEmpty_eq_false_iff, List.all_eq_true, Option.some.injEq, eq_comm (a := digits)]

theorem isSome_digits?_iff : (digits? cs).isSome ↔ IsDigits cs := by
  simp [Option.isSome_iff_exists, digits?_eq_some]

/-- Whether a character stands in a sign. -/
def isSignChar (c : Char) : Bool := c == '+' || c == '-'

theorem IsSign.isSignChar (h : IsSign cs) : ∀ c ∈ cs, isSignChar c = true := by
  rcases h with rfl | rfl | rfl
  · nofun
  · exact List.forall_mem_singleton.2 rfl
  · exact List.forall_mem_singleton.2 rfl

theorem isSignChar_eq_false_of_isDigit {c : Char} (digit : c.isDigit = true) :
    Decimal.isSignChar c = false := by
  rw [Decimal.isSignChar, Bool.or_eq_false_iff, beq_eq_false_iff_ne, beq_eq_false_iff_ne]
  exact ⟨Text.ne_of_kind digit rfl, Text.ne_of_kind digit rfl⟩

theorem IsDigits.stops (h : IsDigits digits) : Stops isSignChar digits := by
  obtain ⟨some, all⟩ := h
  obtain ⟨c, cs, rfl⟩ := List.exists_cons_of_ne_nil some
  exact stops_cons.2 (isSignChar_eq_false_of_isDigit (all c List.mem_cons_self))

theorem IsPointed.point_mem (h : IsPointed cs) : '.' ∈ cs := by
  obtain ⟨sign, whole, fraction, exponent, rfl, -⟩ := h
  simp

theorem IsExponent.stops (h : IsExponent cs) : Stops Char.isDigit cs := by
  rcases h with rfl | ⟨mark, sign, digits, rfl, rfl | rfl, -⟩
  · exact .nil
  · exact stops_cons.2 rfl
  · exact stops_cons.2 rfl

theorem IsExponent.point_notMem (h : IsExponent cs) : '.' ∉ cs := by
  have noDigit : ¬('.'.isDigit = true) := by decide
  rcases h with rfl | ⟨mark, sign, digits, rfl, isMark, isSign, all⟩
  · exact List.not_mem_nil
  · rcases isMark with rfl | rfl <;> rcases isSign with rfl | rfl | rfl <;>
      simpa using fun here => noDigit (all.2 _ here)

namespace Literal

theorem cutSign_of_stops (h : Stops isSignChar cs) : cutSign cs = (false, cs) := by
  unfold cutSign
  split
  next => cases stops_cons.1 h
  next => cases stops_cons.1 h
  next => rfl

theorem exists_isSign (cs : List Char) : ∃ sign, IsSign sign ∧ cs = sign ++ (cutSign cs).2 := by
  unfold cutSign
  split
  next => exact ⟨['-'], Or.inr (Or.inr rfl), rfl⟩
  next => exact ⟨['+'], Or.inr (Or.inl rfl), rfl⟩
  next => exact ⟨[], Or.inl rfl, rfl⟩

theorem cutSign_append {sign : List Char} (isSign : IsSign sign) (h : Stops isSignChar cs) :
    (cutSign (sign ++ cs)).2 = cs := by
  rcases isSign with rfl | rfl | rfl
  · rw [List.nil_append, cutSign_of_stops h]
  · rfl
  · rfl

/-! ### Numbers with a point -/

theorem exponent?_isSome_iff : (exponent? cs).isSome ↔ IsExponent cs := by
  cases cs with
  | nil => exact iff_of_true rfl (Or.inl rfl)
  | cons c cs =>
    have marked : (exponent? (c :: cs)).isSome ↔
        (c = 'e' ∨ c = 'E') ∧ IsDigits (cutSign cs).2 := by
      rw [exponent?]
      by_cases mark : c = 'e' ∨ c = 'E'
      · rw [if_pos (by simpa using mark), Option.isSome_map, isSome_digits?_iff, and_iff_right mark]
      · rw [if_neg (by simpa using mark)]
        exact iff_of_false Bool.false_ne_true fun h => mark h.1
    rw [marked]
    constructor
    · rintro ⟨mark, all⟩
      obtain ⟨sign, isSign, whole⟩ := exists_isSign cs
      exact Or.inr ⟨c, sign, _, congrArg (c :: ·) whole, mark, isSign, all⟩
    · rintro (none | ⟨mark, sign, digits, whole, isMark, isSign, all⟩)
      · cases none
      · obtain ⟨rfl, rfl⟩ := List.cons.inj whole
        rw [cutSign_append isSign all.stops]
        exact ⟨isMark, all⟩

theorem isSome_ofChars?_iff {front : List Char} {found : Option (List Char) × List Char}
    (isFront : (cutSign cs).2.takeWhile Char.isDigit = front)
    (isFound : cutFraction ((cutSign cs).2.dropWhile Char.isDigit) = found) :
    (ofChars? cs).isSome ↔ front ++ found.1.getD [] ≠ [] ∧ IsExponent found.2 := by
  unfold ofChars?
  dsimp only
  rw [isFront, isFound, ← exponent?_isSome_iff]
  split
  next none => exact iff_of_false Bool.false_ne_true fun h => h.1 (by simpa using none)
  next some =>
    rw [and_iff_right (by simpa using some)]
    cases exponent? found.2 <;> rfl

theorem isPointed_of_ofChars? (point : '.' ∈ cs) (h : (ofChars? cs).isSome) : IsPointed cs := by
  obtain ⟨sign, isSign, whole⟩ := exists_isSign cs
  have digits : ∀ c ∈ (cutSign cs).2.takeWhile Char.isDigit, c.isDigit = true :=
    fun c here => List.mem_takeWhile_imp here
  obtain ⟨some, exponent⟩ := (isSome_ofChars?_iff rfl rfl).1 h
  rw [← List.takeWhile_append_dropWhile (p := Char.isDigit) (l := (cutSign cs).2)] at whole
  generalize (cutSign cs).2.takeWhile Char.isDigit = front at *
  generalize (cutSign cs).2.dropWhile Char.isDigit = behind at *
  by_cases fraction : ∃ tail, behind = '.' :: tail
  · obtain ⟨tail, rfl⟩ := fraction
    refine ⟨sign, front, tail.takeWhile Char.isDigit, tail.dropWhile Char.isDigit, ?_, isSign,
      ⟨some, List.forall_mem_append.2 ⟨digits, fun c => List.mem_takeWhile_imp⟩⟩, exponent⟩
    rw [List.takeWhile_append_dropWhile, whole]
  · -- Without a fraction there is no point: neither the digits nor the exponent have one.
    have none : cutFraction behind = (none, behind) := by
      unfold cutFraction
      split
      next tail => exact absurd ⟨tail, rfl⟩ fraction
      next => rfl
    rw [none] at exponent
    rw [whole, List.mem_append, List.mem_append] at point
    rcases point with here | here | here
    · exact absurd (isSign.isSignChar _ here) (by decide)
    · exact absurd (digits _ here) (by decide)
    · exact absurd here exponent.point_notMem

theorem ofChars?_of_isPointed (h : IsPointed cs) : (ofChars? cs).isSome := by
  obtain ⟨sign, whole, fraction, exponent, rfl, isSign, ⟨some, digits⟩, isExponent⟩ := h
  obtain ⟨wholeDigits, fractionDigits⟩ := List.forall_mem_append.1 digits
  have point : Stops Char.isDigit ('.' :: (fraction ++ exponent)) := stops_cons.2 rfl
  have unsigned : Stops isSignChar (whole ++ '.' :: (fraction ++ exponent)) := by
    cases whole with
    | nil => exact stops_cons.2 rfl
    | cons c whole =>
      exact stops_cons.2 (isSignChar_eq_false_of_isDigit (wholeDigits c List.mem_cons_self))
  have front : (cutSign (sign ++ (whole ++ '.' :: (fraction ++ exponent)))).2.takeWhile Char.isDigit
      = whole := by rw [cutSign_append isSign unsigned, point.takeWhile_run wholeDigits]
  have found : cutFraction ((cutSign (sign ++ (whole ++ '.' :: (fraction ++ exponent)))).2.dropWhile
      Char.isDigit) = (Option.some fraction, exponent) := by
    rw [cutSign_append isSign unsigned, point.dropWhile_run wholeDigits, cutFraction,
      isExponent.stops.takeWhile_run fractionDigits, isExponent.stops.dropWhile_run fractionDigits]
  exact (isSome_ofChars?_iff front found).2 ⟨some, isExponent⟩

end Literal

/-! ### Whole numbers -/

theorem isSome_bind_digits?_iff {α : Type} {next : List Char → Option α} :
    ((digits? cs).bind next).isSome ↔ IsDigits cs ∧ (next cs).isSome := by
  by_cases all : IsDigits cs
  · rw [digits?_eq_some.2 ⟨all, rfl⟩, Option.bind_some, and_iff_right all]
  · rw [Option.not_isSome_iff_eq_none.1 (mt isSome_digits?_iff.1 all)]
    exact iff_of_false Bool.false_ne_true fun h => all h.1

theorem isUnsigned64_iff {n : Nat} : isUnsigned64 n = true ↔ n < 0x10000000000000000 := by
  rw [isUnsigned64, decide_eq_true_iff]

theorem isSigned64_iff {i : Int} :
    isSigned64 i = true ↔ -0x8000000000000000 ≤ i ∧ i < 0x8000000000000000 := by
  rw [isSigned64, Bool.and_eq_true, decide_eq_true_iff, decide_eq_true_iff]

theorem isWhole_of_unsigned64? (h : (unsigned64? cs).isSome) : IsWhole cs := by
  unfold unsigned64? at h
  split at h
  next =>
    obtain ⟨all, fits⟩ := isSome_bind_digits?_iff.1 h
    exact .plus all (isUnsigned64_iff.1 (by simpa using fits))
  next =>
    obtain ⟨all, fits⟩ := isSome_bind_digits?_iff.1 h
    exact .bare all (isUnsigned64_iff.1 (by simpa using fits))

theorem isWhole_of_signed64? (h : (signed64? cs).isSome) : IsWhole cs := by
  unfold signed64? at h
  split at h
  next negative digits cut =>
    obtain ⟨all, fits⟩ := isSome_bind_digits?_iff.1 h
    have fits := isSigned64_iff.1 (by simpa using fits)
    split at cut <;> cases cut
    next => exact .minus all (by omega)
    next => exact .plus all (by omega)
    next => exact .bare all (by omega)

theorem isSome_of_isWhole (h : IsWhole cs) : (unsigned64? cs).isSome ∨ (signed64? cs).isSome := by
  cases h with
  | bare all fits =>
    left
    unfold unsigned64?
    split
    next => cases stops_cons.1 all.stops
    next => exact isSome_bind_digits?_iff.2 ⟨all, by simpa using isUnsigned64_iff.2 fits⟩
  | plus all fits =>
    left
    exact isSome_bind_digits?_iff.2 ⟨all, by simpa using isUnsigned64_iff.2 fits⟩
  | @minus digits all fits =>
    right
    have fits : isSigned64 (-(Nat.ofDigitChars 10 digits 0 : Nat)) = true :=
      isSigned64_iff.2 (by omega)
    exact isSome_bind_digits?_iff.2 ⟨all, by simpa using fits⟩

/-! ### Characters of numbers -/

/-- Whether numbers are written with a character. -/
def isNumberChar (c : Char) : Bool := c.isDigit || ['+', '-', '.', 'e', 'E'].contains c

theorem isNumberChar_of_isDigit {c : Char} (digit : c.isDigit = true) : isNumberChar c = true := by
  rw [isNumberChar, digit, Bool.true_or]

theorem IsSign.isNumberChar (h : IsSign cs) : ∀ c ∈ cs, isNumberChar c = true := by
  rcases h with rfl | rfl | rfl
  · nofun
  · exact List.forall_mem_singleton.2 rfl
  · exact List.forall_mem_singleton.2 rfl

theorem IsNumber.isNumberChar (h : IsNumber cs) : ∀ c ∈ cs, isNumberChar c = true := by
  have digits {ds : List Char} (all : IsDigits ds) : ∀ c ∈ ds, Decimal.isNumberChar c = true :=
    fun c here => isNumberChar_of_isDigit (all.2 c here)
  rcases h with (⟨all, -⟩ | ⟨all, -⟩ | ⟨all, -⟩) | pointed
  · exact digits all
  · exact List.forall_mem_cons.2 ⟨rfl, digits all⟩
  · exact List.forall_mem_cons.2 ⟨rfl, digits all⟩
  · obtain ⟨sign, whole, fraction, exponent, rfl, isSign, all, isExponent⟩ := pointed
    obtain ⟨wholeDigits, fractionDigits⟩ := List.forall_mem_append.1 (digits all)
    have power : ∀ c ∈ exponent, Decimal.isNumberChar c = true := by
      rcases isExponent with rfl | ⟨mark, sign, ds, rfl, isMark, isSign, all⟩
      · nofun
      · have mark : Decimal.isNumberChar mark = true := by rcases isMark with rfl | rfl <;> rfl
        exact List.forall_mem_cons.2
          ⟨mark, List.forall_mem_append.2 ⟨isSign.isNumberChar, digits all⟩⟩
    exact List.forall_mem_append.2 ⟨isSign.isNumberChar, List.forall_mem_append.2
      ⟨wholeDigits, List.forall_mem_cons.2 ⟨rfl, List.forall_mem_append.2 ⟨fractionDigits, power⟩⟩⟩⟩

end Decimal

/-! ### Bare words -/

namespace Settings

open Decimal (IsNumber IsPointed)

variable {cs : List Char}

theorem isSome_real?_iff : (real? cs).isSome ↔ IsPointed cs := by
  unfold real?
  rw [List.contains_eq_mem]
  by_cases point : '.' ∈ cs
  · rw [if_pos (by simpa using point), Option.isSome_map]
    exact ⟨Decimal.Literal.isPointed_of_ofChars? point, Decimal.Literal.ofChars?_of_isPointed⟩
  · rw [if_neg (by simpa using point)]
    exact iff_of_false Bool.false_ne_true fun h => point h.point_mem

/-- Whether a datum is a number. -/
def Datum.IsNumeric : Datum → Prop
  | .unsigned _ | .signed _ | .real _ => True
  | _ => False

theorem Datum.isNumeric_ofWord (h : IsNumber cs) : (Datum.ofWord cs).IsNumeric := by
  unfold Datum.ofWord
  split
  next => trivial
  next notReal =>
    split
    next => trivial
    next notUnsigned =>
      split
      next => trivial
      next notSigned =>
        rcases h with whole | pointed
        · simpa [notUnsigned, notSigned] using Decimal.isSome_of_isWhole whole
        · simpa [notReal] using isSome_real?_iff.2 pointed

theorem Datum.ofWord_eq_text (h : ¬IsNumber cs) : Datum.ofWord cs = .text (String.ofList cs) := by
  unfold Datum.ofWord
  split
  next x isReal => exact absurd (Or.inr (isSome_real?_iff.1 (Option.isSome_of_mem isReal))) h
  next =>
    split
    next n isWhole =>
      exact absurd (Or.inl (Decimal.isWhole_of_unsigned64? (Option.isSome_of_mem isWhole))) h
    next =>
      split
      next i isWhole =>
        exact absurd (Or.inl (Decimal.isWhole_of_signed64? (Option.isSome_of_mem isWhole))) h
      next => rfl

end Settings

end StartOnReady
