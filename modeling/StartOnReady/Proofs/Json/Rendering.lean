import Mathlib.Data.List.Basic
import StartOnReady.Json.Printer

/-!
# How the texts of values begin

Only the text of a string can be mistaken for a word.  `Layout.isNumeral_writeFinite` says which
characters a number is written with, and `Value.isUpper_head_chars` what follows for any value that
is no string: whatever it contains, its text does not begin with a capital letter.
-/

namespace StartOnReady

/-! ### Numerals -/

namespace Decimal

/-- Whether numbers are written with a character. -/
def isNumeralChar (c : Char) : Bool := c.isDigit || ['-', '+', '.', 'e'].contains c

/-- Whether a text has no other characters than numbers have. -/
def IsNumeral (cs : List Char) : Prop := ∀ c ∈ cs, isNumeralChar c = true

namespace IsNumeral

variable {cs ds : List Char}

theorem nil : IsNumeral [] := fun _ h => absurd h List.not_mem_nil

theorem cons {c : Char} (first : isNumeralChar c = true) (rest : IsNumeral cs) :
    IsNumeral (c :: cs) := List.forall_mem_cons.2 ⟨first, rest⟩

theorem append (left : IsNumeral cs) (right : IsNumeral ds) : IsNumeral (cs ++ ds) :=
  List.forall_mem_append.2 ⟨left, right⟩

theorem of_subset (all : IsNumeral cs) (h : ds ⊆ cs) : IsNumeral ds := fun c hc => all c (h hc)

theorem zeros (n : Nat) : IsNumeral (List.replicate n '0') := by
  intro c hc
  rw [List.eq_of_mem_replicate hc]
  rfl

theorem toDigits (n : Nat) : IsNumeral (Nat.toDigits 10 n) := by
  intro c hc
  have digit := Nat.isDigit_of_mem_toDigits (by decide) (by decide) hc
  rw [isNumeralChar, digit, Bool.true_or]

end IsNumeral

/-! ### Shortest digits -/

namespace Finite

theorem trimZeros_subset (cs : List Char) : trimZeros cs ⊆ cs := by
  intro c hc
  rw [trimZeros, List.mem_reverse] at hc
  exact List.mem_reverse.1 (List.dropWhile_subset _ hc)

theorem isNumeral_searchGrid (x : Finite) (tries : Nat) (k : Int) :
    IsNumeral (searchGrid x tries k).digits := by
  induction tries generalizing k with
  | zero => exact IsNumeral.zeros 1
  | succ tries ih =>
    unfold searchGrid
    split
    · exact (IsNumeral.toDigits _).of_subset (trimZeros_subset _)
    · exact ih (k - 1)

theorem isNumeral_shortest (x : Finite) : IsNumeral x.shortest.digits := by
  unfold shortest
  split
  · exact IsNumeral.zeros 1
  · exact isNumeral_searchGrid x _ _

end Finite

/-! ### Layouts -/

namespace Layout

variable {d : Digits}

theorem isNumeral_placed (l : Layout) (digits : IsNumeral d.digits) :
    IsNumeral (l.placed d) := by
  unfold placed
  split
  · have lead : IsNumeral ['0', '.'] := .cons rfl (.cons rfl .nil)
    exact (lead.append (.zeros _)).append digits
  · dsimp only
    split
    · refine (digits.append (.zeros _)).append ?_
      split
      · exact .cons rfl (.cons rfl .nil)
      · exact .nil
    · exact (digits.of_subset (List.take_subset _ _)).append
        (.cons rfl (digits.of_subset (List.drop_subset _ _)))

theorem isNumeral_powered (digits : IsNumeral d.digits) : IsNumeral (powered d) := by
  have behind : IsNumeral (if 1 < d.digits.length then '.' :: d.digits.drop 1 else []) := by
    split
    · exact .cons rfl (digits.of_subset (List.drop_subset _ _))
    · exact .nil
  have mark : IsNumeral ['e', if d.power < 0 then '-' else '+'] := by
    refine .cons rfl (.cons ?_ .nil)
    split <;> rfl
  exact (((digits.of_subset (List.take_subset _ _)).append behind).append mark).append
    (.toDigits _)

/-- A number is written with digits, signs, a point and an exponent mark. -/
theorem isNumeral_writeFinite (l : Layout) (x : Finite) : IsNumeral (l.writeFinite x) := by
  have digits := x.isNumeral_shortest
  have sign : IsNumeral (if x.negative then ['-'] else []) := by
    split
    · exact .cons rfl .nil
    · exact .nil
  refine sign.append ?_
  split
  · exact l.isNumeral_placed digits
  · exact isNumeral_powered digits

end Layout

end Decimal

/-! ### Values -/

namespace Json

open Decimal (IsNumeral isNumeralChar)

theorem Number.isNumeral_chars (n : Number) : IsNumeral n.chars := by
  cases n with
  | integer i =>
    have sign : IsNumeral (if i < 0 then ['-'] else []) := by
      split
      · exact .cons rfl .nil
      · exact .nil
    exact sign.append (.toDigits _)
  | real x => exact realLayout.isNumeral_writeFinite x

theorem isUpper_eq_false_of_isNumeralChar {c : Char} (h : isNumeralChar c = true) :
    c.isUpper = false := by
  rw [isNumeralChar, Bool.or_eq_true] at h
  rcases h with digit | mark
  · simp only [Char.isDigit, Bool.and_eq_true, decide_eq_true_eq] at digit
    refine decide_eq_false fun capital => ?_
    exact absurd (UInt32.le_trans capital.1 digit.2) (by decide)
  · rw [List.contains_iff_mem] at mark
    simp only [List.mem_cons, List.not_mem_nil, or_false] at mark
    rcases mark with rfl | rfl | rfl | rfl <;> rfl

/-- A value that is no string has a text that begins with a sign, a digit, a bracket or a small
letter. -/
theorem Value.isUpper_head_chars {v : Value} (unquoted : v.kind ≠ .string) {c : Char}
    {cs : List Char} (text : v.chars = c :: cs) : c.isUpper = false := by
  cases v with
  | null | array _ | object _ =>
    cases text
    rfl
  | boolean b => cases b <;> cases text <;> rfl
  | number n =>
    have first : c ∈ n.chars := by
      rw [Value.chars] at text
      rw [text]
      exact List.mem_cons_self
    exact isUpper_eq_false_of_isNumeralChar (n.isNumeral_chars c first)
  | string s => exact absurd rfl unquoted

end Json

end StartOnReady
