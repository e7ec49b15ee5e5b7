/-!
# Whole numbers of 64 bits

The bounds of the signed and the unsigned ones, and the numerals that write them.
-/

namespace StartOnReady.Decimal

/-- Whether 64 bits hold a number. -/
def isUnsigned64 (n : Nat) : Bool := n < 0x10000000000000000

/-- Whether 64 bits hold a number together with its sign. -/
def isSigned64 (i : Int) : Bool := -0x8000000000000000 ≤ i && i < 0x8000000000000000

/-- The digits of a numeral, if it has any and nothing else. -/
def digits? (cs : List Char) : Option (List Char) :=
  if !cs.isEmpty && cs.all Char.isDigit then some cs else none

/-- Reads a numeral with an optional plus sign. -/
def unsigned64? (cs : List Char) : Option Nat := do
  let digits ← digits? (match cs with | '+' :: cs => cs | cs => cs)
  let n := Nat.ofDigitChars 10 digits 0
  if isUnsigned64 n then some n else none

/-- Reads a numeral with an optional sign. -/
def signed64? (cs : List Char) : Option Int := do
  let (negative, cs) :=
    match cs with
    | '-' :: cs => (true, cs)
    | '+' :: cs => (false, cs)
    | cs => (false, cs)
  let n : Int := (Nat.ofDigitChars 10 (← digits? cs) 0 : Nat)
  let i := if negative then -n else n
  if isSigned64 i then some i else none

end StartOnReady.Decimal
