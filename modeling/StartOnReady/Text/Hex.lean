/-!
# Hexadecimal digits

Lower-case numerals in base sixteen, with or without leading zeros, and the value of a digit.
-/

namespace StartOnReady.Text

/-- The value of a hexadecimal digit in either letter case. -/
def hexValue? (c : Char) : Option Nat :=
  if '0' ≤ c && c ≤ '9' then some (c.toNat - '0'.toNat)
  else if 'a' ≤ c && c ≤ 'f' then some (c.toNat - 'a'.toNat + 10)
  else if 'A' ≤ c && c ≤ 'F' then some (c.toNat - 'A'.toNat + 10)
  else none

/-- The number that `count` hexadecimal digits write, and the text behind them. -/
def readHex? : (count : Nat) → (value : Nat) → List Char → Option (Nat × List Char)
  | 0, value, cs => some (value, cs)
  | _ + 1, _, [] => none
  | count + 1, value, c :: cs => do
    let digit ← hexValue? c
    readHex? count (value * 16 + digit) cs

/-- The shortest lower-case numeral of `n`. -/
def hex (n : Nat) : List Char := Nat.toDigits 16 n

/-- The lowest `width` hexadecimal digits of `n`. -/
def hexPadded : (width : Nat) → Nat → List Char
  | 0, _ => []
  | width + 1, n => hexPadded width (n / 16) ++ [Nat.digitChar (n % 16)]

/-- The character with number `n`, if there is one. -/
def charOf? (n : Nat) : Option Char :=
  if n.isValidChar then some (Char.ofNat n) else none

end StartOnReady.Text
