import StartOnReady.Decimal.Binary64
import StartOnReady.Decimal.Whole

/-!
# Written decimal numbers

A literal is kept as it was written.  Its value is taken in two ways: `nearest` is the number
closest to the exact value, and `scaled?` rounds twice, first the leading digits that fit 64 bits
and then their product with a power of ten.  The two can differ in the last bit.
-/

namespace StartOnReady.Decimal

/-- A decimal number as it was written. -/
structure Literal where
  negative : Bool
  whole : List Char
  /-- The digits behind a point. -/
  fraction : Option (List Char)
  /-- The digits behind an exponent mark, and whether a minus stands before them. -/
  exponent : Option (Bool × List Char)
  deriving DecidableEq, Repr

namespace Literal

/-- Whether neither a point nor an exponent is written. -/
def isIntegral (l : Literal) : Bool := l.fraction.isNone && l.exponent.isNone

/-- The number that the whole digits write. -/
def wholeValue (l : Literal) : Nat := Nat.ofDigitChars 10 l.whole 0

/-- The written power of ten. -/
def power (l : Literal) : Int :=
  match l.exponent with
  | none => 0
  | some (negative, digits) =>
    let n : Int := (Nat.ofDigitChars 10 digits 0 : Nat)
    if negative then -n else n

/-! ### Reading what is written -/

/-- Whether a minus stands first, and the text behind a sign. -/
def cutSign : List Char → Bool × List Char
  | '-' :: cs => (true, cs)
  | '+' :: cs => (false, cs)
  | cs => (false, cs)

/-- An optional point, with or without digits behind it. -/
def cutFraction : List Char → Option (List Char) × List Char
  | '.' :: cs => (some (cs.takeWhile Char.isDigit), cs.dropWhile Char.isDigit)
  | cs => (none, cs)

/-- An exponent behind its mark; nothing may follow it. -/
def exponent? : List Char → Option (Option (Bool × List Char))
  | [] => some none
  | c :: cs =>
    if c == 'e' || c == 'E' then
      let (negative, cs) := cutSign cs
      (digits? cs).map fun digits => some (negative, digits)
    else none

/-- The literal that all the characters write: an optional sign, digits on one side of an optional
point at least, and an optional exponent. -/
def ofChars? (cs : List Char) : Option Literal := do
  let (negative, cs) := cutSign cs
  let whole := cs.takeWhile Char.isDigit
  let (fraction, cs) := cutFraction (cs.dropWhile Char.isDigit)
  if (whole ++ fraction.getD []).isEmpty then none
  else do
    let exponent ← exponent? cs
    some ⟨negative, whole, fraction, exponent⟩

/-! ### Reading to the nearest number -/

/-- All digits as one whole number. -/
def digitsValue (l : Literal) : Nat := Nat.ofDigitChars 10 (l.whole ++ l.fraction.getD []) 0

/-- The power of ten of the last written digit. -/
def lastPower (l : Literal) : Int := l.power - (l.fraction.getD []).length

/-- The nearest number of the format.  A value at least `10 ^ 310` is infinite and one below
`10 ^ (-330)` is zero, which settles them before any large power is formed. -/
def nearest (l : Literal) : Binary64 :=
  let n := l.digitsValue
  let size : Int := (Nat.toDigits 10 n).length + l.lastPower
  if n = 0 || size < -330 then .finite (.zero l.negative)
  else if 310 < size then .infinite l.negative
  else
    match Finite.ofRatio? l.negative (n * Nat.pow 10 l.lastPower.toNat)
        (Nat.pow 10 (-l.lastPower).toNat) with
    | some x => .finite x
    | none => .infinite l.negative

/-! ### Reading by scaling -/

/-- The leading digits of a literal and the power of ten to multiply them with. -/
structure Scaled where
  leading : Nat
  power : Int

/-- Takes whole digits as long as 64 bits hold them; each further one raises the power. -/
def takeWhole : List Char → Scaled → Scaled
  | [], s => s
  | c :: cs, s =>
    let next := s.leading * 10 + (c.toNat - '0'.toNat)
    if isUnsigned64 next then takeWhole cs { s with leading := next }
    else { s with power := s.power + (cs.length + 1 : Nat) }

/-- Takes digits behind the point as long as 64 bits hold them; further ones are dropped. -/
def takeFraction : List Char → Scaled → Scaled
  | [], s => s
  | c :: cs, s =>
    let next := s.leading * 10 + (c.toNat - '0'.toNat)
    if isUnsigned64 next then takeFraction cs ⟨next, s.power - 1⟩ else s

/-- `x · 10 ^ k`, by the nearest powers of ten up to `10 ^ 308`.  Smaller powers are reached in
steps; `steps` of them bring every 64-bit number down to zero. -/
def timesPower? : (steps : Nat) → Finite → Int → Option Finite
  | 0, x, _ => some (.zero x.negative)
  | steps + 1, x, k =>
    if k.natAbs ≤ 308 then do
      let power ← Finite.powerOfTen? k.natAbs
      if 0 ≤ k then x.mul? power else x.div? power
    else if x.isZero then some x
    else if 0 ≤ k then none
    else do
      let power ← Finite.powerOfTen? 308
      timesPower? steps (← x.div? power) (k + 308)

/-- The number read by scaling; `none` if it is too large. -/
def scaled? (l : Literal) : Option Finite := do
  let s := takeFraction (l.fraction.getD []) (takeWhole l.whole ⟨0, 0⟩)
  let leading ← Finite.ofRatio? l.negative s.leading 1
  timesPower? 4 leading (s.power + l.power)

end Literal

end StartOnReady.Decimal
