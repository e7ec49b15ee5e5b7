import StartOnReady.Decimal.Binary64

/-!
# The shortest digits of a number

`Finite.shortest` gives the fewest decimal digits that are nearer to a number than to any other of
the format; among as many digits it takes the nearest, and of two as near the even one.  On each
decimal grid only the two neighbours of the number are tried, in exact whole-number arithmetic.
-/

namespace StartOnReady.Decimal

/-- Decimal digits without zeros at the end, and the power of ten of the first one. -/
structure Digits where
  digits : List Char
  power : Int
  deriving DecidableEq, Repr

namespace Finite

/-- Four times the ends of the interval of values that round to `x`, in units of `2 ^ exponent`.
The gap below a power of two is half as wide, except at the least exponent. -/
def roundingEnds (x : Finite) : Nat × Nat :=
  let m := x.significand
  (if m = leastNormal && -1074 < x.exponent then 4 * m - 1 else 4 * m - 2, 4 * m + 2)

/-- The multiple of `10 ^ k` next to `x` that rounds to `x`, if there is one. -/
def onGrid? (x : Finite) (k : Int) : Option Nat :=
  let q := x.exponent - 2
  let grid := Nat.pow 10 k.toNat * Nat.pow 2 (-q).toNat
  let unit := Nat.pow 2 q.toNat * Nat.pow 10 (-k).toNat
  let value := 4 * x.significand * unit
  let low := x.roundingEnds.1 * unit
  let high := x.roundingEnds.2 * unit
  let fits (c : Nat) : Bool :=
    if x.significand % 2 = 0 then low ≤ c * grid && c * grid ≤ high
    else low < c * grid && c * grid < high
  let below := value / grid
  let above := below + 1
  match fits below && below != 0, fits above with
  | true, true =>
    let down := value - below * grid
    let up := above * grid - value
    some (if down < up || (down == up && below % 2 == 0) then below else above)
  | true, false => some below
  | false, true => some above
  | false, false => none

/-- The power of ten of the first digit of `n / d`. -/
def firstPower (n d : Nat) : Int :=
  if d ≤ n then (Nat.toDigits 10 (n / d)).length - 1
  else -(Nat.toDigits 10 ((d - 1) / n)).length

/-- Drops zeros at the end. -/
def trimZeros (cs : List Char) : List Char := (cs.reverse.dropWhile (· == '0')).reverse

/-- Tries the grids from `10 ^ k` downwards; seventeen digits always suffice. -/
def searchGrid (x : Finite) : (tries : Nat) → Int → Digits
  | 0, _ => ⟨['0'], 0⟩
  | tries + 1, k =>
    match x.onGrid? k with
    | some c =>
      let digits := Nat.toDigits 10 c
      ⟨trimZeros digits, k + digits.length - 1⟩
    | none => searchGrid x tries (k - 1)

/-- The shortest digits of the magnitude of `x`. -/
def shortest (x : Finite) : Digits :=
  if x.isZero then ⟨['0'], 0⟩ else searchGrid x 18 (firstPower x.ratio.1 x.ratio.2)

end Finite

end StartOnReady.Decimal
