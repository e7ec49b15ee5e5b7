/-!
# Binary floating-point numbers of 64 bits

A finite number is `± significand · 2 ^ exponent` with a significand below `2 ^ 53` and an exponent
from `-1074` to `971`.  `Finite.ofRatio?` rounds a fraction to the nearest such number, a tie to the
even significand, and says `none` where the magnitude is too large.  Products and quotients are
exact fractions rounded once.
-/

namespace StartOnReady.Decimal

/-- A finite number. -/
structure Finite where
  negative : Bool
  significand : Nat
  exponent : Int
  deriving DecidableEq, Repr

/-- Any number of the format. -/
inductive Binary64 where
  | finite (x : Finite)
  | infinite (negative : Bool)
  | undefined
  deriving DecidableEq, Repr

def Binary64.isFinite : Binary64 → Bool
  | finite _ => true
  | _ => false

/-- The whole number nearest to `n / d`, a tie going to the even one. -/
def nearestQuotient (n d : Nat) : Nat :=
  let whole := n / d
  let rest := 2 * (n % d)
  if rest < d then whole
  else if d < rest then whole + 1
  else whole + whole % 2

/-- The fraction `n / (d · 2 ^ q)` as a pair of numerator and denominator. -/
def shifted (n d : Nat) (q : Int) : Nat × Nat :=
  (n * Nat.pow 2 (-q).toNat, d * Nat.pow 2 q.toNat)

/-- The least significand above the least exponent, `2 ^ 52`. -/
def leastNormal : Nat := 0x10000000000000

namespace Finite

/-- Zero of either sign. -/
def zero (negative : Bool) : Finite := ⟨negative, 0, -1074⟩

def isZero (x : Finite) : Bool := x.significand == 0

/-- The least exponent whose grid holds `n / d` with at most 53 bits. -/
def gridExponent (n d : Nat) : Int :=
  let guess := (Nat.log2 n : Int) - Nat.log2 d - 52
  let scaled := shifted n d guess
  max (if scaled.1 / scaled.2 < leastNormal then guess - 1 else guess) (-1074)

/-- The number nearest to `± n / d`, for `0 < d`; `none` if that would be infinite. -/
def ofRatio? (negative : Bool) (n d : Nat) : Option Finite :=
  if n = 0 then some (zero negative)
  else
    let q := gridExponent n d
    let scaled := shifted n d q
    let m := nearestQuotient scaled.1 scaled.2
    let x : Finite :=
      if m = 2 * leastNormal then ⟨negative, leastNormal, q + 1⟩ else ⟨negative, m, q⟩
    if 971 < x.exponent then none else some x

/-- The magnitude as a fraction. -/
def ratio (x : Finite) : Nat × Nat := shifted x.significand 1 (-x.exponent)

/-- The product, rounded once. -/
def mul? (x y : Finite) : Option Finite :=
  ofRatio? (x.negative != y.negative) (x.ratio.1 * y.ratio.1) (x.ratio.2 * y.ratio.2)

/-- The quotient by a number other than zero, rounded once. -/
def div? (x y : Finite) : Option Finite :=
  ofRatio? (x.negative != y.negative) (x.ratio.1 * y.ratio.2) (x.ratio.2 * y.ratio.1)

/-- The number nearest to `10 ^ k`. -/
def powerOfTen? (k : Nat) : Option Finite := ofRatio? false (Nat.pow 10 k) 1

/-- The whole number that `x` is, if it is one. -/
def toInt? (x : Finite) : Option Int :=
  if x.ratio.1 % x.ratio.2 = 0 then
    let n : Int := (x.ratio.1 / x.ratio.2 : Nat)
    some (if x.negative then -n else n)
  else none

end Finite

end StartOnReady.Decimal
