import StartOnReady.Decimal.Literal
import StartOnReady.Decimal.Whole
import StartOnReady.Text.Hex
import StartOnReady.Toml.Value

/-!
# TOML numbers

Integers have 64 bits with a sign.  A number whose digits leave the range of floating point upwards
is refused; downwards it is negative infinity.
-/

namespace StartOnReady.Toml

/-! ### Digits -/

/-- Further digits, each of which may have an underscore before it, and the text behind them. -/
def readMoreDigits (isDigit : Char → Bool) : List Char → List Char × List Char
  | '_' :: c :: cs =>
    if isDigit c then
      let (digits, rest) := readMoreDigits isDigit cs
      (c :: digits, rest)
    else ([], '_' :: c :: cs)
  | c :: cs =>
    if isDigit c then
      let (digits, rest) := readMoreDigits isDigit cs
      (c :: digits, rest)
    else ([], c :: cs)
  | [] => ([], [])

/-- One or more digits. -/
def readDigits? (isDigit : Char → Bool) : List Char → Option (List Char × List Char)
  | [] => none
  | c :: cs =>
    if isDigit c then
      let (digits, rest) := readMoreDigits isDigit cs
      some (c :: digits, rest)
    else none

/-- Digits without a leading zero. -/
def readWhole? : List Char → Option (List Char × List Char)
  | '0' :: cs => some (['0'], cs)
  | cs => readDigits? Char.isDigit cs

/-! ### Numbers -/

/-- An integer of 64 bits. -/
def integer? (i : Int) : Option Value :=
  if Decimal.isSigned64 i then some (.integer i) else none

/-- The integer of digits in some base. -/
def readInBase? (base : Nat) (isDigit : Char → Bool) (cs : List Char) :
    Option (Value × List Char) := do
  let (digits, cs) ← readDigits? isDigit cs
  let n := digits.foldl (fun n c => n * base + (Text.hexValue? c).getD 0) 0
  let v ← integer? n
  some (v, cs)

/-- An optional point with digits behind it. -/
def readFraction? : List Char → Option (Option (List Char) × List Char)
  | '.' :: cs => (readDigits? Char.isDigit cs).map fun (digits, cs) => (some digits, cs)
  | cs => some (none, cs)

/-- A sign, if there is one. -/
def readSign : List Char → Option Bool × List Char
  | '-' :: cs => (some true, cs)
  | '+' :: cs => (some false, cs)
  | cs => (none, cs)

/-- An optional exponent. -/
def readExponent? : List Char → Option (Option (Bool × List Char) × List Char)
  | c :: cs =>
    if c == 'e' || c == 'E' then
      let (sign, cs) := readSign cs
      (readDigits? Char.isDigit cs).map fun (digits, cs) => (some (sign.getD false, digits), cs)
    else some (none, c :: cs)
  | [] => some (none, [])

/-- The value of a literal. -/
def ofLiteral? (l : Decimal.Literal) : Option Value :=
  if l.isIntegral then integer? (if l.negative then -l.wholeValue else l.wholeValue)
  else
    match l.nearest with
    | .infinite false => none
    | x => some (.real x)

/-- A decimal number behind its sign. -/
def readDecimal? (negative : Bool) (cs : List Char) : Option (Value × List Char) := do
  let (whole, cs) ← readWhole? cs
  let (fraction, cs) ← readFraction? cs
  let (exponent, cs) ← readExponent? cs
  let v ← ofLiteral? ⟨negative, whole, fraction, exponent⟩
  some (v, cs)

/-- A number. -/
def readNumber? (cs : List Char) : Option (Value × List Char) :=
  match readSign cs with
  | (sign, 'i' :: 'n' :: 'f' :: cs) => some (.real (.infinite (sign.getD false)), cs)
  | (_, 'n' :: 'a' :: 'n' :: cs) => some (.real .undefined, cs)
  | (none, '0' :: 'x' :: cs) => readInBase? 16 (fun c => (Text.hexValue? c).isSome) cs
  | (none, '0' :: 'o' :: cs) => readInBase? 8 (fun c => '0' ≤ c && c ≤ '7') cs
  | (none, '0' :: 'b' :: cs) => readInBase? 2 (fun c => c == '0' || c == '1') cs
  | (sign, cs) => readDecimal? (sign.getD false) cs

end StartOnReady.Toml
