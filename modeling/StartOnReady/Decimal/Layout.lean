import StartOnReady.Decimal.Shortest

/-!
# Numbers as text

A layout fixes which powers of ten are written in place and whether whole numbers carry a mark.
Every layout writes the shortest digits.
-/

namespace StartOnReady.Decimal

/-- How a number is written. -/
structure Layout where
  /-- The powers of the first digit that are written in place; `none` for all. -/
  inPlace : Option (Int × Int)
  /-- Whether `.0` follows a whole number written in place. -/
  wholeMark : Bool

namespace Layout

/-- Whether a number with this power of the first digit is written in place. -/
def isInPlace (l : Layout) (power : Int) : Bool :=
  match l.inPlace with
  | none => true
  | some (low, high) => low ≤ power && power ≤ high

/-- The digits with a point at its place. -/
def placed (l : Layout) (d : Digits) : List Char :=
  if d.power < 0 then
    ['0', '.'] ++ List.replicate ((-d.power).toNat - 1) '0' ++ d.digits
  else
    let whole := d.power.toNat + 1
    if d.digits.length ≤ whole then
      d.digits ++ List.replicate (whole - d.digits.length) '0' ++
        (if l.wholeMark then ['.', '0'] else [])
    else d.digits.take whole ++ '.' :: d.digits.drop whole

/-- The digits with a point after the first, times a power of ten. -/
def powered (d : Digits) : List Char :=
  d.digits.take 1 ++ (if 1 < d.digits.length then '.' :: d.digits.drop 1 else []) ++
    ['e', if d.power < 0 then '-' else '+'] ++ Nat.toDigits 10 d.power.natAbs

/-- The text of a finite number. -/
def writeFinite (l : Layout) (x : Finite) : List Char :=
  let d := x.shortest
  (if x.negative then ['-'] else []) ++ (if l.isInPlace d.power then l.placed d else powered d)

/-- The text of any number. -/
def write (l : Layout) : Binary64 → List Char
  | .finite x => l.writeFinite x
  | .infinite false => ['i', 'n', 'f']
  | .infinite true => ['-', 'i', 'n', 'f']
  | .undefined => ['N', 'a', 'N']

/-- All digits in place, and no mark on whole numbers. -/
def plain : Layout := ⟨none, false⟩

/-- All digits in place, and a mark on whole numbers. -/
def marked : Layout := ⟨none, true⟩

end Layout

end StartOnReady.Decimal
