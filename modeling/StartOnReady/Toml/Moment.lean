/-!
# TOML dates and times

A moment is a date, a time of day, or a date with a time and perhaps the offset of its zone.
-/

namespace StartOnReady.Toml

/-- A numeral of `count` digits, and the text behind it. -/
def readNumeral? : (count : Nat) → (value : Nat) → List Char → Option (Nat × List Char)
  | 0, value, cs => some (value, cs)
  | count + 1, value, c :: cs =>
    if c.isDigit then readNumeral? count (value * 10 + (c.toNat - '0'.toNat)) cs else none
  | _ + 1, _, [] => none

/-- A numeral within bounds. -/
def readWithin? (count low high : Nat) (cs : List Char) : Option (Nat × List Char) := do
  let (n, cs) ← readNumeral? count 0 cs
  if low ≤ n && n ≤ high then some (n, cs) else none

/-- The text behind a character that has to stand here. -/
def readMark? (mark : Char) : List Char → Option (List Char)
  | c :: cs => if c = mark then some cs else none
  | [] => none

/-- The number of days in a month. -/
def daysIn (year month : Nat) : Nat :=
  if month = 2 then
    if year % 4 = 0 && (year % 100 != 0 || year % 400 = 0) then 29 else 28
  else if month ∈ [4, 6, 9, 11] then 30
  else 31

/-- The text behind a date. -/
def readDate? (cs : List Char) : Option (List Char) := do
  let (year, cs) ← readNumeral? 4 0 cs
  let cs ← readMark? '-' cs
  let (month, cs) ← readWithin? 2 1 12 cs
  let cs ← readMark? '-' cs
  let (_, cs) ← readWithin? 2 1 (daysIn year month) cs
  some cs

/-- The text behind a fraction of a second, which may be left out. -/
def readSubsecond? : List Char → Option (List Char)
  | '.' :: cs =>
    match cs.takeWhile Char.isDigit with
    | [] => none
    | _ => some (cs.dropWhile Char.isDigit)
  | cs => some cs

/-- The text behind a time of day. -/
def readTime? (cs : List Char) : Option (List Char) := do
  let (_, cs) ← readWithin? 2 0 23 cs
  let cs ← readMark? ':' cs
  let (_, cs) ← readWithin? 2 0 59 cs
  let cs ← readMark? ':' cs
  let (_, cs) ← readWithin? 2 0 60 cs
  readSubsecond? cs

/-- The text behind an offset, which may be left out. -/
def readOffset? : List Char → Option (List Char)
  | 'Z' :: cs | 'z' :: cs => some cs
  | c :: cs =>
    if c == '+' || c == '-' then do
      let (_, cs) ← readWithin? 2 0 23 cs
      let cs ← readMark? ':' cs
      let (_, cs) ← readWithin? 2 0 59 cs
      some cs
    else some (c :: cs)
  | [] => some []

/-- The text behind the time that may follow a date. -/
def readTimeOfDate? : List Char → Option (List Char)
  | c :: cs =>
    if c == 'T' || c == 't' || c == ' ' then
      match readTime? cs with
      | some cs => readOffset? cs
      | none => some (c :: cs)
    else some (c :: cs)
  | [] => some []

/-- The text behind a moment. -/
def readMoment? (cs : List Char) : Option (List Char) :=
  match readDate? cs with
  | some cs => readTimeOfDate? cs
  | none => readTime? cs

end StartOnReady.Toml
