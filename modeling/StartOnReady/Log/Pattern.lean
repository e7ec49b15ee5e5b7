import StartOnReady.Decimal.Literal
import StartOnReady.Text.Blank
import StartOnReady.Text.Hex
import StartOnReady.Text.Letter

/-!
# Patterns

The value that a directive asks of a field is a number or a pattern, which is a regular expression.
`isPattern` tells whether a text is one; nothing is matched here.

Patterns know no tables of characters.  So words, blanks and digits have no classes, and letters do
not match in either case, unless a pattern counts bytes; but then each of its classes has to stay
within ASCII.  A pattern stands before a closing brace and has none itself, so that nothing in it is
counted or named in braces.  Its parts nest within a bounded number of levels.
-/

namespace StartOnReady.Log

namespace Pattern

/-! ### Modes -/

/-- How the parts of a pattern are meant. -/
structure Mode where
  /-- Letters match in either case. -/
  caseless : Bool := false
  /-- Characters are matched, and not bytes. -/
  unicode : Bool := true
  /-- Blanks and comments are passed over. -/
  spaced : Bool := false
  deriving DecidableEq, Repr

mutual

/-- The text behind blanks and comments. -/
def skipNotes : List Char → List Char
  | [] => []
  | c :: cs =>
    if Text.isBlank c then skipNotes cs else if c == '#' then skipComment cs else c :: cs

/-- The text behind the rest of a comment, which ends with its line. -/
def skipComment : List Char → List Char
  | [] => []
  | c :: cs => if c == '\n' then skipNotes cs else skipComment cs

end

/-- The text from its next character that counts. -/
def Mode.skip (m : Mode) (cs : List Char) : List Char := if m.spaced then skipNotes cs else cs

/-! ### Atoms -/

/-- The smallest parts of a pattern. -/
inductive Atom where
  /-- A character, which can be written as a byte. -/
  | char (c : Char) (isByte : Bool)
  /-- A place between characters, which can be an end of a word. -/
  | place (atWord : Bool)
  /-- One of the classes of digits, blanks and words. -/
  | shorthand (negated : Bool)
  deriving DecidableEq, Repr

/-- Whether an atom can stand in a pattern. -/
def Mode.takes (m : Mode) : Atom → Bool
  | .char c isByte => if m.unicode then !m.caseless else !isByte || c.toNat < 0x80
  | .place atWord => !atWord || !m.unicode
  | .shorthand negated => !m.unicode && !negated

/-- The number that `count` digits write.  Notes may stand between them. -/
def readHex? (m : Mode) : (count : Nat) → (value : Nat) → List Char → Option (Nat × List Char)
  | 0, value, cs => some (value, cs)
  | count + 1, value, cs =>
    match m.skip cs with
    | [] => none
    | c :: cs => do
      let digit ← Text.hexValue? c
      readHex? m count (value * 16 + digit) cs

/-- A character by its number. -/
def readCode? (m : Mode) (count : Nat) (isByte : Bool) (cs : List Char) :
    Option (Atom × List Char) := do
  let (n, cs) ← readHex? m count 0 cs
  let c ← Text.charOf? n
  some (.char c isByte, cs)

/-- The control character that a letter stands for. -/
def control? : Char → Option Char
  | 'a' => some '\x07'
  | 'f' => some '\x0c'
  | 'n' => some '\n'
  | 'r' => some '\r'
  | 't' => some '\t'
  | 'v' => some '\x0b'
  | _ => none

/-- Whether a backslash in front leaves a character as it is. -/
def isEscapable (c : Char) : Bool :=
  c.toNat < 0x80 && !c.isAlphanum && c != '<' && c != '>'

/-- The atom that a character behind a backslash stands for. -/
def escape? (c : Char) : Option Atom :=
  if "dsw".toList.contains c then some (.shorthand false)
  else if "DSW".toList.contains c then some (.shorthand true)
  else if "bB<>".toList.contains c then some (.place true)
  else if "Az".toList.contains c then some (.place false)
  else if isEscapable c then some (.char c false)
  else (control? c).map (.char · false)

/-- The atom behind a backslash. -/
def readEscape? (m : Mode) : List Char → Option (Atom × List Char)
  | 'x' :: cs => readCode? m 2 true cs
  | 'u' :: cs => readCode? m 4 false cs
  | 'U' :: cs => readCode? m 8 false cs
  | c :: cs => (escape? c).map (·, cs)
  | [] => none

/-! ### Levels -/

/-- The most levels of parts in one another. -/
def maxLevels : Nat := 250

/-- The levels of parts that stand together: several parts are one level above the deepest. -/
def levelsOf : List Nat → Nat
  | [] => 0
  | [levels] => levels
  | parts => parts.foldr max 0 + 1

/-! ### Sets -/

/-- Whether an atom can be a member of a set. -/
def Mode.takesMember (m : Mode) : Atom → Bool
  | .char c _ => if m.unicode then !m.caseless else c.toNat < 0x80
  | .place _ => false
  | .shorthand negated => !m.unicode && !negated

/-- The names of the classes of ASCII. -/
def classNames : List String :=
  ["alnum", "alpha", "ascii", "blank", "cntrl", "digit", "graph", "lower", "print", "punct",
    "space", "upper", "word", "xdigit"]

/-- A class of ASCII behind its opening bracket: whether it is negated, and the text behind it. -/
def readClass? : List Char → Option (Bool × List Char)
  | ':' :: cs =>
    let (negated, cs) :=
      match cs with
      | '^' :: cs => (true, cs)
      | cs => (false, cs)
    match cs.dropWhile (· != ':') with
    | ':' :: ']' :: rest =>
      if classNames.contains (String.ofList (cs.takeWhile (· != ':'))) then some (negated, rest)
      else none
    | _ => none
  | _ => none

/-- Whether a class of ASCII can stand in a set. -/
def Mode.takesClass (m : Mode) (negated : Bool) : Bool :=
  if m.unicode then !m.caseless else !negated

/-- The text behind the opening bracket of a set and its sign of negation. -/
def openSet? (m : Mode) (cs : List Char) : Option (List Char) :=
  match m.skip cs with
  | '^' :: cs => if m.unicode then some cs else none
  | cs => some cs

/-- An atom of a set. -/
def readAtom? (m : Mode) : List Char → Option (Atom × List Char)
  | '\\' :: cs => readEscape? m cs
  | c :: cs => some (.char c false, cs)
  | [] => none

/-- The text behind the second end of a range. -/
def readRange? (m : Mode) (first : Atom) (cs : List Char) : Option (List Char) := do
  let (last, cs) ← readAtom? m cs
  match first, last with
  | .char a _, .char b _ =>
    if a ≤ b && m.takesMember first && m.takesMember last then some cs else none
  | _, _ => none

/-- The text behind a member of a set, which is an atom or a range. -/
def readMember? (m : Mode) (cs : List Char) : Option (List Char) := do
  let (atom, cs) ← readAtom? m cs
  let single := if m.takesMember atom then some cs else none
  match m.skip cs with
  | '-' :: behind =>
    match m.skip behind with
    | ']' :: _ | '-' :: _ => single
    | behind => readRange? m atom behind
  | _ => single

/-- Where in a set the next member stands. -/
inductive SetPlace where
  /-- First of all. -/
  | opened
  /-- Behind hyphens that come first. -/
  | dashed
  | inside
  deriving DecidableEq, Repr

/-- The levels of what was read of a set. -/
structure SetDraft where
  /-- What stands in front of the last sign between two sets, if there is one. -/
  left : Option Nat := none
  /-- The members behind it. -/
  members : List Nat := []
  deriving DecidableEq, Repr

namespace SetDraft

/-- The levels of everything so far. -/
def levels (d : SetDraft) : Nat :=
  match d.left with
  | none => levelsOf d.members
  | some left => max left (levelsOf d.members) + 1

/-- One more member. -/
def add (d : SetDraft) (levels : Nat) : SetDraft := { d with members := levels :: d.members }

/-- Goes on behind a sign between two sets. -/
def divide (d : SetDraft) : SetDraft := { left := some d.levels }

end SetDraft

/-- The levels of a set and the text behind it.  `outer` are the sets that it stands in, the
innermost first. -/
def readSet? : (steps : Nat) → Mode → (outer : List SetDraft) → SetDraft → SetPlace → List Char →
    Option (Nat × List Char)
  | 0, _, _, _, _, _ => none
  | steps + 1, m, outer, d, place, cs =>
    match place, m.skip cs with
    | _, [] => none
    | .opened, ']' :: cs =>
      if m.takesMember (.char ']' false) then readSet? steps m outer (d.add 0) .inside cs else none
    | .opened, '-' :: cs | .dashed, '-' :: cs =>
      if m.takesMember (.char '-' false) then readSet? steps m outer (d.add 0) .dashed cs else none
    | _, ']' :: cs =>
      match outer with
      | [] => some (d.levels + 1, cs)
      | above :: outer => readSet? steps m outer (above.add (d.levels + 1)) .inside cs
    | _, '[' :: cs =>
      match readClass? cs with
      | some (negated, cs) =>
        if m.takesClass negated then readSet? steps m outer (d.add 0) .inside cs else none
      | none => (openSet? m cs).bind (readSet? steps m (d :: outer) {} .opened)
    | _, '&' :: '&' :: cs | _, '-' :: '-' :: cs | _, '~' :: '~' :: cs =>
      readSet? steps m outer d.divide .inside cs
    | _, cs => (readMember? m cs).bind (readSet? steps m outer (d.add 0) .inside)

/-! ### Groups -/

/-- What was read of a group, or of the whole pattern. -/
structure Draft where
  mode : Mode := {}
  /-- The levels of the choices in front. -/
  choices : List Nat := []
  /-- The levels of the parts of the last choice, the last part first. -/
  parts : List Nat := []
  deriving DecidableEq, Repr

namespace Draft

/-- The levels of everything so far. -/
def levels (d : Draft) : Nat := levelsOf (levelsOf d.parts :: d.choices)

/-- One more part. -/
def add (d : Draft) (levels : Nat) : Draft := { d with parts := levels :: d.parts }

/-- Goes on with the next choice. -/
def divide (d : Draft) : Draft :=
  { d with choices := levelsOf d.parts :: d.choices, parts := [] }

/-- Puts the last part one level deeper. -/
def deepen (d : Draft) : Draft :=
  match d.parts with
  | [] => d
  | levels :: parts => { d with parts := (levels + 1) :: parts }

end Draft

/-- What is known at some place of a pattern. -/
structure State where
  /-- The group that is open. -/
  draft : Draft := {}
  /-- The groups that it stands in, the innermost first. -/
  outer : List Draft := []
  /-- The names of the groups so far. -/
  names : List (List Char) := []
  /-- Whether something stands in front that can be repeated. -/
  repeatable : Bool := false
  deriving DecidableEq, Repr

namespace State

/-- The mode of the open group. -/
def mode (s : State) : Mode := s.draft.mode

/-- Opens a group with a mode of its own. -/
def opened (s : State) (mode : Mode) : State :=
  { s with draft := { mode := mode }, outer := s.draft :: s.outer, repeatable := false }

/-- Closes the open group. -/
def closed? (s : State) : Option State :=
  match s.outer with
  | [] => none
  | above :: outer =>
    some { s with draft := above.add (s.draft.levels + 1), outer := outer, repeatable := true }

/-- Goes on in another mode. -/
def switched (s : State) (mode : Mode) : State :=
  { s with draft := { s.draft.add 0 with mode := mode }, repeatable := false }

/-- One more part that can be repeated. -/
def add (s : State) (levels : Nat) : State :=
  { s with draft := s.draft.add levels, repeatable := true }

/-- Goes on with the next choice. -/
def divide (s : State) : State := { s with draft := s.draft.divide, repeatable := false }

/-- Repeats the last part. -/
def repeated? (s : State) : Option State :=
  if s.repeatable then some { s with draft := s.draft.deepen } else none

/-- Whether the pattern can end here. -/
def isFinal (s : State) : Bool := s.outer.isEmpty && s.draft.levels ≤ maxLevels

end State

/-- Whether the characters name a group. -/
def isGroupName : List Char → Bool
  | [] => false
  | c :: cs =>
    (c == '_' || Text.isAlphabetic c) &&
      cs.all fun c => "_.[]".toList.contains c || Text.isAlphanumeric c

/-- Opens a group whose name stands before an angle bracket. -/
def openNamed? (s : State) (cs : List Char) : Option (State × List Char) :=
  let name := cs.takeWhile (· != '>')
  match cs.dropWhile (· != '>') with
  | [] => none
  | _ :: rest =>
    if isGroupName name && !s.names.contains name then
      some ({ s.opened s.mode with names := name :: s.names }, rest)
    else none

/-- Whether each of the letters switches something, none twice. -/
def areFlags (letters : List Char) : Bool :=
  letters.all ("imsUuRx-".toList.contains ·) && letters.eraseDups.length == letters.length &&
    letters.getLast? != some '-'

/-- What the letters say of one: those behind the minus switch off. -/
def flag (letters : List Char) (letter : Char) (old : Bool) : Bool :=
  if (letters.takeWhile (· != '-')).contains letter then true
  else if letters.contains letter then false
  else old

/-- A mode with switches. -/
def Mode.switched (m : Mode) (letters : List Char) : Mode :=
  ⟨flag letters 'i' m.caseless, flag letters 'u' m.unicode, flag letters 'x' m.spaced⟩

/-- Switches the mode, of the rest of a group or of one that is opened. -/
def openSwitched? (s : State) (cs : List Char) : Option (State × List Char) :=
  let isEnd (c : Char) : Bool := c == ':' || c == ')'
  let letters := cs.takeWhile (!isEnd ·)
  if areFlags letters then
    match cs.dropWhile (!isEnd ·) with
    | ':' :: rest => some (s.opened (s.mode.switched letters), rest)
    | ')' :: rest =>
      if letters.isEmpty then none
      else some (s.switched (s.mode.switched letters), rest)
    | _ => none
  else none

/-- Reads on behind an opening parenthesis.  Nothing can be asked of what stands around. -/
def openGroup? (s : State) (cs : List Char) : Option (State × List Char) :=
  match s.mode.skip cs with
  | '?' :: '=' :: _ | '?' :: '!' :: _ | '?' :: '<' :: '=' :: _ | '?' :: '<' :: '!' :: _ => none
  | '?' :: 'P' :: '<' :: cs | '?' :: '<' :: cs => openNamed? s cs
  | '?' :: cs => openSwitched? s cs
  | cs => some (s.opened s.mode, cs)

/-! ### Whole patterns -/

/-- The text behind the mark of the shortest repetition. -/
def dropLazy : List Char → List Char
  | '?' :: cs => cs
  | cs => cs

/-- Whether a text goes on to the end of a pattern. -/
def endsPattern : (steps : Nat) → State → List Char → Bool
  | 0, _, _ => false
  | steps + 1, s, cs =>
    let goOn (next : Option (State × List Char)) : Bool :=
      match next with
      | some (s, cs) => endsPattern steps s cs
      | none => false
    match s.mode.skip cs with
    | [] => s.isFinal
    | '(' :: cs => goOn (openGroup? s cs)
    | ')' :: cs => goOn (s.closed?.map (·, cs))
    | '|' :: cs => goOn (some (s.divide, cs))
    | '[' :: cs =>
      goOn (((openSet? s.mode cs).bind (readSet? steps s.mode [] {} .opened)).map
        fun (levels, cs) => (s.add levels, cs))
    | '?' :: cs | '*' :: cs | '+' :: cs => goOn (s.repeated?.map (·, dropLazy cs))
    | '\x7b' :: _ => false
    | '\\' :: cs =>
      match readEscape? s.mode cs with
      | some (atom, cs) => s.mode.takes atom && goOn (some (s.add 0, cs))
      | none => false
    | '.' :: cs => s.mode.unicode && goOn (some (s.add 0, cs))
    | '^' :: cs | '$' :: cs => goOn (some (s.add 0, cs))
    | c :: cs => s.mode.takes (.char c false) && goOn (some (s.add 0, cs))

end Pattern

/-- Whether a text is a pattern. -/
def isPattern (text : List Char) : Bool := Pattern.endsPattern (text.length + 1) {} text

/-- Whether a text is a number; infinities and what is no number have words. -/
def isNumeral (text : List Char) : Bool :=
  (Decimal.Literal.ofChars? text).isSome ||
    ["inf", "infinity", "nan"].contains
      (String.ofList ((Decimal.Literal.cutSign text).2.map Char.toLower))

/-- Whether a text is a value that a directive can ask for. -/
def isValue (text : List Char) : Bool := isNumeral text || isPattern text

end StartOnReady.Log
