import BatchJob.LogFilter.Pattern.Escape

set_option autoImplicit false

/-!
Sets of characters in brackets: single characters, ranges, classes and further sets, and what two
such lists have in common or not.
-/

namespace BatchJob.LogFilter.Pattern

/-- How deep a list of parts is nested; a single part needs no level for the list. -/
def joint : List Nat → Nat
  | [] => 0
  | [height] => height
  | heights => heights.foldl max 0 + 1

def asciiClasses : List String :=
  ["alnum", "alpha", "ascii", "blank", "cntrl", "digit", "graph", "lower", "print", "punct",
    "space", "upper", "word", "xdigit"]

/-- Reads a named class after its opening bracket, and whether it is turned around. -/
def readNamed? : List Char → Option (Bool × List Char)
  | ':' :: s =>
    let negated := s.head? = some '^'
    let s := if negated then s.tail else s
    match s.dropWhile (· != ':') with
    | ':' :: ']' :: rest =>
      if asciiClasses.contains (String.ofList (s.takeWhile (· != ':'))) then some (negated, rest)
      else none
    | _ => none
  | _ => none

/-- Reads one element of a set. Among bytes, a character has to be one of ASCII. -/
def readElement? (m : Mode) (s : List Char) : Option (Atom × List Char) := do
  let (atom, rest) ← match s with
    | [] => none
    | '\\' :: rest => readEscape? m rest
    | c :: rest => some (.literal c, rest)
  match atom with
  | .literal c => if m.unicode || c.toNat < 0x80 then some (.literal c, rest) else none
  | .shorthand => some (.shorthand, rest)
  | .edge => none

/-- Reads an element or a range, which goes up from a character to a character. -/
def readRange? (m : Mode) (s : List Char) : Option (List Char) := do
  let (first, rest) ← readElement? m s
  match m.skip rest with
  | '-' :: after =>
    if m.ahead? after = some ']' || m.ahead? after = some '-' then some ('-' :: after)
    else
      let (last, rest) ← readElement? m (m.skip after)
      match first, last with
      | .literal a, .literal b => if a ≤ b then some rest else none
      | _, _ => none
  | rest => some rest

/-- Reads the opening of a set after its bracket. Among bytes, no set can be turned around. -/
def readOpening? (m : Mode) (s : List Char) : Option (List Char) :=
  match m.skip s with
  | '^' :: rest => if m.unicode then some rest else none
  | rest => some rest

/-- Whether a doubled character stands between two lists of a set. -/
def isOperator (c : Char) (rest : List Char) : Bool :=
  (c = '&' || c = '-' || c = '~') && rest.head? = some c

/-- The height of what has been read of a set, with the lists before the last sign. -/
def withLeft (left : Option Nat) (items : List Nat) : Nat :=
  match left with
  | none => joint items
  | some height => max height (joint items) + 1

/--
Reads a set after its opening and gives its height. At the start, hyphens stand for themselves, and
so does a bracket in the first place.
-/
def readItems? (m : Mode) :
    Nat → Bool → Option Nat → List Nat → List Char → Option (Nat × List Char)
  | 0, _, _, _, _ => none
  | fuel + 1, atStart, left, items, s =>
    match m.skip s with
    | [] => none
    | c :: rest =>
      if atStart && (c = '-' || (c = ']' && items.isEmpty)) then
        readItems? m fuel (c = '-') left (0 :: items) rest
      else if c = ']' then some (withLeft left items + 1, rest)
      else if isOperator c rest then
        readItems? m fuel false (some (withLeft left items)) [] rest.tail
      else if c = '[' then
        match readNamed? rest with
        | some (negated, rest) =>
          if negated && !m.unicode then none else readItems? m fuel false left (0 :: items) rest
        | none =>
          match readOpening? m rest with
          | none => none
          | some rest =>
            match readItems? m fuel true none [] rest with
            | none => none
            | some (height, rest) => readItems? m fuel false left (height :: items) rest
      else
        match readRange? m (c :: rest) with
        | none => none
        | some rest => readItems? m fuel false left (0 :: items) rest

def readSet? (m : Mode) (s : List Char) : Option (Nat × List Char) := do
  let rest ← readOpening? m s
  readItems? m (rest.length + 1) true none [] rest

end BatchJob.LogFilter.Pattern
