import BatchJob.LogFilter.Pattern.Mode
import BatchJob.Text.Digits

set_option autoImplicit false

/-!
What follows a backslash in a pattern: a character, a class of characters or an edge in the text.
-/

namespace BatchJob.LogFilter.Pattern

/-- What one element of a pattern stands for. -/
inductive Atom where
  | literal (c : Char)
  | shorthand
  | edge
  deriving DecidableEq

def readHex? (m : Mode) : Nat → Nat → List Char → Option (Nat × List Char)
  | 0, value, s => some (value, s)
  | count + 1, value, s =>
    match m.skip s with
    | [] => none
    | c :: rest =>
      match Text.hexDigit? c with
      | none => none
      | some digit => readHex? m count (value * 16 + digit) rest

/-- Reads the number of a character in so many digits; a number in two may stand for a byte. -/
def readNumbered? (m : Mode) (count : Nat) (s : List Char) : Option (Atom × List Char) := do
  let (n, rest) ← readHex? m count 0 s
  if 0xd800 ≤ n && n < 0xe000 || 0x110000 ≤ n then none
  else if count = 2 && !m.unicode && 0x80 ≤ n then none
  else some (.literal (Char.ofNat n), rest)

/-- The letters of the general categories, of which each is a class. -/
def categoryLetters : List Char := ['c', 'l', 'm', 'n', 'p', 's', 'z']

/-- Reads a category. Bytes have none. -/
def readCategory? (m : Mode) (s : List Char) : Option (Atom × List Char) :=
  match m.skip s with
  | [] => none
  | c :: rest =>
    if m.unicode && categoryLetters.contains c.toLower then some (.shorthand, rest) else none

def control? (c : Char) : Option Char :=
  if c = 'a' then some '\x07'
  else if c = 'f' then some '\x0c'
  else if c = 'n' then some '\n'
  else if c = 'r' then some '\r'
  else if c = 't' then some '\t'
  else if c = 'v' then some '\x0b'
  else none

/--
Reads what follows a backslash. Classes that reach beyond ASCII need Unicode, and edges of words are
known among bytes alone.
-/
def readEscape? (m : Mode) : List Char → Option (Atom × List Char)
  | [] => none
  | c :: rest =>
    if c = 'x' then readNumbered? m 2 rest
    else if c = 'u' then readNumbered? m 4 rest
    else if c = 'U' then readNumbered? m 8 rest
    else if c = 'p' || c = 'P' then readCategory? m rest
    else if ['d', 's', 'w'].contains c then some (.shorthand, rest)
    else if ['D', 'S', 'W'].contains c then if m.unicode then some (.shorthand, rest) else none
    else if c = 'A' || c = 'z' then some (.edge, rest)
    else if ['b', 'B', '<', '>'].contains c then if m.unicode then none else some (.edge, rest)
    else if c.isAlphanum || 0x80 ≤ c.toNat then (control? c).map fun c => (.literal c, rest)
    else some (.literal c, rest)

end BatchJob.LogFilter.Pattern
