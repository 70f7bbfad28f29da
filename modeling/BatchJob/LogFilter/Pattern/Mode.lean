import BatchJob.Text.Words

set_option autoImplicit false

/-!
How a pattern is to be read: the flags that are in force at some place of it.
-/

namespace BatchJob.LogFilter.Pattern

/-- The flags that bear on whether a text is a pattern. -/
structure Mode where
  /-- Blanks and comments do not count. -/
  spaced : Bool := false
  /-- A character is one of Unicode, and not a byte. -/
  unicode : Bool := true

/-- Drops blanks and comments; a comment goes from a number sign to the end of the line. -/
def skipBlanks (inComment : Bool) : List Char → List Char
  | [] => []
  | c :: rest =>
    if inComment then skipBlanks (c != '\n') rest
    else if Text.isBlank c then skipBlanks false rest
    else if c = '#' then skipBlanks true rest
    else c :: rest

namespace Mode

def skip (m : Mode) (s : List Char) : List Char :=
  if m.spaced then skipBlanks false s else s

/-- The character that tells what a hyphen before it means: of a comment, the first one in it. -/
def ahead? (m : Mode) (s : List Char) : Option Char :=
  if m.spaced then
    match s.dropWhile Text.isBlank with
    | '#' :: rest => (rest.dropWhile Text.isBlank).head?
    | rest => rest.head?
  else s.head?

def letters : List Char := ['i', 'm', 's', 'U', 'u', 'R', 'x']

/-- Whether a text lists flags: each at most once, and after one hyphen those that are cleared. -/
def isFlags (flags : List Char) : Bool :=
  flags.all (fun c => c = '-' || letters.contains c) && flags.eraseDups.length = flags.length &&
    flags.getLast? != some '-'

/-- The state of a flag after a list of flags. -/
def state (before : Bool) (letter : Char) (flags : List Char) : Bool :=
  if (flags.takeWhile (· != '-')).contains letter then true
  else if flags.contains letter then false
  else before

def update (m : Mode) (flags : List Char) : Mode :=
  ⟨state m.spaced 'x' flags, state m.unicode 'u' flags⟩

end Mode

end BatchJob.LogFilter.Pattern
