import BatchJob.Json.Basic

set_option autoImplicit false

/-!
The text of a JSON tree: on one line without blanks, or with every item on a line of its own,
indented by two spaces for each level.
-/

namespace BatchJob.Json

/-- Where a printer puts blanks. -/
structure Layout where
  /-- What stands before an item, or before the closing bracket, at a given level. -/
  lineBreak : Nat → List Char
  /-- What stands after the colon of a member. -/
  afterColon : List Char

def Layout.compact : Layout := ⟨fun _ => [], []⟩

/-- A line for every item, and two spaces for every level. -/
def Layout.indented : Layout := ⟨fun level => '\n' :: List.replicate (2 * level) ' ', [' ']⟩

def fourDigits (n : Nat) : List Char :=
  [n / 4096 % 16, n / 256 % 16, n / 16 % 16, n % 16].map Nat.digitChar

def printChar (c : Char) : List Char :=
  if c = '"' then ['\\', '"']
  else if c = '\\' then ['\\', '\\']
  else if c = '\x08' then ['\\', 'b']
  else if c = '\x0c' then ['\\', 'f']
  else if c = '\n' then ['\\', 'n']
  else if c = '\r' then ['\\', 'r']
  else if c = '\t' then ['\\', 't']
  else if c.toNat < 0x20 then '\\' :: 'u' :: fourDigits c.toNat
  else [c]

/-- A string; one that names no text is written as half of a surrogate pair. -/
def printText : Option String → List Char
  | some s => '"' :: s.toList.flatMap printChar ++ ['"']
  | none => ['"', '\\', 'u', 'd', '8', '0', '0', '"']

def printNumeral (n : Numeral) : List Char :=
  (if n.negative then ['-'] else []) ++ Nat.toDigits 10 n.whole ++
    (match n.fraction with | some digits => '.' :: digits | none => []) ++
    (match n.exponent with
      | some e => 'e' :: (if e < 0 then ['-'] else []) ++ Nat.toDigits 10 e.natAbs
      | none => [])

mutual

/-- A value, whose first line stands at the given level. -/
def print (layout : Layout) (level : Nat) : Json → List Char
  | .null => ['n', 'u', 'l', 'l']
  | .bool true => ['t', 'r', 'u', 'e']
  | .bool false => ['f', 'a', 'l', 's', 'e']
  | .number n => printNumeral n
  | .string s => printText s
  | .array [] => ['[', ']']
  | .array (j :: rest) =>
    '[' :: layout.lineBreak (level + 1) ++ print layout (level + 1) j ++
      printItems layout level rest
  | .object [] => ['\x7b', '\x7d']
  | .object ((name, j) :: rest) =>
    '\x7b' :: layout.lineBreak (level + 1) ++ printText name ++ ':' :: layout.afterColon ++
      print layout (level + 1) j ++ printMembers layout level rest

/-- The items after the first, and the end of the array. -/
def printItems (layout : Layout) (level : Nat) : List Json → List Char
  | [] => layout.lineBreak level ++ [']']
  | j :: rest =>
    ',' :: layout.lineBreak (level + 1) ++ print layout (level + 1) j ++
      printItems layout level rest

/-- The members after the first, and the end of the object. -/
def printMembers (layout : Layout) (level : Nat) : List (Option String × Json) → List Char
  | [] => layout.lineBreak level ++ ['\x7d']
  | (name, j) :: rest =>
    ',' :: layout.lineBreak (level + 1) ++ printText name ++ ':' :: layout.afterColon ++
      print layout (level + 1) j ++ printMembers layout level rest

end

def compact (j : Json) : String :=
  String.ofList (print .compact 0 j)

def pretty (j : Json) : String :=
  String.ofList (print .indented 0 j)

end BatchJob.Json
