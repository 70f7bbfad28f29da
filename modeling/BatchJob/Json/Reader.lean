import BatchJob.Json.Basic
import BatchJob.Text.Digits

set_option autoImplicit false

/-!
Reading the tree of a JSON text. Only the syntax is checked: a string may hold half of a surrogate
pair, a number may be of any size, and nesting has no limit.
-/

namespace BatchJob.Json

/-- The four blanks of JSON. -/
def isSpace (c : Char) : Bool :=
  c == ' ' || c == '\n' || c == '\t' || c == '\r'

def skip (s : List Char) : List Char :=
  s.dropWhile isSpace

/-- The value of four hexadecimal digits. -/
def hexUnit? (a b c d : Char) : Option Nat := do
  let a ← Text.hexDigit? a
  let b ← Text.hexDigit? b
  let c ← Text.hexDigit? c
  let d ← Text.hexDigit? d
  some (((a * 16 + b) * 16 + c) * 16 + d)

/-- The first unit of a surrogate pair. -/
def isHighSurrogate (n : Nat) : Bool := 0xd800 ≤ n && n ≤ 0xdbff

/-- The second unit of a surrogate pair. -/
def isLowSurrogate (n : Nat) : Bool := 0xdc00 ≤ n && n ≤ 0xdfff

/-- The second unit of a surrogate pair in front of a text. -/
def lowSurrogate? : List Char → Option (Nat × List Char)
  | '\\' :: 'u' :: a :: b :: c :: d :: rest =>
    match hexUnit? a b c d with
    | some n => if isLowSurrogate n then some (n, rest) else none
    | none => none
  | _ => none

/-- The character of an escape with one letter. -/
def shortEscape? (c : Char) : Option Char :=
  if c = '"' then some '"'
  else if c = '\\' then some '\\'
  else if c = '/' then some '/'
  else if c = 'b' then some '\x08'
  else if c = 'f' then some '\x0c'
  else if c = 'n' then some '\n'
  else if c = 'r' then some '\r'
  else if c = 't' then some '\t'
  else none

inductive Piece where
  | close
  | char (c : Char)
  | half

/-- Reads the next piece of a string: its end, a character, or half of a surrogate pair. -/
def readPiece? : List Char → Option (Piece × List Char)
  | [] => none
  | '"' :: rest => some (.close, rest)
  | '\\' :: 'u' :: a :: b :: c :: d :: rest =>
    match hexUnit? a b c d with
    | none => none
    | some n =>
      if isHighSurrogate n then
        match lowSurrogate? rest with
        | some (m, rest) =>
          some (.char (Char.ofNat (0x10000 + (n - 0xd800) * 0x400 + (m - 0xdc00))), rest)
        | none => some (.half, rest)
      else if isLowSurrogate n then some (.half, rest)
      else some (.char (Char.ofNat n), rest)
  | '\\' :: c :: rest => (shortEscape? c).map fun c => (.char c, rest)
  | ['\\'] => none
  | c :: rest => if c.toNat < 0x20 then none else some (.char c, rest)

theorem length_readPiece?_lt {s rest : List Char} {piece : Piece}
    (h : readPiece? s = some (piece, rest)) : rest.length < s.length := by
  have low {s rest : List Char} {n : Nat} (h : lowSurrogate? s = some (n, rest)) :
      rest.length < s.length := by
    unfold lowSurrogate? at h
    split at h
    · grind
    · simp at h
  unfold readPiece? at h
  split at h <;> grind [Option.map_eq_some_iff]

/--
Reads a string after its opening quote. The characters found so far are kept in reverse, or not at
all once half of a surrogate pair was found.
-/
def readText? (found : Option (List Char)) (s : List Char) :
    Option (Option String × List Char) :=
  match _h : readPiece? s with
  | none => none
  | some (.close, rest) => some (found.map fun cs => String.ofList cs.reverse, rest)
  | some (.char c, rest) => readText? (found.map (c :: ·)) rest
  | some (.half, rest) => readText? none rest
termination_by s.length
decreasing_by all_goals exact length_readPiece?_lt _h

/-- Reads the point and the digits after it, if there is a point. -/
def readFraction? : List Char → Option (Option (List Char) × List Char)
  | '.' :: rest =>
    let digits := rest.takeWhile Char.isDigit
    if digits.isEmpty then none else some (some digits, rest.dropWhile Char.isDigit)
  | rest => some (none, rest)

def readPower? (negative : Bool) (s : List Char) : Option (Option Int × List Char) :=
  let digits := s.takeWhile Char.isDigit
  if digits.isEmpty then none
  else
    let power : Int := Nat.ofDigitChars 10 digits 0
    some (some (if negative then -power else power), s.dropWhile Char.isDigit)

def readExponent? : List Char → Option (Option Int × List Char)
  | c :: rest =>
    if c = 'e' || c = 'E' then
      match rest with
      | '-' :: rest => readPower? true rest
      | '+' :: rest => readPower? false rest
      | rest => readPower? false rest
    else some (none, c :: rest)
  | [] => some (none, [])

/-- Reads a number after its sign. A zero in front stands alone. -/
def readNumeral? (negative : Bool) (s : List Char) : Option (Numeral × List Char) := do
  let digits := s.takeWhile Char.isDigit
  if digits.isEmpty || (digits.head? == some '0' && digits != ['0']) then none
  else
    let (fraction, rest) ← readFraction? (s.dropWhile Char.isDigit)
    let (exponent, rest) ← readExponent? rest
    some (⟨negative, Nat.ofDigitChars 10 digits 0, fraction, exponent⟩, rest)

mutual

/-- Reads a value off the front of a text. The fuel bounds the nesting and the number of items. -/
def readValue? : Nat → List Char → Option (Json × List Char)
  | 0, _ => none
  | fuel + 1, s =>
    match skip s with
    | '\x7b' :: rest =>
      match skip rest with
      | '\x7d' :: rest => some (.object [], rest)
      | rest => (readMembers? fuel rest).map fun (ms, rest) => (.object ms, rest)
    | '[' :: rest =>
      match skip rest with
      | ']' :: rest => some (.array [], rest)
      | rest => (readItems? fuel rest).map fun (items, rest) => (.array items, rest)
    | '"' :: rest => (readText? (some []) rest).map fun (t, rest) => (.string t, rest)
    | 'n' :: 'u' :: 'l' :: 'l' :: rest => some (.null, rest)
    | 't' :: 'r' :: 'u' :: 'e' :: rest => some (.bool true, rest)
    | 'f' :: 'a' :: 'l' :: 's' :: 'e' :: rest => some (.bool false, rest)
    | '-' :: rest => (readNumeral? true rest).map fun (n, rest) => (.number n, rest)
    | rest => (readNumeral? false rest).map fun (n, rest) => (.number n, rest)

def readItems? : Nat → List Char → Option (List Json × List Char)
  | 0, _ => none
  | fuel + 1, s =>
    match readValue? fuel s with
    | none => none
    | some (j, rest) =>
      match skip rest with
      | ']' :: rest => some ([j], rest)
      | ',' :: rest => (readItems? fuel rest).map fun (items, rest) => (j :: items, rest)
      | _ => none

def readMembers? : Nat → List Char → Option (List (Option String × Json) × List Char)
  | 0, _ => none
  | fuel + 1, s =>
    match skip s with
    | '"' :: rest =>
      match readText? (some []) rest with
      | none => none
      | some (name, rest) =>
        match skip rest with
        | ':' :: rest =>
          match readValue? fuel rest with
          | none => none
          | some (j, rest) =>
            match skip rest with
            | '\x7d' :: rest => some ([(name, j)], rest)
            | ',' :: rest =>
              (readMembers? fuel rest).map fun (ms, rest) => ((name, j) :: ms, rest)
            | _ => none
        | _ => none
    | _ => none

end

/-- Reads a text that holds one value and otherwise only blanks. -/
def parse? (s : String) : Option Json :=
  let cs := s.toList
  match readValue? (2 * cs.length + 1) cs with
  | some (j, rest) => if (skip rest).isEmpty then some j else none
  | none => none

end BatchJob.Json
