import BatchJob.LogFilter.Pattern.Set
import BatchJob.Text.Letters

set_option autoImplicit false

/-!
Regular expressions that the value of a field may have to match. What counts here is whether a text
is one: a filter keeps the text itself.
-/

namespace BatchJob.LogFilter.Pattern

inductive Opening where
  | flags (m : Mode)
  | group (m : Mode) (name : Option (List Char))

def isGroupName : List Char → Bool
  | [] => false
  | c :: rest =>
    (c = '_' || Text.isAlphabetic c) &&
      rest.all fun c => ['_', '.', '[', ']'].contains c || Text.isAlphanumeric c

def readGroupName? (m : Mode) (s : List Char) : Option (Opening × List Char) :=
  let name := s.takeWhile (· != '>')
  match s.dropWhile (· != '>') with
  | [] => none
  | _ :: rest => if isGroupName name then some (.group m (some name), rest) else none

/-- Reads flags, for a group of their own or for all that follows. -/
def readFlags? (m : Mode) (s : List Char) : Option (Opening × List Char) :=
  let flags := s.takeWhile fun c => c != ':' && c != ')'
  if !Mode.isFlags flags then none
  else
    match s.drop flags.length with
    | ':' :: rest => some (.group (m.update flags) none, rest)
    | ')' :: rest => if flags.isEmpty then none else some (.flags (m.update flags), rest)
    | _ => none

/-- Reads what follows an opening parenthesis. -/
def readParenthesis? (m : Mode) (s : List Char) : Option (Opening × List Char) :=
  match m.skip s with
  | '?' :: 'P' :: '<' :: rest => readGroupName? m rest
  | '?' :: '<' :: rest => readGroupName? m rest
  | '?' :: rest => readFlags? m rest
  | rest => some (.group m none, rest)

/-- A part of a sequence. Flags have no height, and they cannot be repeated. -/
structure Part where
  height : Nat
  repeatable : Bool := true

/-- Reads one element that is neither a set nor a group. -/
def readAtom? (m : Mode) (c : Char) (rest : List Char) : Option (List Char) :=
  if c = '\\' then (readEscape? m rest).map (·.2)
  else if c = '\x7b' || (c = '.' && !m.unicode) then none
  else some rest

/--
Reads branches up to the end of a group or of the text. It gives their height and the names of all
groups so far, of which no two are the same.
-/
def readBranches? :
    Nat → Bool → Mode → List (List Char) → List Nat → List Part → List Char →
      Option (Nat × List (List Char) × List Char)
  | 0, _, _, _, _, _, _ => none
  | fuel + 1, inGroup, m, names, branches, parts, s =>
    let branches' := joint (parts.map Part.height) :: branches
    match m.skip s with
    | [] => if inGroup then none else some (joint branches', names, [])
    | c :: rest =>
      if c = ')' then if inGroup then some (joint branches', names, rest) else none
      else if c = '|' then readBranches? fuel inGroup m names branches' [] rest
      else if c = '(' then
        match readParenthesis? m rest with
        | none => none
        | some (.flags m, rest) =>
          readBranches? fuel inGroup m names branches (⟨0, false⟩ :: parts) rest
        | some (.group inner name, rest) =>
          if name.any names.contains then none
          else
            match readBranches? fuel true inner (name.toList ++ names) [] [] rest with
            | none => none
            | some (height, names, rest) =>
              readBranches? fuel inGroup m names branches (⟨height + 1, true⟩ :: parts) rest
      else if c = '?' || c = '*' || c = '+' then
        let rest := if rest.head? = some '?' then rest.tail else rest
        match parts with
        | ⟨height, true⟩ :: parts =>
          readBranches? fuel inGroup m names branches (⟨height + 1, true⟩ :: parts) rest
        | _ => none
      else if c = '[' then
        match readSet? m rest with
        | none => none
        | some (height, rest) =>
          readBranches? fuel inGroup m names branches (⟨height, true⟩ :: parts) rest
      else
        match readAtom? m c rest with
        | none => none
        | some rest => readBranches? fuel inGroup m names branches (⟨0, true⟩ :: parts) rest

def maxHeight : Nat := 250

end Pattern

/-- Whether a text is a pattern. Counts in braces do not occur, since no value holds their end. -/
def isPattern (text : List Char) : Bool :=
  match Pattern.readBranches? (text.length + 1) false {} [] [] [] text with
  | some (height, _, _) => height ≤ Pattern.maxHeight
  | none => false

end BatchJob.LogFilter
