set_option autoImplicit false

/-!
White space in the sense of the Unicode property `White_Space`, the words that stand between it, the
pieces that a text is cut into where a mark stands, and its parts by their places, which are counted
in bytes of UTF-8.
-/

namespace BatchJob.Text

/-- The characters with the property `White_Space`. -/
def isBlank (c : Char) : Bool :=
  let n := c.toNat
  (9 ≤ n && n ≤ 13) || n == 0x20 || n == 0x85 || n == 0xa0 || n == 0x1680 ||
    (0x2000 ≤ n && n ≤ 0x200a) || n == 0x2028 || n == 0x2029 || n == 0x202f || n == 0x205f ||
    n == 0x3000

/-- Drops the longest tail whose characters all satisfy `p`. -/
def dropEndWhile {α : Type} (p : α → Bool) (s : List α) : List α :=
  (s.reverse.dropWhile p).reverse

def trim (s : List Char) : List Char :=
  dropEndWhile isBlank (s.dropWhile isBlank)

/-- The maximal runs of characters that are not blank. -/
def words (s : List Char) : List (List Char) :=
  (s.splitOnP isBlank).filter (!·.isEmpty)

def unwords (ws : List (List Char)) : List Char :=
  [' '].intercalate ws

/-- What stands before and after the first `c`, if there is one. -/
def cut (c : Char) (s : List Char) : Option (List Char × List Char) :=
  match s.dropWhile (· != c) with
  | [] => none
  | _ :: after => some (s.takeWhile (· != c), after)

/-- What stands before and after the first occurrence of `mark`, if there is one. -/
def cutAt (mark : List Char) : List Char → Option (List Char × List Char)
  | [] => if mark.isEmpty then some ([], []) else none
  | c :: s =>
    if mark.isPrefixOf (c :: s) then some ([], (c :: s).drop mark.length)
    else (cutAt mark s).map fun (before, after) => (c :: before, after)

/-- What stands before a line feed, without the carriage return that belongs to the line ending. -/
def chomp (piece : List Char) : List Char :=
  if piece.getLast? == some '\r' then piece.dropLast else piece

def lines (s : List Char) : List (List Char) :=
  let pieces := s.splitOn '\n'
  let last := pieces.getLast?.getD []
  pieces.dropLast.map chomp ++ if last.isEmpty then [] else [last]

def byteLength : List Char → Nat
  | [] => 0
  | c :: rest => c.utf8Size + byteLength rest

def dropBytes : Nat → List Char → List Char
  | _, [] => []
  | count, c :: rest => if count = 0 then c :: rest else dropBytes (count - c.utf8Size) rest

def takeBytes : Nat → List Char → List Char
  | _, [] => []
  | count, c :: rest => if count = 0 then [] else c :: takeBytes (count - c.utf8Size) rest

/-- The part of a text between two places. -/
def slice (s : List Char) (first last : Nat) : List Char :=
  takeBytes (last - first) (dropBytes first s)

end BatchJob.Text
