import BatchJob.Binary64.Shortest
import BatchJob.Text.Digits

set_option autoImplicit false

/-!
Decimal notation of double-precision numbers. A text is read as the nearest number, and a number is
written with the fewest digits that are read back as it.
-/

namespace BatchJob

/-- A double-precision number with its sign, or the value that is no number. -/
inductive Decimal where
  | number (negative : Bool) (magnitude : Binary64)
  | notANumber
  deriving DecidableEq

namespace Decimal

/-- Reads the power of ten that ends a text; without one, it is zero. -/
def power? : List Char → Option Int
  | [] => some 0
  | c :: rest =>
    if c = 'e' || c = 'E' then
      match rest with
      | '-' :: digits => (Text.digits? digits).map fun n => -(n : Int)
      | '+' :: digits => (Text.digits? digits).map Int.ofNat
      | digits => (Text.digits? digits).map Int.ofNat
    else none

/-- Reads digits, with a point or without, and a power of ten. -/
def magnitude? (text : List Char) : Option Binary64 := do
  let (whole, fraction, rest) ← Text.readNumber? text
  let places := fraction.getD []
  let power ← power? rest
  some (.ofScientific (Nat.ofDigitChars 10 (whole ++ places) 0) (power - places.length))

/-- Reads a number, one of the words for infinity or the word for no number, after any sign. -/
def ofText? (text : List Char) : Option Decimal :=
  let negative := text.head? = some '-'
  let rest := if negative || text.head? = some '+' then text.tail else text
  let word := String.ofList (rest.map Char.toLower)
  if word = "inf" || word = "infinity" then some (number negative .infinity)
  else if word = "nan" then some notANumber
  else (magnitude? rest).map (number negative)

def text : Decimal → List Char
  | notANumber => ['N', 'a', 'N']
  | number negative magnitude =>
    (if negative then ['-'] else []) ++
      match magnitude with
      | .infinity => ['i', 'n', 'f']
      | magnitude => (Binary64.shortest magnitude.units).text

/-- The number in least units, by which numbers are compared; zero has no sign there. -/
def units : Decimal → Int
  | number true magnitude => -(magnitude.units : Int)
  | number false magnitude => magnitude.units
  | notANumber => 0

end Decimal

end BatchJob
