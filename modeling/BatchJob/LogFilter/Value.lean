import BatchJob.Decimal
import BatchJob.LogFilter.Pattern

set_option autoImplicit false

/-!
What a filter may ask of the value of a field.
-/

namespace BatchJob.LogFilter

/-- A value that a field must have, or a pattern that it must match. -/
inductive Value where
  | truth (b : Bool)
  | natural (n : Nat)
  | negative (n : Nat)
  | decimal (d : Decimal)
  | pattern (text : List Char)
  deriving DecidableEq

namespace Value

/-- Reads a natural number of 64 bits; one plus sign may stand in front. -/
def natural? (text : List Char) : Option Value :=
  ((Text.digits? (if text.head? = some '+' then text.tail else text)).filter
    (· < UInt64.size)).map natural

/-- Reads a number with a minus sign, as far as 64 bits hold it. -/
def negative? : List Char → Option Value
  | '-' :: digits => ((Text.digits? digits).filter (· ≤ 1 <<< 63)).map negative
  | _ => none

/-- Reads a value as the first of these that it is: a truth value, a number, a pattern. -/
def ofText? (text : List Char) : Option Value :=
  if text = "true".toList then some (truth true)
  else if text = "false".toList then some (truth false)
  else
    natural? text <|> negative? text <|> (Decimal.ofText? text).map decimal <|>
      if isPattern text then some (pattern text) else none

/-- The text of a value; numbers are written anew. -/
def text : Value → List Char
  | truth b => (toString b).toList
  | natural n => Nat.toDigits 10 n
  | negative n => if n = 0 then ['0'] else '-' :: Nat.toDigits 10 n
  | decimal d => d.text
  | pattern text => text

/-- The place of a value in the order of all values: first its kind, and then the value itself. -/
def rank : Value → List Int
  | truth b => [0, b.toNat]
  | decimal (.number s m) => [1, (Decimal.number s m).units]
  | decimal .notANumber => [2]
  | natural n => [3, n]
  | negative n => [4, -(n : Int)]
  | pattern text => 5 :: text.map fun c => (c.toNat : Int)

end Value

end BatchJob.LogFilter
