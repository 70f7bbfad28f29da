import BatchJob.Binary64

set_option autoImplicit false

/-!
The decimal with the fewest digits that is read back as a given double-precision number; of several
such decimals, the one nearest to the number.
-/

namespace BatchJob.Binary64

/--
The decimals that are read back as one number, in quarters of the least unit. The two ends, half a
step of the number away, belong to them if the number has an even significand. The step below a
power of two is half as large.
-/
structure Neighbourhood where
  low : Nat
  value : Nat
  high : Nat
  closed : Bool

def Neighbourhood.ofUnits (n : Nat) : Neighbourhood :=
  let power := n.log2 - 52
  let significand := n >>> power
  { low := 4 * n - (if significand = 1 <<< 52 then 1 <<< power else 2 <<< power)
    value := 4 * n
    high := 4 * n + (2 <<< power)
    closed := significand % 2 = 0 }

/-- Whether `num / den`, in quarters of the least unit, is read back as the number. -/
def Neighbourhood.contains (r : Neighbourhood) (num den : Nat) : Bool :=
  if r.closed then r.low * den ≤ num && num ≤ r.high * den
  else r.low * den < num && num < r.high * den

structure Scientific where
  digits : Nat
  power : Int
  deriving DecidableEq

def powerOfTen (power : Int) : Nat × Nat :=
  (Nat.pow 10 power.toNat, Nat.pow 10 (-power).toNat)

def quarters : Nat := 4 <<< leastPower

def Neighbourhood.admits (r : Neighbourhood) (s : Scientific) : Bool :=
  let (num, den) := powerOfTen s.power
  r.contains (s.digits * num * quarters) den

/-- The multiples of a power of ten next to the number, the nearer one first. -/
def Neighbourhood.candidates (r : Neighbourhood) (power : Int) : List Scientific :=
  let (num, den) := powerOfTen power
  let step := num * quarters
  let below := r.value * den / step
  if 2 * (r.value * den % step) < step then [⟨below, power⟩, ⟨below + 1, power⟩]
  else [⟨below + 1, power⟩, ⟨below, power⟩]

/-- The least power of ten above the number. -/
def Neighbourhood.decade (r : Neighbourhood) : Int :=
  if quarters ≤ r.value then (Nat.toDigits 10 (r.value / quarters)).length
  else 1 - ((Nat.toDigits 10 ((quarters - 1) / r.value)).length : Int)

/-- The first decimal with one digit, or two, and so on up to seventeen, that is read back. -/
def Neighbourhood.shortest? (r : Neighbourhood) : Option Scientific :=
  ((List.range 17).flatMap fun (n : Nat) => r.candidates (r.decade - n - 1)).find? r.admits

def shortest (n : Nat) : Scientific :=
  if n = 0 then ⟨0, 0⟩ else (Neighbourhood.ofUnits n).shortest?.getD ⟨0, 0⟩

/-- A decimal without an exponent; behind the point are no needless zeros. -/
def Scientific.text (s : Scientific) : List Char :=
  let digits := Nat.toDigits 10 s.digits
  if 0 ≤ s.power then digits ++ List.replicate s.power.toNat '0'
  else
    let places := (-s.power).toNat
    let padded := List.replicate (places + 1 - digits.length) '0' ++ digits
    let whole := padded.take (padded.length - places)
    let fraction := (padded.drop (padded.length - places)).reverse.dropWhile (· = '0')
    if fraction.isEmpty then whole else whole ++ '.' :: fraction.reverse

end BatchJob.Binary64
