set_option autoImplicit false

/-!
Double-precision numbers that are not negative. Every operation is exact on a fraction of natural
numbers and is then rounded to 53 significant bits, but to no finer unit than `2 ^ -1074`, a half
to the even neighbour; what reaches `2 ^ 1024` is infinite.
-/

namespace BatchJob

/-- The quotient rounded to the nearest natural number, a half to the even one. -/
def roundDiv (n d : Nat) : Nat :=
  let q := n / d
  let r := n % d
  if 2 * r < d then q else if d < 2 * r then q + 1 else q + q % 2

/-- Rounding moves a quotient by half a unit at most. -/
theorem roundDiv_near (n d : Nat) (positive : 0 < d) :
    2 * n ≤ 2 * (d * roundDiv n d) + d ∧ 2 * (d * roundDiv n d) ≤ 2 * n + d := by
  have whole := Nat.div_add_mod n d
  have small := Nat.mod_lt n positive
  have up : d * (n / d + 1) = d * (n / d) + d := Nat.mul_succ d (n / d)
  unfold roundDiv
  by_cases below : 2 * (n % d) < d
  · simp only [below, if_true]
    omega
  · by_cases above : d < 2 * (n % d)
    · simp only [below, above, if_true, if_false]
      omega
    · simp only [below, above, if_false]
      rcases Nat.mod_two_eq_zero_or_one (n / d) with even | odd
      · rw [even, Nat.add_zero]
        omega
      · rw [odd]
        omega

/-- A double-precision number that is not negative, as a fraction. -/
inductive Binary64 where
  | fraction (num den : Nat)
  | infinity
  deriving DecidableEq

namespace Binary64

/-- The power of two in the least unit, which is `2 ^ -1074`. -/
def leastPower : Nat := 1074

/--
The powers of two that bring `num / den` between `2 ^ 52` and `2 ^ 53`, or to whole least units if
that takes less: the number is multiplied by the first and divided by the second, and one of the two
exponents is zero.
-/
def scaling (num den : Nat) : Nat × Nat :=
  let up := 52 + den.log2 - num.log2
  let down := num.log2 - (52 + den.log2)
  if (num <<< up) / (den <<< down) < 1 <<< 52 then
    if down = 0 then (min (up + 1) leastPower, 0) else (up, down - 1)
  else (min up leastPower, down)

/-- The double-precision number nearest to `num / den`. -/
def round (num den : Nat) : Binary64 :=
  if num = 0 then fraction 0 1
  else
    let (up, down) := scaling num den
    let significand := roundDiv (num <<< up) (den <<< down)
    if 1 <<< (1024 + up) ≤ significand <<< down then infinity
    else fraction (significand <<< down) (1 <<< up)

def ofNat (n : Nat) : Binary64 :=
  round n 1

def add : Binary64 → Binary64 → Binary64
  | fraction a b, fraction c d => round (a * d + c * b) (b * d)
  | _, _ => infinity

/-- The rounded product of a number and a positive factor. -/
def mul : Binary64 → Binary64 → Binary64
  | fraction a b, fraction c d => round (a * c) (b * d)
  | _, _ => infinity

/-- The nearest natural number, a half to the even one. -/
def nearest? : Binary64 → Option Nat
  | fraction a b => some (roundDiv a b)
  | infinity => none

/-- How many least units a number has; infinity comes next after the largest number. -/
def units : Binary64 → Nat
  | fraction a b => (a <<< leastPower) / b
  | infinity => 1 <<< (1024 + leastPower)

/--
The double-precision number nearest to a natural number times a power of ten. What is far outside
the range needs no exact power.
-/
def ofScientific (digits : Nat) (power : Int) : Binary64 :=
  let size : Int := (Nat.toDigits 10 digits).length + power
  if digits = 0 || size < -400 then fraction 0 1
  else if 400 < size then infinity
  else if 0 ≤ power then round (digits * Nat.pow 10 power.toNat) 1
  else round digits (Nat.pow 10 (-power).toNat)

end Binary64

end BatchJob
