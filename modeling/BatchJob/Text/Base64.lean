set_option autoImplicit false

/-!
Bytes written with the standard base64 alphabet: three bytes in four characters, the last group
filled up with `=`. What is written is read back as the same bytes.
-/

namespace BatchJob.Base64

def digit (n : Nat) : Char :=
  if n < 26 then Char.ofNat (n + 65)
  else if n < 52 then Char.ofNat (n - 26 + 97)
  else if n < 62 then Char.ofNat (n - 52 + 48)
  else if n = 62 then '+' else '/'

def encode : List UInt8 → List Char
  | [] => []
  | [a] => [digit (a.toNat / 4), digit (a.toNat % 4 * 16), '=', '=']
  | [a, b] =>
    [digit (a.toNat / 4), digit (a.toNat % 4 * 16 + b.toNat / 16), digit (b.toNat % 16 * 4), '=']
  | a :: b :: c :: rest =>
    digit (a.toNat / 4) :: digit (a.toNat % 4 * 16 + b.toNat / 16) ::
      digit (b.toNat % 16 * 4 + c.toNat / 64) :: digit (c.toNat % 64) :: encode rest

/-- The value of a base64 character. -/
def digitValue? (c : Char) : Option Nat :=
  if c.isUpper then some (c.toNat - 65)
  else if c.isLower then some (c.toNat - 97 + 26)
  else if c.isDigit then some (c.toNat - 48 + 52)
  else if c = '+' then some 62
  else if c = '/' then some 63 else none

/-- Reads groups of four characters; `none` for anything that `encode` does not write. -/
def decode? : List Char → Option (List UInt8)
  | [] => some []
  | [a, b, '=', '='] => do
    let x ← digitValue? a
    let y ← digitValue? b
    if y % 16 = 0 then some [UInt8.ofNat (x * 4 + y / 16)] else none
  | [a, b, c, '='] => do
    let x ← digitValue? a
    let y ← digitValue? b
    let z ← digitValue? c
    if z % 4 = 0 then
      some [UInt8.ofNat (x * 4 + y / 16), UInt8.ofNat (y % 16 * 16 + z / 4)]
    else none
  | a :: b :: c :: d :: rest => do
    let x ← digitValue? a
    let y ← digitValue? b
    let z ← digitValue? c
    let w ← digitValue? d
    let bytes ← decode? rest
    some (UInt8.ofNat (x * 4 + y / 16) :: UInt8.ofNat (y % 16 * 16 + z / 4) ::
      UInt8.ofNat (z % 4 * 64 + w) :: bytes)
  | _ => none

theorem digitValue?_digit (n : Nat) (small : n < 64) : digitValue? (digit n) = some n := by
  revert n
  decide

theorem digit_ne_pad (n : Nat) (small : n < 64) : digit n ≠ '=' := by
  revert n
  decide

/-- Reading gives back what was written. -/
theorem decode?_encode (bytes : List UInt8) : decode? (encode bytes) = some bytes := by
  fun_induction encode bytes with
  | case1 => rfl
  | case2 a =>
    have bound := a.toNat_lt
    have whole : a.toNat / 4 * 4 + a.toNat % 4 * 16 / 16 = a.toNat := by omega
    rw [decode?, digitValue?_digit _ (by omega), digitValue?_digit _ (by omega)]
    simp only [Option.bind_eq_bind, Option.bind_some, whole, Nat.mul_mod_left, if_true,
      UInt8.ofNat_toNat]
  | case3 a b =>
    have bound := a.toNat_lt
    have bound' := b.toNat_lt
    have first : a.toNat / 4 * 4 + (a.toNat % 4 * 16 + b.toNat / 16) / 16 = a.toNat := by omega
    have second : (a.toNat % 4 * 16 + b.toNat / 16) % 16 * 16 + b.toNat % 16 * 4 / 4 =
        b.toNat := by omega
    have filled : b.toNat % 16 * 4 % 4 = 0 := by omega
    rw [decode?, digitValue?_digit _ (by omega), digitValue?_digit _ (by omega),
      digitValue?_digit _ (by omega)]
    · simp only [Option.bind_eq_bind, Option.bind_some, first, second, filled, if_true,
        UInt8.ofNat_toNat]
    · exact fun h => digit_ne_pad _ (by omega) h
  | case4 a b c rest ih =>
    have bound := a.toNat_lt
    have bound' := b.toNat_lt
    have bound'' := c.toNat_lt
    have first : a.toNat / 4 * 4 + (a.toNat % 4 * 16 + b.toNat / 16) / 16 = a.toNat := by omega
    have second : (a.toNat % 4 * 16 + b.toNat / 16) % 16 * 16 +
        (b.toNat % 16 * 4 + c.toNat / 64) / 4 = b.toNat := by omega
    have third : (b.toNat % 16 * 4 + c.toNat / 64) % 4 * 64 + c.toNat % 64 = c.toNat := by omega
    rw [decode?, digitValue?_digit _ (by omega), digitValue?_digit _ (by omega),
      digitValue?_digit _ (by omega), digitValue?_digit _ (by omega), ih]
    · simp only [Option.bind_eq_bind, Option.bind_some, first, second, third, UInt8.ofNat_toNat]
    · intro _ pad
      exact absurd pad (digit_ne_pad _ (by omega))
    · intro pad
      exact absurd pad (digit_ne_pad _ (by omega))

end BatchJob.Base64
