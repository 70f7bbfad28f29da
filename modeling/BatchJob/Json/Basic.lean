import BatchJob.Binary64

set_option autoImplicit false

/-!
The tree of a JSON text. It keeps what the text says and no more than a reader needs: members in
their order, repeated names included, and numbers as they are written.
-/

namespace BatchJob

namespace Json

/-- A number as it is written: digits, a point with further digits, and a power of ten. -/
structure Numeral where
  negative : Bool
  whole : Nat
  fraction : Option (List Char)
  exponent : Option Int
  deriving DecidableEq

end Json

/--
A JSON value. A text of `none` stands for a string that holds half of a surrogate pair and so names
no text.
-/
inductive Json where
  | null
  | bool (value : Bool)
  | number (numeral : Json.Numeral)
  | string (text : Option String)
  | array (items : List Json)
  | object (members : List (Option String × Json))
  deriving Inhabited

namespace Json

namespace Numeral

def ofNat (n : Nat) : Numeral := ⟨false, n, none, none⟩

/-- The natural number written without a sign, a point or an exponent. -/
def nat? (n : Numeral) : Option Nat :=
  if n.negative || n.fraction.isSome || n.exponent.isSome then none else some n.whole

/-- The integer written without a point or an exponent; a negative zero is no integer. -/
def int? (n : Numeral) : Option Int :=
  if n.fraction.isSome || n.exponent.isSome || (n.negative && n.whole == 0) then none
  else some (if n.negative then -(n.whole : Int) else n.whole)

/-- Takes digits into a significand as long as it stays below `2 ^ 64`; also counts them. -/
def absorb (significand : Nat) : List Char → Nat × Nat
  | [] => (significand, 0)
  | c :: digits =>
    let next := significand * 10 + (c.toNat - '0'.toNat)
    if next < UInt64.size then
      let (final, count) := absorb next digits
      (final, count + 1)
    else (significand, 0)

/--
Whether the number has a finite double-precision value: the digits that fit into 64 bits, times a
power of ten that is itself a double-precision number.
-/
def inRange (n : Numeral) : Bool :=
  let digits := Nat.toDigits 10 n.whole
  let (upper, kept) := absorb 0 digits
  let (significand, places) := absorb upper (n.fraction.getD [])
  let power : Int := (digits.length - kept : Nat) - (places : Int) + n.exponent.getD 0
  if significand = 0 || power < 0 then true
  else if 308 < power then false
  else (Binary64.ofNat significand).mul (Binary64.ofNat (Nat.pow 10 power.toNat)) != .infinity

end Numeral

def text (s : String) : Json := .string (some s)

def nat (n : Nat) : Json := .number (.ofNat n)

def record (members : List (String × Json)) : Json :=
  .object (members.map fun (name, value) => (some name, value))

/-- The member of an object; of members with one name, the last. -/
def member? (j : Json) (name : String) : Option Json :=
  match j with
  | .object members => members.reverse.lookup (some name)
  | _ => none

/-- Only the last of the members with one name. -/
def lastOfEach {α : Type} : List (Option String × α) → List (Option String × α)
  | [] => []
  | m :: rest =>
    let later := lastOfEach rest
    if later.any (·.1 == m.1) then later else m :: later

mutual

/--
The tree as a general value. Every string must be a text, every number must be in range, and at most
`levels` arrays and objects stand inside each other; of members with one name only the last is kept.
-/
def settle? (levels : Nat) : Json → Option Json
  | .null => some .null
  | .bool b => some (.bool b)
  | .number n => if n.inRange then some (.number n) else none
  | .string none => none
  | .string (some s) => some (.string (some s))
  | .array items =>
    if levels = 0 then none else (settleItems? (levels - 1) items).map .array
  | .object members =>
    if levels = 0 then none
    else (settleMembers? (levels - 1) members).map fun ms => .object (lastOfEach ms)

def settleItems? (levels : Nat) : List Json → Option (List Json)
  | [] => some []
  | j :: rest => do
    let j ← settle? levels j
    let rest ← settleItems? levels rest
    some (j :: rest)

/-- Settles every member; a name must be a text. -/
def settleMembers? (levels : Nat) :
    List (Option String × Json) → Option (List (Option String × Json))
  | [] => some []
  | (none, _) :: _ => none
  | (some name, j) :: rest => do
    let j ← settle? levels j
    let rest ← settleMembers? levels rest
    some ((some name, j) :: rest)

end

end Json

end BatchJob
