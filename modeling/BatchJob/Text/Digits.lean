set_option autoImplicit false

/-!
Numbers as digits at the front of a text or in all of it.
-/

namespace BatchJob.Text

/-- The number that a text of nothing but digits stands for. -/
def digits? (s : List Char) : Option Nat :=
  if s.isEmpty || !s.all Char.isDigit then none else some (Nat.ofDigitChars 10 s 0)

def hexDigit? (c : Char) : Option Nat :=
  if c.isDigit then some (c.toNat - 48)
  else if 'a' ≤ c && c ≤ 'f' then some (c.toNat - 87)
  else if 'A' ≤ c && c ≤ 'F' then some (c.toNat - 55)
  else none

/--
Reads the digits of a number off the front of a text, before a point and, if there is one, after
it; there must be one digit at least.
-/
def readNumber? (s : List Char) : Option (List Char × Option (List Char) × List Char) :=
  let whole := s.takeWhile Char.isDigit
  match s.dropWhile Char.isDigit with
  | '.' :: rest =>
    let places := rest.takeWhile Char.isDigit
    if whole.isEmpty && places.isEmpty then none
    else some (whole, some places, rest.dropWhile Char.isDigit)
  | rest => if whole.isEmpty then none else some (whole, none, rest)

theorem length_readNumber?_le {s whole rest : List Char} {fraction : Option (List Char)}
    (h : readNumber? s = some (whole, fraction, rest)) : rest.length ≤ s.length := by
  have hs : (s.dropWhile Char.isDigit).length ≤ s.length :=
    (List.dropWhile_sublist _).length_le
  unfold readNumber? at h
  split at h
  · next r hr =>
    have hd : (r.dropWhile Char.isDigit).length ≤ r.length :=
      (List.dropWhile_sublist _).length_le
    rw [hr] at hs
    simp only [List.length_cons] at hs
    dsimp only at h
    split at h
    · simp at h
    · simp only [Option.some.injEq, Prod.mk.injEq] at h
      obtain ⟨-, -, rfl⟩ := h
      omega
  · dsimp only at h
    split at h
    · simp at h
    · simp only [Option.some.injEq, Prod.mk.injEq] at h
      obtain ⟨-, -, rfl⟩ := h
      exact hs

end BatchJob.Text
