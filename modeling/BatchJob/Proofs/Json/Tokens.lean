import BatchJob.Json.Printer
import BatchJob.Json.Reader
import BatchJob.Proofs.Text.Characters
import BatchJob.Proofs.Text.Digits

set_option autoImplicit false

/-!
Numbers and strings are read as they were printed, and blanks between them are passed over.
-/

namespace BatchJob.Json

theorem skip_append {blanks : List Char} (blank : blanks.all isSpace = true) (s : List Char) :
    skip (blanks ++ s) = skip s := by
  induction blanks with
  | nil => rfl
  | cons c rest ih =>
      rw [List.all_cons, Bool.and_eq_true] at blank
      rw [List.cons_append, skip, List.dropWhile_cons_of_pos blank.1]
      exact ih blank.2

theorem skip_cons {c : Char} (solid : isSpace c = false) (s : List Char) :
    skip (c :: s) = c :: s :=
  List.dropWhile_cons_of_neg (Bool.eq_false_iff.mp solid)

/-- What may follow a number without being taken for a part of it. -/
def Stops (s : List Char) : Prop :=
  ∀ c ∈ s.head?, c.isDigit = false ∧ c ≠ '.' ∧ c ≠ 'e' ∧ c ≠ 'E'

theorem stops_nil : Stops [] := by
  intro c member
  cases member

theorem stops_cons {c : Char} (digit : c.isDigit = false) (point : c ≠ '.') (lower : c ≠ 'e')
    (upper : c ≠ 'E') (s : List Char) : Stops (c :: s) := by
  intro x member
  cases member
  exact ⟨digit, point, lower, upper⟩

theorem takeWhile_toDigits {rest : List Char} (n : Nat) (stops : Stops rest) :
    (Nat.toDigits 10 n ++ rest).takeWhile Char.isDigit = Nat.toDigits 10 n :=
  Text.takeWhile_append_of_stops (Text.isDigit_toDigits n) fun c first => (stops c first).1

theorem dropWhile_toDigits {rest : List Char} (n : Nat) (stops : Stops rest) :
    (Nat.toDigits 10 n ++ rest).dropWhile Char.isDigit = rest :=
  Text.dropWhile_append_of_stops (Text.isDigit_toDigits n) fun c first => (stops c first).1

/-- Only zero starts with the digit zero. -/
theorem head_toDigits {n : Nat} (positive : 0 < n) : (Nat.toDigits 10 n).head? ≠ some '0' := by
  induction n using Nat.strongRecOn with
  | ind n ih =>
      by_cases small : n < 10
      · rw [Nat.toDigits_of_lt_base small]
        have all : ∀ d < 10, 0 < d → [Nat.digitChar d].head? ≠ some '0' := by decide
        exact all n small positive
      · have shorter : 0 < n / 10 := by omega
        have earlier := ih (n / 10) (by omega) shorter
        rw [Nat.toDigits_of_base_le (by decide) (by omega)]
        cases first : Nat.toDigits 10 (n / 10) with
        | nil => exact absurd first Nat.toDigits_ne_nil
        | cons c rest =>
            rw [first] at earlier
            exact earlier

theorem readFraction?_of_stops {s : List Char} (stops : Stops s) :
    readFraction? s = some (none, s) := by
  unfold readFraction?
  split
  · exact absurd rfl (stops '.' rfl).2.1
  · rfl

theorem readExponent?_of_stops {s : List Char} (stops : Stops s) :
    readExponent? s = some (none, s) := by
  cases s with
  | nil => rfl
  | cons c rest =>
      obtain ⟨-, -, lower, upper⟩ := stops c rfl
      simp only [readExponent?, lower, upper, decide_false, Bool.or_false, Bool.false_eq_true,
        if_false]

theorem readNumeral?_toDigits {rest : List Char} (n : Nat) (stops : Stops rest) :
    readNumeral? false (Nat.toDigits 10 n ++ rest) = some (.ofNat n, rest) := by
  have filled : (Nat.toDigits 10 n).isEmpty = false := List.isEmpty_eq_false_iff.mpr
    Nat.toDigits_ne_nil
  have proper : ((Nat.toDigits 10 n).head? == some '0' && Nat.toDigits 10 n != ['0']) = false := by
    rcases Nat.eq_zero_or_pos n with rfl | positive
    · rfl
    · rw [beq_eq_false_iff_ne.mpr (head_toDigits positive), Bool.false_and]
  simp only [readNumeral?, takeWhile_toDigits n stops, dropWhile_toDigits n stops, filled, proper,
    Bool.or_false, Bool.false_eq_true, if_false, readFraction?_of_stops stops, Option.bind_eq_bind,
    Option.bind_some, readExponent?_of_stops stops, Nat.ofDigitChars_ten_toDigits]
  rfl

theorem hexDigit?_digitChar {d : Nat} (small : d < 16) :
    Text.hexDigit? (Nat.digitChar d) = some d := by
  have all : ∀ d < 16, Text.hexDigit? (Nat.digitChar d) = some d := by decide
  exact all d small

theorem hexUnit?_fourDigits {n : Nat} (small : n < 65536) :
    hexUnit? (n / 4096 % 16).digitChar (n / 256 % 16).digitChar (n / 16 % 16).digitChar
      (n % 16).digitChar = some n := by
  have whole : ((n / 4096 % 16 * 16 + n / 256 % 16) * 16 + n / 16 % 16) * 16 + n % 16 = n := by
    omega
  simp only [hexUnit?, hexDigit?_digitChar (Nat.mod_lt _ (by decide : 0 < 16)),
    Option.bind_eq_bind, Option.bind_some, whole]

theorem readPiece?_escaped {n : Nat} (low : n < 0x20) (rest : List Char) :
    readPiece? ('\\' :: 'u' :: fourDigits n ++ rest) = some (.char (Char.ofNat n), rest) := by
  have unit := hexUnit?_fourDigits (show n < 65536 by omega)
  have high : isHighSurrogate n = false := by
    simp only [isHighSurrogate, Bool.and_eq_false_iff, decide_eq_false_iff_not]
    omega
  have tail : isLowSurrogate n = false := by
    simp only [isLowSurrogate, Bool.and_eq_false_iff, decide_eq_false_iff_not]
    omega
  simp only [fourDigits, List.map_cons, List.map_nil, List.cons_append, List.nil_append, readPiece?,
    unit, high, tail, Bool.false_eq_true, if_false]

theorem readPiece?_plain {c : Char} (quote : c ≠ '"') (escape : c ≠ '\\') (high : ¬ c.toNat < 0x20)
    (rest : List Char) : readPiece? (c :: rest) = some (.char c, rest) := by
  unfold readPiece?
  split
  · contradiction
  · rename_i same
    cases same
    exact absurd rfl quote
  · rename_i same
    cases same
    exact absurd rfl escape
  · rename_i same
    cases same
    exact absurd rfl escape
  · rename_i same
    cases same
    exact absurd rfl escape
  · rename_i same
    cases same
    rw [if_neg high]

/-- A printed character is the next piece of a string. -/
theorem readPiece?_printChar (c : Char) (rest : List Char) :
    readPiece? (printChar c ++ rest) = some (.char c, rest) := by
  unfold printChar
  split
  · subst c
    rfl
  split
  · subst c
    rfl
  split
  · subst c
    rfl
  split
  · subst c
    rfl
  split
  · subst c
    rfl
  split
  · subst c
    rfl
  split
  · subst c
    rfl
  split
  · rename_i low
    rw [readPiece?_escaped low, Char.ofNat_toNat]
  · rename_i quote escape _ _ _ _ _ high
    exact readPiece?_plain quote escape high rest

theorem readText?_of_close {found : Option (List Char)} {s rest : List Char}
    (read : readPiece? s = some (.close, rest)) :
    readText? found s = some (found.map fun cs => String.ofList cs.reverse, rest) := by
  rw [readText?]
  split <;> rename_i other <;> rw [read] at other <;> cases other
  rfl

theorem readText?_of_char {found : Option (List Char)} {s rest : List Char} {c : Char}
    (read : readPiece? s = some (.char c, rest)) :
    readText? found s = readText? (found.map (c :: ·)) rest := by
  rw [readText?]
  split <;> rename_i other <;> rw [read] at other <;> cases other
  rfl

theorem readText?_of_half {found : Option (List Char)} {s rest : List Char}
    (read : readPiece? s = some (.half, rest)) : readText? found s = readText? none rest := by
  rw [readText?]
  split <;> rename_i other <;> rw [read] at other <;> cases other
  rfl

theorem readText?_printChars (found cs rest : List Char) :
    readText? (some found) (cs.flatMap printChar ++ '"' :: rest) =
      some (some (String.ofList (found.reverse ++ cs)), rest) := by
  induction cs generalizing found with
  | nil =>
      have close : readPiece? ('"' :: rest) = some (.close, rest) := rfl
      rw [List.flatMap_nil, List.nil_append, readText?_of_close close, List.append_nil]
      rfl
  | cons c cs ih =>
      rw [List.flatMap_cons, List.append_assoc,
        readText?_of_char (readPiece?_printChar c (cs.flatMap printChar ++ '"' :: rest)),
        Option.map_some, ih, List.reverse_cons, List.append_assoc]
      rfl

/-- A printed string is read back, be it a text or not. -/
theorem readText?_printText (text : Option String) (rest : List Char) :
    ∃ inner, printText text = '"' :: inner ∧
      readText? (some []) (inner ++ rest) = some (text, rest) := by
  cases text with
  | none =>
      have half : readPiece? ('\\' :: 'u' :: 'd' :: '8' :: '0' :: '0' :: '"' :: rest) =
          some (.half, '"' :: rest) := rfl
      have close : readPiece? ('"' :: rest) = some (.close, rest) := rfl
      refine ⟨_, rfl, ?_⟩
      exact (readText?_of_half half).trans (readText?_of_close close)
  | some s =>
      refine ⟨s.toList.flatMap printChar ++ ['"'], rfl, ?_⟩
      rw [List.append_assoc, List.cons_append, List.nil_append, readText?_printChars]
      simp only [List.reverse_nil, List.nil_append, String.ofList_toList]

end BatchJob.Json
