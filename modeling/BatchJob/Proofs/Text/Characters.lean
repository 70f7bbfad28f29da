import BatchJob.Text.Upper
import BatchJob.Text.Words

set_option autoImplicit false

/-!
Characters of ASCII: digits, letters of either case, and that none of them is blank.
-/

namespace BatchJob.Text

/-- What is printed with ink in ASCII. -/
theorem isBlank_eq_false {c : Char} (above : 0x20 < c.toNat) (below : c.toNat < 0x7f) :
    isBlank c = false := by
  simp only [isBlank, Bool.or_eq_false_iff, Bool.and_eq_false_iff, decide_eq_false_iff_not,
    beq_eq_false_iff_ne]
  omega

theorem isDigit_toDigits (n : Nat) : ∀ c ∈ Nat.toDigits 10 n, c.isDigit = true :=
  fun _ member => Nat.isDigit_of_mem_toDigits (by decide) (by decide) member

theorem exists_digitChar_of_mem_toDigits {c : Char} {n : Nat} (member : c ∈ Nat.toDigits 16 n) :
    ∃ d < 16, c = Nat.digitChar d := by
  induction n using Nat.strongRecOn with
  | ind n ih =>
      rw [Nat.toDigits_eq_if (by decide)] at member
      split at member
      · rename_i small
        exact ⟨n, small, List.mem_singleton.mp member⟩
      · rename_i large
        rcases List.mem_append.mp member with member | last
        · exact ih (n / 16) (by omega) member
        · exact ⟨n % 16, Nat.mod_lt n (by decide), List.mem_singleton.mp last⟩

theorem toNat_of_isDigit {c : Char} (digit : c.isDigit = true) : 48 ≤ c.toNat ∧ c.toNat ≤ 57 := by
  rw [Char.isDigit, Bool.and_eq_true, decide_eq_true_eq, decide_eq_true_eq] at digit
  exact digit

theorem le_ofDigitChars (digits : List Char) (start : Nat) :
    start ≤ Nat.ofDigitChars 10 digits start := by
  induction digits generalizing start with
  | nil => exact Nat.le_refl start
  | cons c rest ih =>
      have later := ih (10 * start + (c.toNat - '0'.toNat))
      rw [Nat.ofDigitChars_cons]
      omega

/-- A character is its own capital, or stands as far behind it as all small letters do. -/
theorem toUpper_cases (c : Char) :
    c.toUpper = c ∨ 97 ≤ c.toNat ∧ c.toNat ≤ 122 ∧ c.toUpper.toNat + 32 = c.toNat := by
  unfold Char.toUpper
  split
  · rename_i small
    have first : 97 ≤ c.val.toNat := small.1
    have last : c.val.toNat ≤ 122 := small.2
    have shift : ('A'.val - 'a'.val).toNat = 2 ^ 32 - 32 := by decide
    refine .inr ⟨first, last, ?_⟩
    change (c.val + ('A'.val - 'a'.val)).toNat + 32 = c.val.toNat
    rw [UInt32.toNat_add, shift]
    omega
  · exact .inl rfl

theorem upper_of_ascii {s : List Char} (ascii : ∀ c ∈ s, c.toNat < 0x80) :
    upper s = s.map Char.toUpper := by
  induction s with
  | nil => rfl
  | cons c rest ih =>
      have capital : upperChar c = [c.toUpper] := if_pos (ascii c List.mem_cons_self)
      have others := ih fun x member => ascii x (List.mem_cons_of_mem c member)
      rw [upper] at others
      rw [upper, List.flatMap_cons, capital, others]
      rfl

end BatchJob.Text
