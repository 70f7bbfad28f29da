import BatchJob.Binary64

set_option autoImplicit false

/-!
Rounding a quotient far below the range's end gives a finite number of about its size.
-/

namespace BatchJob.Binary64

/-- The power of two that divides a quotient before it is rounded is small beside the quotient. -/
theorem scaling_snd_le (num den : Nat) (filled : 0 < num) :
    den <<< (scaling num den).2 ≤ den + num := by
  have below : (scaling num den).2 ≤ num.log2 - (52 + den.log2) := by
    simp only [scaling]
    split
    · split
      · exact Nat.zero_le _
      · exact Nat.sub_le _ 1
    · exact Nat.le_refl _
  by_cases fits : num.log2 ≤ 52 + den.log2
  · have zero : (scaling num den).2 = 0 := by omega
    rw [zero, Nat.shiftLeft_zero]
    exact Nat.le_add_right den num
  · have size : den < 2 ^ (den.log2 + 1) := Nat.lt_log2_self
    have floor : 2 ^ num.log2 ≤ num := Nat.log2_self_le (Nat.ne_of_gt filled)
    rw [Nat.shiftLeft_eq]
    calc den * 2 ^ (scaling num den).2
      _ ≤ 2 ^ (den.log2 + 1) * 2 ^ (num.log2 - (52 + den.log2)) :=
          Nat.mul_le_mul (Nat.le_of_lt size) (Nat.pow_le_pow_right (by decide) below)
      _ = 2 ^ (den.log2 + 1 + (num.log2 - (52 + den.log2))) := (Nat.pow_add 2 _ _).symm
      _ ≤ 2 ^ num.log2 := Nat.pow_le_pow_right (by decide) (by omega)
      _ ≤ num := floor
      _ ≤ den + num := Nat.le_add_left num den

/-- The rounded significand stands for at most twice the quotient and one more. -/
theorem significand_le (num den : Nat) (filled : 0 < num) (proper : 0 < den) :
    den * (roundDiv (num <<< (scaling num den).1) (den <<< (scaling num den).2) <<<
      (scaling num den).2) ≤ (2 * num + den) <<< (scaling num den).1 := by
  have small := scaling_snd_le num den filled
  generalize (scaling num den).1 = up at *
  generalize (scaling num den).2 = down at *
  have positive : 0 < den * 2 ^ down := Nat.mul_pos proper (Nat.two_pow_pos down)
  have near := (roundDiv_near (num * 2 ^ up) (den * 2 ^ down) positive).2
  have unit : 1 ≤ 2 ^ up := Nat.one_le_two_pow
  simp only [Nat.shiftLeft_eq] at small ⊢
  generalize roundDiv (num * 2 ^ up) (den * 2 ^ down) = q at *
  have spread : den + num ≤ (den + num) * 2 ^ up := Nat.le_mul_of_pos_right _ unit
  calc den * (q * 2 ^ down)
    _ = den * 2 ^ down * q := by rw [Nat.mul_comm q, Nat.mul_assoc]
    _ ≤ num * 2 ^ up + den * 2 ^ down := by omega
    _ ≤ num * 2 ^ up + (den + num) * 2 ^ up := by omega
    _ = (2 * num + den) * 2 ^ up := by rw [← Nat.add_mul]; congr 1; omega

/-- A quotient below `2 ^ 200` is rounded to a finite number. -/
theorem round_finite {num den : Nat} (proper : 0 < den) (small : num < den <<< 200) :
    ∃ a b, round num den = fraction a b ∧ 0 < b ∧ a * den ≤ (2 * num + den) * b := by
  unfold round
  by_cases zero : num = 0
  · rw [if_pos zero]
    exact ⟨0, 1, rfl, by decide, by rw [Nat.zero_mul]; exact Nat.zero_le _⟩
  · have bound := significand_le num den (Nat.pos_of_ne_zero zero) proper
    rw [Nat.shiftLeft_eq] at small
    rw [if_neg zero]
    dsimp only
    generalize (scaling num den).1 = up at *
    generalize (scaling num den).2 = down at *
    generalize roundDiv (num <<< up) (den <<< down) <<< down = value at *
    rw [Nat.shiftLeft_eq] at bound
    have finite : ¬ 1 <<< (1024 + up) ≤ value := by
      intro large
      have unit : 0 < 2 ^ up := Nat.two_pow_pos up
      have scaled : den * 2 ^ 202 * 2 ^ up ≤ (2 * num + den) * 2 ^ up := by
        rw [Nat.shiftLeft_eq, Nat.one_mul] at large
        calc den * 2 ^ 202 * 2 ^ up
          _ = den * 2 ^ (202 + up) := by rw [Nat.mul_assoc, ← Nat.pow_add]
          _ ≤ den * 2 ^ (1024 + up) :=
              Nat.mul_le_mul_left den (Nat.pow_le_pow_right (by decide) (by omega))
          _ ≤ den * value := Nat.mul_le_mul_left den large
          _ ≤ (2 * num + den) * 2 ^ up := bound
      have unscaled := Nat.le_of_mul_le_mul_right scaled unit
      omega
    rw [if_neg finite]
    refine ⟨_, _, rfl, ?_, ?_⟩
    · rw [Nat.shiftLeft_eq, Nat.one_mul]
      exact Nat.two_pow_pos up
    · rw [Nat.shiftLeft_eq, Nat.one_mul, Nat.mul_comm]
      exact bound

theorem ofNat_one : ofNat 1 = fraction (1 <<< 52) (1 <<< 52) := by decide

/-- A number of at most 64 bits is far inside the range. -/
theorem ofNat_mul_one_finite {n : Nat} (small : n < UInt64.size) :
    (ofNat n).mul (ofNat 1) ≠ infinity := by
  have size : n < 2 ^ 64 := small
  have far : n < 1 <<< 200 := by
    rw [Nat.shiftLeft_eq]
    omega
  obtain ⟨a, b, rounded, proper, bound⟩ := round_finite Nat.one_pos far
  have product : a * 1 <<< 52 < (b * 1 <<< 52) <<< 200 := by
    have factor : (2 * n + 1) * b ≤ 2 ^ 65 * b := Nat.mul_le_mul_right b (by omega)
    simp only [Nat.shiftLeft_eq]
    omega
  obtain ⟨c, d, finite, -, -⟩ := round_finite (Nat.mul_pos proper (by decide)) product
  rw [ofNat, rounded, ofNat_one, mul, finite]
  exact Binary64.noConfusion

end BatchJob.Binary64
