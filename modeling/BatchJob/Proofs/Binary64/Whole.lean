import BatchJob.Binary64
import Mathlib.Tactic.Ring

set_option autoImplicit false

/-!
Natural numbers up to `2 ^ 53` are double-precision numbers: their sums and products are not rounded
as long as they stay in this range.
-/

namespace BatchJob

theorem roundDiv_mul (q : Nat) {d : Nat} (positive : 0 < d) : roundDiv (q * d) d = q := by
  have exact : q * d / d = q := Nat.mul_div_cancel q positive
  simp only [roundDiv, exact, Nat.mul_mod_left, Nat.mul_zero, positive, if_true]

namespace Binary64

def IsNat (x : Binary64) (n : Nat) : Prop :=
  ∃ b, 0 < b ∧ x = fraction (n * b) b

/-- What the product is divided by before it is rounded divides the number. -/
theorem pow_scaling_dvd {n d : Nat} (filled : 0 < n) (proper : 0 < d) (small : n ≤ 2 ^ 53) :
    2 ^ (scaling (n * d) d).2 ∣ n := by
  have floor : 2 ^ d.log2 ≤ d := Nat.log2_self_le (Nat.ne_of_gt proper)
  have ceiling : d < 2 ^ (d.log2 + 1) := Nat.lt_log2_self
  have product : n * d ≠ 0 := Nat.ne_of_gt (Nat.mul_pos filled proper)
  rcases Nat.lt_or_eq_of_le small with less | rfl
  · have size : (n * d).log2 < 54 + d.log2 := by
      rw [Nat.log2_lt product]
      calc n * d
        _ < 2 ^ 53 * d := Nat.mul_lt_mul_of_pos_right less proper
        _ ≤ 2 ^ 53 * 2 ^ (d.log2 + 1) := Nat.mul_le_mul_left _ (Nat.le_of_lt ceiling)
        _ = 2 ^ (54 + d.log2) := by rw [← Nat.pow_add]; congr 1; omega
    have zero : (scaling (n * d) d).2 = 0 := by
      by_cases fits : (n * d).log2 ≤ 52 + d.log2
      · have none : (n * d).log2 - (52 + d.log2) = 0 := by omega
        simp only [scaling, none, if_true]
        split <;> rfl
      · -- one bit too many in the logarithms, but not in the quotient
        have up : 52 + d.log2 - (n * d).log2 = 0 := by omega
        have down : (n * d).log2 - (52 + d.log2) = 1 := by omega
        have quotient : n * d / (d <<< 1) < 1 <<< 52 := by
          rw [Nat.div_lt_iff_lt_mul (by rw [Nat.shiftLeft_eq]; omega), Nat.shiftLeft_eq,
            Nat.shiftLeft_eq]
          calc n * d
            _ < 2 ^ 53 * d := Nat.mul_lt_mul_of_pos_right less proper
            _ = 1 * 2 ^ 52 * (d * 2 ^ 1) := by omega
        simp only [scaling, up, down, Nat.shiftLeft_zero, quotient, if_true, Nat.one_ne_zero,
          if_false, Nat.sub_self]
    rw [zero]
    exact Nat.one_dvd n
  · have size : (2 ^ 53 * d).log2 = 53 + d.log2 := by
      rw [Nat.log2_eq_iff product]
      constructor
      · rw [Nat.pow_add]
        exact Nat.mul_le_mul_left _ floor
      · rw [Nat.add_assoc, Nat.pow_add]
        exact Nat.mul_lt_mul_of_pos_left ceiling (by decide)
    have down : (2 ^ 53 * d).log2 - (52 + d.log2) = 1 := by omega
    have most : (scaling (2 ^ 53 * d) d).2 ≤ 1 := by
      simp only [scaling, down, Nat.one_ne_zero, if_false]
      split
      · exact Nat.zero_le 1
      · exact Nat.le_refl 1
    exact Nat.pow_dvd_pow 2 (Nat.le_trans most (by decide))

/-- A quotient that is a number up to `2 ^ 53` is not rounded. -/
theorem isNat_round {n d : Nat} (proper : 0 < d) (small : n ≤ 2 ^ 53) :
    (round (n * d) d).IsNat n := by
  rcases Nat.eq_zero_or_pos n with rfl | filled
  · refine ⟨1, by decide, ?_⟩
    rw [round, if_pos (Nat.zero_mul d)]
  · obtain ⟨q, whole⟩ := pow_scaling_dvd filled proper small
    have product : n * d ≠ 0 := Nat.ne_of_gt (Nat.mul_pos filled proper)
    rw [round, if_neg product]
    dsimp only
    generalize (scaling (n * d) d).1 = up
    generalize (scaling (n * d) d).2 = down at *
    have significand : roundDiv ((n * d) <<< up) (d <<< down) = q * 2 ^ up := by
      have scaled : (n * d) <<< up = q * 2 ^ up * (d <<< down) := by
        rw [Nat.shiftLeft_eq, Nat.shiftLeft_eq, whole]
        ring
      rw [scaled]
      exact roundDiv_mul _ (by rw [Nat.shiftLeft_eq]; exact Nat.mul_pos proper (Nat.two_pow_pos _))
    have value : (q * 2 ^ up) <<< down = n * 2 ^ up := by
      rw [Nat.shiftLeft_eq, whole]
      ring
    have finite : ¬ 1 <<< (1024 + up) ≤ n * 2 ^ up := by
      rw [Nat.shiftLeft_eq, Nat.one_mul, Nat.not_le]
      calc n * 2 ^ up
        _ ≤ 2 ^ 53 * 2 ^ up := Nat.mul_le_mul_right _ small
        _ = 2 ^ (53 + up) := (Nat.pow_add 2 53 up).symm
        _ < 2 ^ (1024 + up) := Nat.pow_lt_pow_right (by decide) (by omega)
    rw [significand, value, if_neg finite, Nat.shiftLeft_eq, Nat.one_mul]
    exact ⟨2 ^ up, Nat.two_pow_pos up, rfl⟩

theorem isNat_ofNat {n : Nat} (small : n ≤ 2 ^ 53) : (ofNat n).IsNat n := by
  have whole := isNat_round Nat.one_pos small
  rwa [Nat.mul_one] at whole

theorem IsNat.add {x y : Binary64} {m n : Nat} (left : x.IsNat m) (right : y.IsNat n)
    (small : m + n ≤ 2 ^ 53) : (x.add y).IsNat (m + n) := by
  obtain ⟨b, properLeft, rfl⟩ := left
  obtain ⟨d, properRight, rfl⟩ := right
  have sum : m * b * d + n * d * b = (m + n) * (b * d) := by ring
  rw [Binary64.add, sum]
  exact isNat_round (Nat.mul_pos properLeft properRight) small

theorem IsNat.mul {x y : Binary64} {m n : Nat} (left : x.IsNat m) (right : y.IsNat n)
    (small : m * n ≤ 2 ^ 53) : (x.mul y).IsNat (m * n) := by
  obtain ⟨b, properLeft, rfl⟩ := left
  obtain ⟨d, properRight, rfl⟩ := right
  have product : m * b * (n * d) = m * n * (b * d) := by ring
  rw [Binary64.mul, product]
  exact isNat_round (Nat.mul_pos properLeft properRight) small

theorem IsNat.nearest? {x : Binary64} {n : Nat} (whole : x.IsNat n) :
    x.nearest? = some n := by
  obtain ⟨b, proper, rfl⟩ := whole
  rw [Binary64.nearest?, roundDiv_mul n proper]

end Binary64

end BatchJob
