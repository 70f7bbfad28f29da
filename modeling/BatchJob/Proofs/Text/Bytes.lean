import Mathlib.Algebra.Group.Nat.Defs
import Mathlib.Tactic.SplitIfs

set_option autoImplicit false

/-!
The order of texts by their characters is the order of their bytes in UTF-8. The first byte of an
encoded character tells how many follow, and grows with the character; the others hold six bits of
its number each, the upper ones first.
-/

namespace BatchJob.Text

def bytes (s : String) : List UInt8 := s.toUTF8.data.toList

theorem bytes_eq (s : String) : bytes s = s.toList.flatMap String.utf8EncodeChar := by
  have encoded : s.toUTF8 = s.toList.utf8Encode := by
    rw [String.toUTF8_eq_toByteArray, ← String.toByteArray_ofList, String.ofList_toList]
  rw [bytes, encoded, List.utf8Encode, List.data_toByteArray]

/-- How many bytes follow the first one of an encoded character. -/
def followers (v : Nat) : Nat :=
  if v ≤ 127 then 0 else if v ≤ 2047 then 1 else if v ≤ 65535 then 2 else 3

/-- The first byte of an encoded character. -/
def leader (v : Nat) : Nat :=
  if v ≤ 127 then v else if v ≤ 2047 then v / 64 + 192
  else if v ≤ 65535 then v / 4096 + 224 else v / 262144 + 240

/-- The last bytes of an encoded character. -/
def lastBytes : Nat → Nat → List UInt8
  | 0, _ => []
  | count + 1, v => UInt8.ofNat (v / 64 ^ count % 64 + 128) :: lastBytes count v

theorem toNat_lt (c : Char) : c.val.toNat < 1114112 := by
  rcases c.valid with small | ⟨-, large⟩
  · exact Nat.lt_trans small (by decide)
  · exact large

theorem encode_eq (c : Char) : String.utf8EncodeChar c =
    UInt8.ofNat (leader c.val.toNat) :: lastBytes (followers c.val.toNat) c.val.toNat := by
  have bound := toNat_lt c
  simp only [String.utf8EncodeChar, leader, followers]
  split_ifs with one two three
  · rfl
  · rw [Nat.mod_eq_of_lt (by omega : c.val.toNat / 64 < 32)]
    simp only [lastBytes, Nat.pow_zero, Nat.div_one]
  · rw [Nat.mod_eq_of_lt (by omega : c.val.toNat / 4096 < 16)]
    simp only [lastBytes, Nat.pow_zero, Nat.div_one, Nat.pow_one]
  · rw [Nat.mod_eq_of_lt (by omega : c.val.toNat / 262144 < 8)]
    simp only [lastBytes, Nat.pow_zero, Nat.div_one, Nat.pow_one, Nat.reducePow]

theorem leader_lt {v : Nat} (bound : v < 1114112) : leader v < UInt8.size := by
  unfold leader UInt8.size
  split_ifs <;> omega

/-- A greater character has a greater first byte, or the same one and more in the others. -/
theorem leader_lt_or {v w : Nat} (less : v < w) (bound : w < 1114112) :
    leader v < leader w ∨ leader v = leader w ∧ followers v = followers w ∧
      v % 64 ^ followers v < w % 64 ^ followers v := by
  unfold leader followers
  split_ifs <;> omega

theorem lastBytes_lt {count v w : Nat} (less : v % 64 ^ count < w % 64 ^ count)
    (x y : List UInt8) : lastBytes count v ++ x < lastBytes count w ++ y := by
  induction count with
  | zero =>
      rw [Nat.pow_zero, Nat.mod_one, Nat.mod_one] at less
      exact absurd less (Nat.lt_irrefl 0)
  | succ count ih =>
      have small (u : Nat) : u / 64 ^ count % 64 + 128 < UInt8.size := by
        have digit := Nat.mod_lt (u / 64 ^ count) (by decide : 64 > 0)
        exact Nat.lt_trans (Nat.add_lt_add_right digit 128) (by decide)
      rw [Nat.mod_pow_succ, Nat.mod_pow_succ] at less
      rw [lastBytes, lastBytes, List.cons_append, List.cons_append, List.cons_lt_cons_iff]
      rcases Nat.lt_trichotomy (v / 64 ^ count % 64) (w / 64 ^ count % 64) with above | same | below
      · left
        exact (UInt8.ofNat_lt_iff_lt (small v) (small w)).mpr (Nat.add_lt_add_right above 128)
      · rw [same] at less ⊢
        exact .inr ⟨rfl, ih (Nat.lt_of_add_lt_add_right less)⟩
      · have least := Nat.mod_lt w (Nat.pow_pos (by decide) : 0 < 64 ^ count)
        have more := Nat.mul_le_mul_left (64 ^ count) below
        rw [Nat.mul_succ] at more
        omega

/-- Encoded characters are in order, whatever follows them. -/
theorem encode_lt_encode {c d : Char} (less : c < d) (x y : List UInt8) :
    String.utf8EncodeChar c ++ x < String.utf8EncodeChar d ++ y := by
  have below : c.val.toNat < d.val.toNat := UInt32.lt_iff_toNat_lt.mp less
  have first := leader_lt (toNat_lt c)
  have second := leader_lt (toNat_lt d)
  rw [encode_eq, encode_eq, List.cons_append, List.cons_append, List.cons_lt_cons_iff]
  rcases leader_lt_or below (toNat_lt d) with leads | ⟨same, count, rest⟩
  · exact .inl ((UInt8.ofNat_lt_iff_lt first second).mpr leads)
  · rw [same, ← count]
    exact .inr ⟨rfl, lastBytes_lt rest x y⟩

theorem flatMap_encode_lt {s t : List Char} (less : List.Lex (· < ·) s t) :
    s.flatMap String.utf8EncodeChar < t.flatMap String.utf8EncodeChar := by
  induction less with
  | nil =>
      rw [List.flatMap_nil, List.flatMap_cons, encode_eq, List.cons_append]
      exact List.nil_lt_cons _ _
  | rel above =>
      rw [List.flatMap_cons, List.flatMap_cons]
      exact encode_lt_encode above _ _
  | cons _ ih =>
      rw [List.flatMap_cons, List.flatMap_cons]
      exact List.append_left_lt ih

/-- A lesser text has lesser bytes. -/
theorem bytes_lt_of_lt {s t : String} (less : s < t) : bytes s < bytes t := by
  rw [bytes_eq, bytes_eq]
  exact flatMap_encode_lt less

end BatchJob.Text
