import BatchJob.Proofs.Binary64.Whole
import BatchJob.Proofs.Duration.Spelling
import BatchJob.Proofs.Text.Characters
import Mathlib.Data.List.TakeWhile

set_option autoImplicit false

/-!
Whole seconds, up to `2 ^ 53` of them, are written exactly and read back.
-/

namespace BatchJob

theorem Text.trim_of_solid {s : List Char} (solid : ∀ c ∈ s, isBlank c = false) : trim s = s := by
  have starts : s.dropWhile isBlank = s :=
    List.dropWhile_eq_self_iff.mpr fun h => Bool.eq_false_iff.mp (solid _ (List.getElem_mem h))
  have ends : s.reverse.dropWhile isBlank = s.reverse :=
    List.dropWhile_eq_self_iff.mpr fun h =>
      Bool.eq_false_iff.mp (solid _ (List.mem_reverse.mp (List.getElem_mem h)))
  rw [trim, starts, dropEndWhile, ends, List.reverse_reverse]

namespace Duration

variable {d : Duration} {n : Nat}

theorem format_of_whole (whole : d.nanoseconds = n * perSecond) (small : n ≤ 2 ^ 53) :
    d.format = String.ofList (Nat.toDigits 10 n ++ ['s']) := by
  have seconds : d.seconds = n := by
    rw [Duration.seconds, whole]
    exact Nat.mul_div_cancel n (by decide)
  have rest : d.subsecond = 0 := by
    rw [Duration.subsecond, whole]
    exact Nat.mul_mod_left n perSecond
  have exact : d.inSeconds.IsNat n := by
    have nothing : (Binary64.round 0 perSecond).IsNat 0 := ⟨1, by decide, rfl⟩
    rw [Duration.inSeconds, seconds, rest]
    exact (Binary64.isNat_ofNat small).add nothing small
  rw [Duration.format, Duration.roundedSeconds, exact.nearest?, Option.getD_some]

theorem components?_seconds (n : Nat) :
    components? (Nat.toDigits 10 n ++ ['s']) = some [⟨Nat.toDigits 10 n, none, .s⟩] := by
  have plain : (Component.mk (Nat.toDigits 10 n) none .s).Plain :=
    ⟨Text.isDigit_toDigits n, List.forall_mem_nil _,
      List.append_ne_nil_of_left_ne_nil Nat.toDigits_ne_nil _⟩
  refine components?_eq_some_iff.mpr ⟨?_, List.forall_mem_singleton.mpr plain⟩
  rw [List.flatMap_singleton, Component.text_eq]
  rfl

theorem ofParts?_nanoseconds (d : Duration) : ofParts? 0 d.nanoseconds = some d := by
  have total : 0 * perSecond + d.nanoseconds = d.nanoseconds := by
    rw [Nat.zero_mul, Nat.zero_add]
  simp only [ofParts?, total, d.lt_limit, dite_true]

theorem ofComponents?_seconds (whole : d.nanoseconds = n * perSecond) (small : n ≤ 2 ^ 53) :
    ofComponents? [⟨Nat.toDigits 10 n, none, .s⟩] = some d := by
  have part : (Component.mk (Nat.toDigits 10 n) none .s).inSeconds.IsNat n := by
    have value : (Binary64.round n 1).IsNat n := Binary64.isNat_ofNat small
    have scaled := value.mul (Binary64.isNat_ofNat (show 1 ≤ 2 ^ 53 by decide)) (by omega)
    rw [Nat.mul_one] at scaled
    rw [Component.inSeconds, Option.getD_none, List.append_nil, Nat.ofDigitChars_ten_toDigits]
    exact scaled
  have nothing : (Binary64.fraction 0 1).IsNat 0 := ⟨1, by decide, rfl⟩
  obtain ⟨b, proper, sum⟩ := nothing.add part (by omega : 0 + n ≤ 2 ^ 53)
  have below : ¬ UInt64.size * b ≤ n * b := by
    have limit : n < UInt64.size := Nat.lt_of_le_of_lt small (by decide)
    rw [Nat.not_le]
    exact Nat.mul_lt_mul_of_pos_right limit proper
  have nanoseconds : roundDiv (n * b * perSecond) b = d.nanoseconds := by
    rw [Nat.mul_right_comm, ← whole]
    exact roundDiv_mul _ proper
  rw [Nat.zero_add] at sum
  rw [ofComponents?, List.foldl_cons, List.foldl_nil, sum]
  simp only [below, if_false, nanoseconds, ofParts?_nanoseconds]

/-- Whole seconds are read back from their notation. -/
theorem parse_format (whole : d.nanoseconds = n * perSecond) (small : n ≤ 2 ^ 53) :
    parse d.format.toList = .ok d := by
  have solid : ∀ c ∈ Nat.toDigits 10 n ++ ['s'], Text.isBlank c = false := by
    intro c member
    rcases List.mem_append.mp member with digit | unit
    · have bounds := Text.toNat_of_isDigit (Text.isDigit_toDigits n c digit)
      exact Text.isBlank_eq_false (by omega) (by omega)
    · rw [List.mem_singleton.mp unit]
      rfl
  have unit : Nat.toDigits 10 n ++ ['s'] ≠ ['0'] := by
    intro same
    have last := congrArg List.getLast? same
    rw [List.getLast?_concat] at last
    cases last
  rw [format_of_whole whole small, String.toList_ofList]
  simp only [parse, Text.trim_of_solid solid, unit, if_false, components?_seconds,
    ofComponents?_seconds whole small]

end Duration

end BatchJob
