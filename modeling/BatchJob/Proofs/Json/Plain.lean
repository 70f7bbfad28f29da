import BatchJob.Proofs.Binary64
import BatchJob.Proofs.Json.Trees

set_option autoImplicit false

/-!
The trees that structures are written as: they are read as they were printed, and are left as they
are when they are settled.
-/

namespace BatchJob.Json

/-- A tree of texts, numbers of 64 bits, and objects without repeated names, in which at most so
many arrays and objects stand inside each other. -/
inductive Plain : Nat → Json → Prop where
  | null {levels : Nat} : Plain levels .null
  | bool {levels : Nat} (b : Bool) : Plain levels (.bool b)
  | nat {levels n : Nat} (small : n < UInt64.size) : Plain levels (.nat n)
  | text {levels : Nat} (s : String) : Plain levels (.text s)
  | array {levels : Nat} {items : List Json} (all : ∀ j ∈ items, Plain levels j) :
      Plain (levels + 1) (.array items)
  | record {levels : Nat} {members : List (String × Json)}
      (distinct : (members.map (·.1)).Nodup) (all : ∀ m ∈ members, Plain levels m.2) :
      Plain (levels + 1) (.record members)

theorem Plain.legible {layout : Layout} (blank : layout.Blank) {levels : Nat} {j : Json}
    (plain : Plain levels j) : Legible layout j := by
  induction plain with
  | null => exact legible_null
  | bool b => exact legible_bool b
  | nat small => exact legible_nat _
  | text s => exact legible_string (some s)
  | array all ih => exact legible_array blank ih
  | record distinct all ih =>
      apply legible_object blank
      intro m member
      obtain ⟨named, within, rfl⟩ := List.mem_map.mp member
      exact ih named within

/-- A plain tree is read as it was printed. -/
theorem Plain.parse?_pretty {levels : Nat} {j : Json} (plain : Plain levels j) :
    parse? j.pretty = some j :=
  parse?_of_legible (plain.legible blank_indented)

/-- The text of a plain tree may be ended by a line break. -/
theorem Plain.parse?_line {levels : Nat} {j : Json} (plain : Plain levels j) :
    parse? (j.pretty ++ "\n") = some j := by
  have text : j.pretty ++ "\n" = String.ofList (print .indented 0 j ++ ['\n']) := by
    rw [String.ofList_append]
    rfl
  rw [text]
  exact parse?_append_of_legible (plain.legible blank_indented) rfl

/-- Digits of a number below `2 ^ 64` are all taken. -/
theorem absorb_digits {significand : Nat} {digits : List Char}
    (small : Nat.ofDigitChars 10 digits significand < UInt64.size) :
    Numeral.absorb significand digits =
      (Nat.ofDigitChars 10 digits significand, digits.length) := by
  induction digits generalizing significand with
  | nil => rfl
  | cons c rest ih =>
      rw [Nat.ofDigitChars_cons, Nat.mul_comm 10] at small
      have next := Nat.lt_of_le_of_lt (Text.le_ofDigitChars rest _) small
      simp only [Numeral.absorb, next, if_true, ih small, Nat.ofDigitChars_cons, Nat.mul_comm 10,
        List.length_cons]

theorem inRange_ofNat {n : Nat} (small : n < UInt64.size) : (Numeral.ofNat n).inRange = true := by
  have whole := Nat.ofDigitChars_ten_toDigits (n := n)
  have absorbed : Numeral.absorb 0 (Nat.toDigits 10 n) = (n, (Nat.toDigits 10 n).length) := by
    rw [absorb_digits (by rwa [whole]), whole]
  have finite := Binary64.ofNat_mul_one_finite small
  simp only [Numeral.inRange, Numeral.ofNat, absorbed, Option.getD_none, Numeral.absorb,
    Nat.sub_self]
  by_cases zero : n = 0
  · rw [zero]
    rfl
  · simp only [zero]
    exact bne_iff_ne.mpr finite

theorem lastOfEach_of_nodup {α : Type} {members : List (Option String × α)}
    (distinct : (members.map (·.1)).Nodup) : lastOfEach members = members := by
  induction members with
  | nil => rfl
  | cons m rest ih =>
      rw [List.map_cons, List.nodup_cons] at distinct
      have alone : rest.any (·.1 == m.1) = false := by
        rw [List.any_eq_false]
        intro x member same
        exact distinct.1 (List.mem_map.mpr ⟨x, member, beq_iff_eq.mp same⟩)
      rw [lastOfEach, ih distinct.2, alone]
      rfl

theorem settleItems?_of_settled {levels : Nat} {items : List Json}
    (all : ∀ j ∈ items, settle? levels j = some j) : settleItems? levels items = some items := by
  induction items with
  | nil => rfl
  | cons j rest ih =>
      have first := all j List.mem_cons_self
      have others := ih fun i member => all i (List.mem_cons_of_mem j member)
      rw [settleItems?, first, others]
      rfl

theorem settleMembers?_of_settled {levels : Nat} {members : List (Option String × Json)}
    (all : ∀ m ∈ members, m.1.isSome = true ∧ settle? levels m.2 = some m.2) :
    settleMembers? levels members = some members := by
  induction members with
  | nil => rfl
  | cons m rest ih =>
      obtain ⟨name, j⟩ := m
      obtain ⟨named, first⟩ := all (name, j) List.mem_cons_self
      have others := ih fun i member => all i (List.mem_cons_of_mem _ member)
      obtain ⟨name, rfl⟩ := Option.isSome_iff_exists.mp named
      rw [settleMembers?, first, others]
      rfl

/-- A plain tree is a general value as it is. -/
theorem Plain.settle?_eq {levels : Nat} {j : Json} (plain : Plain levels j) :
    settle? levels j = some j := by
  induction plain with
  | null => rfl
  | bool b => rfl
  | nat small =>
      rw [Json.nat, settle?, inRange_ofNat small]
      rfl
  | text s => rfl
  | array all ih => rw [settle?, if_neg (Nat.succ_ne_zero _), Nat.add_sub_cancel,
      settleItems?_of_settled ih, Option.map_some]
  | @record levels members distinct all ih =>
      let written : List (Option String × Json) := members.map fun m => (some m.1, m.2)
      have settled : settleMembers? levels written = some written := by
        apply settleMembers?_of_settled
        intro m member
        obtain ⟨named, within, rfl⟩ := List.mem_map.mp member
        exact ⟨rfl, ih named within⟩
      have names : (written.map (·.1)).Nodup := by
        have wrapped : ((members.map (·.1)).map some).Nodup :=
          List.Pairwise.map some (fun _ _ different same => different (Option.some.inj same))
            distinct
        rw [List.map_map] at wrapped ⊢
        exact wrapped
      change settle? (levels + 1) (.object written) = some (.object written)
      rw [settle?, if_neg (Nat.succ_ne_zero _), Nat.add_sub_cancel, settled, Option.map_some,
        lastOfEach_of_nodup names]

end BatchJob.Json
