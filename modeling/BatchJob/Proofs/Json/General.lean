import BatchJob.Proofs.Json.Record
import BatchJob.Proofs.Trace

set_option autoImplicit false

/-!
General values: trees that can be settled. A structure is read off a settled value as it is read off
the tree itself, because a field may be named only once and so keeps its value.
-/

namespace BatchJob.Json

open Traced (mapM_eq_some_iff exists_mapM_eq_some_iff)

/-- A tree whose strings are all texts and whose numbers are all in range, in which at most so many
arrays and objects stand inside each other. -/
inductive General : Nat → Json → Prop where
  | null {levels : Nat} : General levels .null
  | bool {levels : Nat} (b : Bool) : General levels (.bool b)
  | number {levels : Nat} {n : Numeral} (inRange : n.inRange = true) : General levels (.number n)
  | text {levels : Nat} (s : String) : General levels (.text s)
  | array {levels : Nat} {items : List Json} (all : ∀ j ∈ items, General levels j) :
      General (levels + 1) (.array items)
  | object {levels : Nat} {members : List (Option String × Json)}
      (named : ∀ m ∈ members, m.1.isSome = true) (all : ∀ m ∈ members, General levels m.2) :
      General (levels + 1) (.object members)

def settleMember? (levels : Nat) (m : Option String × Json) : Option (Option String × Json) := do
  let name ← m.1
  let j ← settle? levels m.2
  some (some name, j)

theorem settleMember?_eq_some_iff {levels : Nat} {m settled : Option String × Json} :
    settleMember? levels m = some settled ↔
      m.1.isSome = true ∧ settled.1 = m.1 ∧ settle? levels m.2 = some settled.2 := by
  obtain ⟨name, j⟩ := m
  obtain ⟨kept, v⟩ := settled
  cases name with
  | none => simp [settleMember?]
  | some name =>
      cases settled : settle? levels j with
      | none => simp [settleMember?, settled]
      | some w => simp [settleMember?, settled, eq_comm]

theorem settleItems?_eq (levels : Nat) (items : List Json) :
    settleItems? levels items = items.mapM (settle? levels) := by
  induction items with
  | nil => rfl
  | cons j rest ih =>
      rw [settleItems?, List.mapM_cons, ih]
      rfl

theorem settleMembers?_eq (levels : Nat) (members : List (Option String × Json)) :
    settleMembers? levels members = members.mapM (settleMember? levels) := by
  induction members with
  | nil => rfl
  | cons m rest ih =>
      obtain ⟨name, j⟩ := m
      rw [List.mapM_cons, ← ih]
      cases name with
      | none => rfl
      | some name =>
          rw [settleMembers?, settleMember?]
          cases settle? levels j <;> rfl

@[simp] theorem settle?_array (levels : Nat) (items : List Json) :
    settle? (levels + 1) (.array items) = (items.mapM (settle? levels)).map .array := by
  rw [settle?, if_neg (Nat.succ_ne_zero levels), Nat.add_sub_cancel, settleItems?_eq]

@[simp] theorem settle?_object (levels : Nat) (members : List (Option String × Json)) :
    settle? (levels + 1) (.object members) =
      (members.mapM (settleMember? levels)).map fun ms => .object (lastOfEach ms) := by
  rw [settle?, if_neg (Nat.succ_ne_zero levels), Nat.add_sub_cancel, settleMembers?_eq]

/-- A value and what it is settled to: a nested value part by part, any other as it is. -/
inductive Settled : Nat → Json → Json → Prop where
  | null {levels : Nat} : Settled levels .null .null
  | bool {levels : Nat} (b : Bool) : Settled levels (.bool b) (.bool b)
  | number {levels : Nat} {n : Numeral} (inRange : n.inRange = true) :
      Settled levels (.number n) (.number n)
  | text {levels : Nat} (s : String) : Settled levels (.text s) (.text s)
  | array {levels : Nat} {items settled : List Json}
      (each : List.Forall₂ (fun j v => settle? levels j = some v) items settled) :
      Settled (levels + 1) (.array items) (.array settled)
  | object {levels : Nat} {members settled : List (Option String × Json)}
      (each : List.Forall₂ (fun m s => settleMember? levels m = some s) members settled) :
      Settled (levels + 1) (.object members) (.object (lastOfEach settled))

theorem settled_of_settle? {levels : Nat} {j v : Json} (success : settle? levels j = some v) :
    Settled levels j v := by
  cases j with
  | null => cases success; exact .null
  | bool b => cases success; exact .bool b
  | number n =>
      rw [settle?] at success
      split at success
      · cases success
        exact .number ‹_›
      · cases success
  | string text =>
      cases text with
      | none => cases success
      | some s => cases success; exact .text s
  | array items =>
      cases levels with
      | zero => cases success
      | succ levels =>
          rw [settle?_array] at success
          obtain ⟨settled, each, rfl⟩ := Option.map_eq_some_iff.mp success
          exact .array (mapM_eq_some_iff.mp each)
  | object members =>
      cases levels with
      | zero => cases success
      | succ levels =>
          rw [settle?_object] at success
          obtain ⟨settled, each, rfl⟩ := Option.map_eq_some_iff.mp success
          exact .object (mapM_eq_some_iff.mp each)

/-- A nested value hands on one level less to its parts, so the induction is on the levels. -/
theorem general_of_settle? {levels : Nat} {j v : Json} (success : settle? levels j = some v) :
    General levels j := by
  induction levels using Nat.strongRecOn generalizing j v with
  | ind levels ih =>
      cases settled_of_settle? success with
      | null => exact .null
      | bool b => exact .bool b
      | number inRange => exact .number inRange
      | text s => exact .text s
      | array each =>
          have parts := exists_mapM_eq_some_iff.mp ⟨_, mapM_eq_some_iff.mpr each⟩
          refine .array fun j member => ?_
          obtain ⟨v, settled⟩ := parts j member
          exact ih _ (Nat.lt_succ_self _) settled
      | object each =>
          have parts := exists_mapM_eq_some_iff.mp ⟨_, mapM_eq_some_iff.mpr each⟩
          simp only [settleMember?_eq_some_iff] at parts
          refine .object (fun m member => ?_) fun m member => ?_
          · obtain ⟨s, named, -⟩ := parts m member
            exact named
          · obtain ⟨s, -, -, settled⟩ := parts m member
            exact ih _ (Nat.lt_succ_self _) settled

theorem General.exists_settle? {levels : Nat} {j : Json} (general : General levels j) :
    ∃ v, settle? levels j = some v := by
  induction general with
  | null => exact ⟨_, rfl⟩
  | bool b => exact ⟨_, rfl⟩
  | number inRange => exact ⟨_, by rw [settle?, if_pos inRange]⟩
  | text s => exact ⟨_, rfl⟩
  | array all ih =>
      obtain ⟨settled, each⟩ := exists_mapM_eq_some_iff.mpr ih
      exact ⟨_, by rw [settle?_array, each]; rfl⟩
  | @object levels members named all ih =>
      have parts : ∀ m ∈ members, ∃ s, settleMember? levels m = some s := by
        intro m member
        obtain ⟨v, settled⟩ := ih m member
        exact ⟨(m.1, v), settleMember?_eq_some_iff.mpr ⟨named m member, rfl, settled⟩⟩
      obtain ⟨settled, each⟩ := exists_mapM_eq_some_iff.mpr parts
      exact ⟨_, by rw [settle?_object, each]; rfl⟩

/-- The values that can be settled are the general ones. -/
theorem exists_settle?_iff {levels : Nat} {j : Json} :
    (∃ v, settle? levels j = some v) ↔ General levels j :=
  ⟨fun ⟨_, success⟩ => general_of_settle? success, General.exists_settle?⟩

section

variable {α : Type} {key : Option String}

theorem any_lastOfEach (members : List (Option String × α)) :
    (lastOfEach members).any (·.1 == key) = members.any (·.1 == key) := by
  induction members with
  | nil => rfl
  | cons m rest ih =>
      rw [lastOfEach, List.any_cons]
      split
      · next repeated =>
        -- A member is dropped only if a later one has its name.
        by_cases same : m.1 = key
        · subst same
          rw [repeated, beq_self_eq_true, Bool.true_or]
        · rw [ih, beq_eq_false_iff_ne.mpr same, Bool.false_or]
      · rw [List.any_cons, ih]

theorem lastOfEach_sublist (members : List (Option String × α)) :
    (lastOfEach members).Sublist members := by
  induction members with
  | nil => exact .slnil
  | cons m rest ih =>
      rw [lastOfEach]
      split
      · exact ih.cons m
      · exact ih.cons_cons m

theorem length_filter_lastOfEach (members : List (Option String × α)) :
    ((lastOfEach members).filter (·.1 == key)).length ≤ 1 := by
  induction members with
  | nil => exact Nat.zero_le 1
  | cons m rest ih =>
      rw [lastOfEach]
      split
      · exact ih
      · next new =>
        by_cases same : m.1 = key
        · have none : (lastOfEach rest).filter (·.1 == key) = [] := by
            rw [List.filter_eq_nil_iff]
            rw [Bool.not_eq_true, List.any_eq_false] at new
            simpa only [same] using new
          rw [List.filter_cons, none]
          split <;> simp
        · simpa [List.filter_cons, same] using ih

/-- A name that occurs once keeps its value. -/
theorem lookup_lastOfEach {members : List (Option String × α)}
    (once : (members.filter (·.1 == key)).length ≤ 1) :
    (lastOfEach members).lookup key = members.lookup key := by
  induction members with
  | nil => rfl
  | cons m rest ih =>
      obtain ⟨name, value⟩ := m
      rw [lastOfEach]
      by_cases same : key = name
      · subst same
        have last : rest.any (·.1 == key) = false := by
          simp only [List.filter_cons, beq_self_eq_true, if_true, List.length_cons] at once
          rw [List.any_eq_false]
          intro m member found
          have filled : 0 < (rest.filter (·.1 == key)).length :=
            List.length_pos_of_mem (List.mem_filter.mpr ⟨member, found⟩)
          omega
        simp only [any_lastOfEach, last, Bool.false_eq_true, if_false, List.lookup_cons_self]
      · have other : (key == name) = false := beq_eq_false_iff_ne.mpr same
        have later : (rest.filter (·.1 == key)).length ≤ 1 := by
          refine Nat.le_trans (List.Sublist.length_le ?_) once
          exact (List.sublist_cons_self (name, value) rest).filter _
        rw [List.lookup_cons, other]
        split
        · exact ih later
        · rw [List.lookup_cons, other]
          exact ih later

end

end BatchJob.Json
