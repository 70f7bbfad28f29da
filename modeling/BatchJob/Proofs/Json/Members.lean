import BatchJob.Proofs.Json.Record
import Mathlib.Data.List.Nodup

set_option autoImplicit false

/-!
Fields of structures as they are looked up. A field may be given by name or by position. In an
object from which members were removed, a field whose member is left has its value, in whatever
order the members stand, and a field whose member was removed has its default.
-/

namespace BatchJob.Json

/-- The value of a field of a structure, which gives it by name or by position. -/
def field? (name : String) (place : Nat) : Json → Option Json
  | .object members => members.lookup (some name)
  | .array items => items[place]?
  | _ => none

def items : Json → List Json
  | .array items => items
  | _ => []

theorem lookup_zip {names : List String} {name : String} (known : name ∈ names)
    (items : List Json) : (names.zip items).lookup name = items[names.idxOf name]? := by
  induction names generalizing items with
  | nil => cases known
  | cons first names ih =>
      cases items with
      | nil => rfl
      | cons j items =>
          rw [List.zip_cons_cons, List.lookup_cons, List.idxOf_cons]
          by_cases same : name = first
          · subst same
            simp only [beq_self_eq_true, cond_true, List.getElem?_cons_zero]
          · have other : (name == first) = false := beq_eq_false_iff_ne.mpr same
            have otherwise : (first == name) = false := beq_eq_false_iff_ne.mpr (Ne.symm same)
            have later : name ∈ names := (List.mem_cons.mp known).resolve_left same
            simp only [other, otherwise, cond_false, ih later, List.getElem?_cons_succ]

theorem find?_of_fields? {names : List String} {name : String} {j : Json} {f : Fields}
    (opened : j.fields? names = some f) (known : name ∈ names) :
    f.find? name = j.field? name (names.idxOf name) := by
  unfold fields? at opened
  split at opened
  · next items =>
    split at opened
    · cases opened
      exact lookup_zip known items
    · cases opened
  · next members =>
    split at opened
    · cases opened
      rfl
    · cases opened
  · cases opened

section

variable {α : Type} {members : List (String × α)} {name : String}

theorem lookup_eq_some_iff (distinct : (members.map (·.1)).Nodup) {a : α} :
    members.lookup name = some a ↔ (name, a) ∈ members := by
  induction members with
  | nil => simp
  | cons m rest ih =>
      obtain ⟨key, value⟩ := m
      rw [List.map_cons, List.nodup_cons] at distinct
      by_cases same : name = key
      · subst same
        have absent : (name, a) ∉ rest := fun member =>
          distinct.1 (List.mem_map.mpr ⟨(name, a), member, rfl⟩)
        rw [List.lookup_cons_self, List.mem_cons]
        simp only [absent, or_false, Option.some.injEq, Prod.mk.injEq, true_and]
        exact eq_comm
      · have other : (name == key) = false := beq_eq_false_iff_ne.mpr same
        simp only [List.lookup_cons, other, ih distinct.2, List.mem_cons, Prod.mk.injEq, same,
          false_and, false_or]

theorem nodup_of_removed {kept : List (String × α)} {removed : List String}
    (distinct : (members.map (·.1)).Nodup)
    (rest : kept.Perm (members.filter fun m => m.1 ∉ removed)) : (kept.map (·.1)).Nodup := by
  rw [(rest.map Prod.fst).nodup_iff]
  exact (List.Sublist.map Prod.fst List.filter_sublist).nodup distinct

/-- Names that are not removed are looked up as before, in whatever order the rest stands. -/
theorem lookup_of_removed {kept : List (String × α)} {removed : List String}
    (distinct : (members.map (·.1)).Nodup)
    (rest : kept.Perm (members.filter fun m => m.1 ∉ removed)) :
    kept.lookup name = if name ∈ removed then none else members.lookup name := by
  have names : (kept.map (·.1)).Nodup := nodup_of_removed distinct rest
  have left : ∀ a, kept.lookup name = some a ↔ (name, a) ∈ members ∧ name ∉ removed := by
    intro a
    rw [lookup_eq_some_iff names, rest.mem_iff, List.mem_filter, decide_eq_true_eq]
  apply Option.ext
  intro a
  rw [left]
  split
  · next gone => simp [gone]
  · next stays => rw [lookup_eq_some_iff distinct, and_iff_left stays]

end

theorem lookup_record (members : List (String × Json)) (name : String) :
    (members.map fun m => (some m.1, m.2)).lookup (some name) = members.lookup name := by
  induction members with
  | nil => rfl
  | cons m rest ih =>
      have same : (some name == some m.1) = (name == m.1) := rfl
      rw [List.map_cons, List.lookup_cons, List.lookup_cons, same, ih]

/-- An object with distinct names is opened, whatever the names of its fields are. -/
theorem fields?_record {members : List (String × Json)} (distinct : (members.map (·.1)).Nodup)
    (names : List String) :
    (record members).fields? names = some ⟨false, fun name => members.lookup name⟩ := by
  have texts : (members.map fun m => (some m.1, m.2)).all (·.1.isSome) = true := by
    rw [List.all_map]
    exact List.all_eq_true.mpr fun _ _ => rfl
  have once : names.all (fun name => decide (((members.map fun m => (some m.1, m.2)).filter
      (·.1 == some name)).length ≤ 1)) = true := by
    apply List.all_eq_true.mpr
    intro name _
    have count := List.nodup_iff_count_le_one.mp distinct name
    rw [List.count, List.countP_map, List.countP_eq_length_filter] at count
    rw [List.filter_map, List.length_map]
    exact decide_eq_true count
  change fields? _ (.object (members.map fun m => (some m.1, m.2))) = _
  simp only [fields?, texts, once, Bool.and_self, if_true, lookup_record]

/-- A field whose member may have been removed. -/
theorem Fields.optional_of_removed {α : Type} {f : Fields} {name : String} {read : Json → Option α}
    {removed : List String} {j : Json} {default a : α}
    (here : f.find? name = if name ∈ removed then none else some j) (value : read j = some a) :
    f.optional name default read = some (if name ∈ removed then default else a) := by
  by_cases gone : name ∈ removed
  · rw [if_pos gone] at here ⊢
    rw [optional, here]
  · rw [if_neg gone] at here ⊢
    exact optional_of_present here value

end BatchJob.Json
