import BatchJob.Json.Record
import BatchJob.Proofs.Dict
import BatchJob.Proofs.Json.Plain

set_option autoImplicit false

/-!
A structure written as an object is read back: the member of a field has its value, and a field
whose member was left out has its default.
-/

namespace BatchJob.Json

section

variable {α : Type} {read : Json → Option α} {write : α → Json}

theorem mapM_map {β : Type} {read : β → Option α} {write : α → β} {items : List α}
    (inverse : ∀ a ∈ items, read (write a) = some a) :
    (items.map write).mapM read = some items := by
  induction items with
  | nil => rfl
  | cons a rest ih =>
      have first := inverse a List.mem_cons_self
      have others := ih fun b member => inverse b (List.mem_cons_of_mem a member)
      rw [List.map_cons, List.mapM_cons, first, others]
      rfl

theorem list?_array {items : List α} (inverse : ∀ a ∈ items, read (write a) = some a) :
    list? read (.array (items.map write)) = some items :=
  mapM_map inverse

theorem list?_texts (items : List String) : list? text? (texts items) = some items :=
  list?_array fun _ _ => rfl

theorem dict?_ofDict (d : Dict α) (inverse : ∀ a, read (write a) = some a) :
    dict? read (ofDict write d) = some d := by
  have pairs : (d.entries.map fun entry => (some entry.1, write entry.2)).mapM
      (fun m : Option String × Json => do some (← m.1, ← read m.2)) = some d.entries := by
    apply mapM_map
    intro entry _
    simp only [inverse entry.2, Option.bind_eq_bind, Option.bind_some]
  rw [ofDict, record, List.map_map, dict?]
  refine (congrArg (Option.map Dict.ofList) pairs).trans ?_
  rw [Option.map_some, Dict.ofList_entries]

theorem dict?_texts (d : Dict String) : dict? text? (ofDict text d) = some d :=
  dict?_ofDict d fun _ => rfl

theorem word64?_nat (n : UInt64) : word64? (.nat n.toNat) = some n := by
  have small : decide (n.toNat < UInt64.size) = true := decide_eq_true n.toNat_lt
  simp only [word64?, natBelow?, Json.nat, Numeral.ofNat, Numeral.nat?, Option.isSome_none,
    Bool.or_false, Bool.false_eq_true, if_false, Option.filter_some, small, if_true,
    Option.map_some, UInt64.ofNat_toNat]

theorem word32?_nat (n : UInt32) : word32? (.nat n.toNat) = some n := by
  have small : decide (n.toNat < UInt32.size) = true := decide_eq_true n.toNat_lt
  simp only [word32?, natBelow?, Json.nat, Numeral.ofNat, Numeral.nat?, Option.isSome_none,
    Bool.or_false, Bool.false_eq_true, if_false, Option.filter_some, small, if_true,
    Option.map_some, UInt32.ofNat_toNat]

end

def membersOf (fields : List (String × Option Json)) : List (Option String × Json) :=
  (fields.filterMap fun (name, value) => value.map (name, ·)).map fun (name, value) =>
    (some name, value)

theorem membersOf_cons (name : String) (value : Option Json) (rest : List (String × Option Json)) :
    membersOf ((name, value) :: rest) =
      (value.map fun j => (some name, j)).toList ++ membersOf rest := by
  cases value <;> rfl

/-- What is not the name of a field is not the name of a member. -/
theorem name_ne_of_mem {name : String} {fields : List (String × Option Json)}
    (absent : name ∉ fields.map (·.1)) {m : Option String × Json} (member : m ∈ membersOf fields) :
    m.1 ≠ some name := by
  obtain ⟨entry, present, rfl⟩ := List.mem_map.mp member
  obtain ⟨⟨named, value⟩, field, written⟩ := List.mem_filterMap.mp present
  obtain ⟨j, rfl, rfl⟩ := Option.map_eq_some_iff.mp written
  intro same
  apply absent
  rw [← Option.some.inj same]
  exact List.mem_map.mpr ⟨(named, some j), field, rfl⟩

theorem lookup_membersOf {fields : List (String × Option Json)}
    (distinct : (fields.map (·.1)).Nodup) (name : String) :
    (membersOf fields).lookup (some name) = (fields.lookup name).join := by
  induction fields with
  | nil => rfl
  | cons field rest ih =>
      obtain ⟨named, value⟩ := field
      rw [List.map_cons, List.nodup_cons] at distinct
      have later := ih distinct.2
      rw [membersOf_cons, List.lookup_append]
      by_cases same : name = named
      · subst same
        rw [List.lookup_cons_self]
        cases value with
        | some j => simp only [Option.map_some, Option.toList_some, List.lookup_cons_self,
            Option.some_or, Option.join_some]
        | none =>
            have absent : (membersOf rest).lookup (some name) = none := by
              apply List.lookup_eq_none_iff.mpr
              intro m member
              exact bne_iff_ne.mpr (name_ne_of_mem distinct.1 member).symm
            exact absent
      · have other : (name == named) = false := beq_eq_false_iff_ne.mpr same
        have otherMember : (some name == some named) = false := other
        rw [List.lookup_cons, other, ← later]
        cases value with
        | some j => simp only [Option.map_some, Option.toList_some, List.lookup_cons,
            List.lookup_nil, otherMember, Option.none_or]
        | none => rfl

theorem length_filter_membersOf {fields : List (String × Option Json)}
    (distinct : (fields.map (·.1)).Nodup) (name : String) :
    ((membersOf fields).filter (·.1 == some name)).length ≤ 1 := by
  induction fields with
  | nil => exact Nat.zero_le 1
  | cons field rest ih =>
      obtain ⟨named, value⟩ := field
      rw [List.map_cons, List.nodup_cons] at distinct
      have later := ih distinct.2
      rw [membersOf_cons, List.filter_append, List.length_append]
      by_cases same : name = named
      · subst same
        have none : (membersOf rest).filter (·.1 == some name) = [] := by
          apply List.filter_eq_nil_iff.mpr
          intro m member equal
          exact name_ne_of_mem distinct.1 member (beq_iff_eq.mp equal)
        rw [none]
        cases value with
        | none => exact Nat.zero_le 1
        | some j => exact List.length_filter_le _ [(some name, j)]
      · have other : (some named == some name) = false := beq_eq_false_iff_ne.mpr fun equal =>
          same (Option.some.inj equal).symm
        cases value with
        | none => simpa using later
        | some j => simpa [other] using later

/-- A structure is opened with the values that it was written with. -/
theorem fields?_ofFields {fields : List (String × Option Json)} {names : List String}
    (named : fields.map (·.1) = names) (distinct : names.Nodup) :
    (ofFields fields).fields? names = some ⟨false, fun name => (fields.lookup name).join⟩ := by
  subst named
  have texts : (membersOf fields).all (·.1.isSome) = true := by
    apply List.all_eq_true.mpr
    intro m member
    obtain ⟨entry, -, rfl⟩ := List.mem_map.mp member
    rfl
  have once : (fields.map (·.1)).all (fun name => decide
      (((membersOf fields).filter (·.1 == some name)).length ≤ 1)) = true := by
    apply List.all_eq_true.mpr
    intro name _
    exact decide_eq_true (length_filter_membersOf distinct name)
  change fields? _ (.object (membersOf fields)) = _
  simp only [fields?, texts, once, Bool.and_self, if_true, lookup_membersOf distinct]

/-- Reads one field and goes on with the next. -/
theorem bind_of_some {α β : Type} {x : Option α} {next : α → Option β} {a : α} {r : Option β}
    (first : x = some a) (later : next a = r) : (x >>= next) = r := by
  rw [first]
  exact later

namespace Fields

variable {α : Type} {f : Fields} {name : String} {read : Json → Option α} {write : α → Json}

theorem required_of_present {j : Json} {a : α} (here : f.find? name = some j)
    (value : read j = some a) : f.required name read = some a := by
  rw [required, here]
  exact value

theorem optional_of_present {j : Json} {default a : α} (here : f.find? name = some j)
    (value : read j = some a) : f.optional name default read = some a := by
  rw [optional, here]
  exact value

/-- A value that is left out only when it is the default. -/
theorem optional_of_presentIf {wanted : Bool} {j : Json} {default a : α}
    (here : f.find? name = presentIf wanted j) (value : read j = some a)
    (unwanted : wanted = false → default = a) : f.optional name default read = some a := by
  rw [optional, here]
  cases wanted with
  | true => exact value
  | false => exact congrArg some (unwanted rfl)

theorem optional_of_bne [DecidableEq α] {j : Json} {default a : α}
    (here : f.find? name = presentIf (a != default) j) (value : read j = some a) :
    f.optional name default read = some a :=
  optional_of_presentIf here value fun same => (bne_eq_false_iff_eq.mp same).symm

theorem optional_bool {b : Bool} (here : f.find? name = presentIf b (.bool b)) :
    f.optional name false bool? = some b :=
  optional_of_presentIf here rfl fun same => same.symm

theorem optional_list {items : List α} {j : Json}
    (here : f.find? name = presentIf (!items.isEmpty) j) (value : list? read j = some items) :
    f.optional name [] (list? read) = some items := by
  refine optional_of_presentIf here value fun empty => ?_
  cases items with
  | nil => rfl
  | cons a rest => cases empty

theorem optional_dict {d : Dict α} {j : Json} (here : f.find? name = presentIf (!d.isEmpty) j)
    (value : dict? read j = some d) : f.optional name .empty (dict? read) = some d := by
  refine optional_of_presentIf here value fun empty => ?_
  obtain ⟨entries, sorted⟩ := d
  cases entries with
  | nil => rfl
  | cons entry rest => cases empty

theorem optional_nullable {x : Option String} (here : f.find? name = x.map text) :
    f.optional name none (nullable? text?) = some x := by
  rw [optional, here]
  cases x <;> rfl

end Fields

/-- Fields whose values are plain, in the ways in which structures write them. -/
inductive PlainFields (levels : Nat) : List (String × Option Json) → Prop where
  | nil : PlainFields levels []
  | present {name : String} {j : Json} {rest : List (String × Option Json)}
      (plain : Plain levels j) (later : PlainFields levels rest) :
      PlainFields levels ((name, some j) :: rest)
  | presentIf {name : String} {wanted : Bool} {j : Json} {rest : List (String × Option Json)}
      (plain : Plain levels j) (later : PlainFields levels rest) :
      PlainFields levels ((name, presentIf wanted j) :: rest)
  | nullable {name : String} {x : Option String} {rest : List (String × Option Json)}
      (later : PlainFields levels rest) : PlainFields levels ((name, x.map text) :: rest)

theorem PlainFields.plain {levels : Nat} {fields : List (String × Option Json)}
    (plain : PlainFields levels fields) :
    ∀ field ∈ fields, ∀ j, field.2 = some j → Plain levels j := by
  induction plain with
  | nil =>
      intro field member
      cases member
  | present head later ih =>
      intro field member j here
      rcases List.mem_cons.mp member with rfl | member
      · cases here
        exact head
      · exact ih field member j here
  | @presentIf name wanted value rest head later ih =>
      intro field member j here
      rcases List.mem_cons.mp member with rfl | member
      · cases wanted <;> cases here
        exact head
      · exact ih field member j here
  | nullable later ih =>
      intro field member j here
      rcases List.mem_cons.mp member with rfl | member
      · obtain ⟨s, -, rfl⟩ := Option.map_eq_some_iff.mp here
        exact .text s
      · exact ih field member j here

theorem sublist_names (fields : List (String × Option Json)) :
    ((fields.filterMap fun (name, value) => value.map (name, ·)).map (·.1)).Sublist
      (fields.map (·.1)) := by
  induction fields with
  | nil => exact List.Sublist.refl []
  | cons field rest ih =>
      obtain ⟨name, value⟩ := field
      cases value with
      | none => exact ih.cons name
      | some j => exact ih.cons_cons name

theorem plain_ofFields {levels : Nat} {fields : List (String × Option Json)} (names : List String)
    (named : fields.map (·.1) = names) (distinct : names.Nodup)
    (plain : PlainFields levels fields) : Plain (levels + 1) (ofFields fields) := by
  subst named
  apply Plain.record
  · exact (sublist_names fields).nodup distinct
  · intro m member
    obtain ⟨field, within, written⟩ := List.mem_filterMap.mp member
    obtain ⟨j, here, rfl⟩ := Option.map_eq_some_iff.mp written
    exact plain.plain field within j here

theorem plain_array {α : Type} {write : α → Json} {levels : Nat} (items : List α)
    (plain : ∀ a, Plain levels (write a)) : Plain (levels + 1) (.array (items.map write)) := by
  apply Plain.array
  intro j member
  obtain ⟨a, -, rfl⟩ := List.mem_map.mp member
  exact plain a

theorem plain_texts {levels : Nat} (items : List String) : Plain (levels + 1) (texts items) :=
  plain_array items .text

theorem plain_ofDict {α : Type} {write : α → Json} {levels : Nat} (d : Dict α)
    (plain : ∀ a, Plain levels (write a)) : Plain (levels + 1) (ofDict write d) := by
  apply Plain.record
  · rw [List.map_map]
    exact d.nodup_names
  · intro m member
    obtain ⟨entry, -, rfl⟩ := List.mem_map.mp member
    exact plain entry.2

end BatchJob.Json
