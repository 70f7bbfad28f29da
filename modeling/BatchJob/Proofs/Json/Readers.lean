import BatchJob.Proofs.Json.General

set_option autoImplicit false

/-!
Readers of settled values. A reader is stable if it reads off a settled value what it reads off the
tree itself; the readers of texts, numbers, lists, maps and structures all are.
-/

namespace BatchJob.Json

/-- What is read off a tree is also read off the value that it is settled to. -/
structure Stable {α : Type} (read : Json → Option α) : Prop where
  keeps : ∀ {levels : Nat} {j v : Json} {a : α}, settle? levels j = some v → read j = some a →
    read v = some a

section

variable {α : Type} {read : Json → Option α}

/-- A reader of values that hold no others. -/
theorem stable_of_flat (noArray : ∀ items, read (.array items) = none)
    (noObject : ∀ members, read (.object members) = none) : Stable read := by
  constructor
  intro levels j v a settles success
  cases settled_of_settle? settles with
  | null | bool | number | text => exact success
  | array => simp [noArray] at success
  | object => simp [noObject] at success

theorem stable_text? : Stable text? := stable_of_flat (fun _ => rfl) fun _ => rfl

theorem stable_bool? : Stable bool? := stable_of_flat (fun _ => rfl) fun _ => rfl

theorem stable_word64? : Stable word64? := stable_of_flat (fun _ => rfl) fun _ => rfl

theorem stable_word32? : Stable word32? := stable_of_flat (fun _ => rfl) fun _ => rfl

theorem stable_nullable? (stable : Stable read) : Stable (nullable? read) := by
  constructor
  intro levels j v a settles success
  have part : (read j).map some = some a → (read v).map some = some a := by
    intro found
    obtain ⟨b, here, rfl⟩ := Option.map_eq_some_iff.mp found
    rw [stable.keeps settles here, Option.map_some]
  cases settled_of_settle? settles with
  | null => exact success
  | bool | number | text | array | object => exact part success

theorem stable_list? (stable : Stable read) : Stable (list? read) := by
  constructor
  intro levels j v results settles success
  cases settled_of_settle? settles with
  | null | bool | number | text => cases success
  | object => cases success
  | @array levels items settled each =>
      have related := Traced.mapM_eq_some_iff.mp success
      refine Traced.mapM_eq_some_iff.mpr ?_
      clear settles success
      induction each generalizing results with
      | nil =>
          cases related
          exact .nil
      | cons first later ih =>
          cases related with
          | cons head tail => exact .cons (stable.keeps first head) (ih tail)

def pair? (read : Json → Option α) (m : Option String × Json) : Option (String × α) := do
  some (← m.1, ← read m.2)

theorem pair?_eq_some_iff {m : Option String × Json} {pair : String × α} :
    pair? read m = some pair ↔ m.1 = some pair.1 ∧ read m.2 = some pair.2 := by
  obtain ⟨name, j⟩ := m
  obtain ⟨key, a⟩ := pair
  cases name with
  | none => simp [pair?]
  | some name =>
      cases found : read j with
      | none => simp [pair?, found]
      | some b => simp [pair?, found]

/-- The first pair decides only about a name that does not come again. -/
theorem get?_ofList_cons (pair : String × α) (pairs : List (String × α)) (name : String) :
    (Dict.ofList (pair :: pairs)).get? name =
      ((Dict.ofList pairs).get? name).or (if pair.1 = name then some pair.2 else none) := by
  rw [Dict.get?_ofList, Dict.get?_ofList, List.filter_cons]
  by_cases same : pair.1 = name
  · simp only [same, decide_true, if_true, List.getLast?_cons]
    cases (pairs.filter (·.1 = name)).getLast? <;> rfl
  · simp only [same, decide_false, Bool.false_eq_true, if_false, Option.or_none]

theorem exists_get?_ofList {pairs : List (String × α)} {pair : String × α}
    (member : pair ∈ pairs) : ∃ a, (Dict.ofList pairs).get? pair.1 = some a := by
  have found : pair ∈ pairs.filter (·.1 = pair.1) :=
    List.mem_filter.mpr ⟨member, decide_eq_true rfl⟩
  obtain ⟨last, ends⟩ := Option.ne_none_iff_exists'.mp
    (mt List.getLast?_eq_none_iff.mp (List.ne_nil_of_mem found))
  exact ⟨last.2, by rw [Dict.get?_ofList, ends, Option.map_some]⟩

section

variable {members : List (Option String × Json)} {pairs : List (String × α)}

theorem names_of_pairs (each : List.Forall₂ (fun m p => pair? read m = some p) members pairs) :
    members.map (·.1) = pairs.map fun p => some p.1 := by
  induction each with
  | nil => rfl
  | cons first later ih => rw [List.map_cons, List.map_cons, ih, (pair?_eq_some_iff.mp first).1]

/-- Members whose name comes again later make no difference to a map. -/
theorem exists_pairs_lastOfEach
    (each : List.Forall₂ (fun m p => pair? read m = some p) members pairs) :
    ∃ kept, List.Forall₂ (fun m p => pair? read m = some p) (lastOfEach members) kept ∧
      Dict.ofList kept = Dict.ofList pairs := by
  induction each with
  | nil => exact ⟨[], .nil, rfl⟩
  | @cons m pair rest pairs first later ih =>
      obtain ⟨kept, related, same⟩ := ih
      rw [lastOfEach]
      split
      · next repeated =>
        refine ⟨kept, related, Dict.ext_get? fun name => ?_⟩
        rw [get?_ofList_cons, same]
        by_cases named : pair.1 = name
        · have again : m.1 ∈ rest.map (·.1) := by
            rw [any_lastOfEach, List.any_eq_true] at repeated
            obtain ⟨x, member, equal⟩ := repeated
            exact List.mem_map.mpr ⟨x, member, beq_iff_eq.mp equal⟩
          rw [names_of_pairs later, (pair?_eq_some_iff.mp first).1, named] at again
          obtain ⟨other, member, equal⟩ := List.mem_map.mp again
          obtain ⟨a, found⟩ := exists_get?_ofList member
          rw [← Option.some.inj equal, found, Option.some_or]
        · rw [if_neg named, Option.or_none]
      · refine ⟨pair :: kept, .cons first related, Dict.ext_get? fun name => ?_⟩
        rw [get?_ofList_cons, get?_ofList_cons, same]

end

theorem dict?_eq_some_iff {members : List (Option String × Json)} {d : Dict α} :
    dict? read (.object members) = some d ↔ ∃ pairs,
      List.Forall₂ (fun m p => pair? read m = some p) members pairs ∧ Dict.ofList pairs = d := by
  change (members.mapM (pair? read)).map Dict.ofList = some d ↔ _
  simp only [Option.map_eq_some_iff, Traced.mapM_eq_some_iff]

theorem stable_dict? (stable : Stable read) : Stable (dict? read) := by
  constructor
  intro levels j v d settles success
  cases settled_of_settle? settles with
  | null | bool | number | text => cases success
  | array => cases success
  | @object levels members settled each =>
      obtain ⟨pairs, related, rfl⟩ := dict?_eq_some_iff.mp success
      have kept : List.Forall₂ (fun m p => pair? read m = some p) settled pairs := by
        clear settles success
        induction each generalizing pairs with
        | nil =>
            cases related
            exact .nil
        | cons first later ih =>
            cases related with
            | cons head tail =>
                obtain ⟨-, named, settles⟩ := settleMember?_eq_some_iff.mp first
                obtain ⟨here, value⟩ := pair?_eq_some_iff.mp head
                exact .cons (pair?_eq_some_iff.mpr ⟨named.trans here, stable.keeps settles value⟩)
                  (ih _ tail)
      exact dict?_eq_some_iff.mpr (exists_pairs_lastOfEach kept)

/-- The named fields have settled values, and no others are looked at. -/
def Fields.Settles (names : List String) (f g : Fields) : Prop :=
  ∀ name ∈ names, Option.Rel (fun j v => ∃ levels, settle? levels j = some v) (f.find? name)
    (g.find? name)

structure Steady (names : List String) (make : Fields → Option α) : Prop where
  keeps : ∀ {f g : Fields} {a : α}, f.Settles names g → make f = some a → make g = some a

theorem rel_lookup_zip {levels : Nat} {items settled : List Json}
    (each : List.Forall₂ (fun j v => settle? levels j = some v) items settled)
    (names : List String) (name : String) :
    Option.Rel (fun j v => ∃ levels, settle? levels j = some v) ((names.zip items).lookup name)
      ((names.zip settled).lookup name) := by
  induction each generalizing names with
  | nil =>
      rw [List.zip_nil_right]
      exact .none
  | cons first later ih =>
      cases names with
      | nil => exact .none
      | cons key names =>
          rw [List.zip_cons_cons, List.zip_cons_cons, List.lookup_cons, List.lookup_cons]
          cases name == key with
          | true => exact .some ⟨levels, first⟩
          | false => exact ih names

theorem rel_lookup_members {levels : Nat} {members settled : List (Option String × Json)}
    (each : List.Forall₂ (fun m s => settleMember? levels m = some s) members settled)
    (key : Option String) :
    Option.Rel (fun j v => ∃ levels, settle? levels j = some v) (members.lookup key)
        (settled.lookup key) ∧
      (settled.filter (·.1 == key)).length = (members.filter (·.1 == key)).length := by
  induction each with
  | nil => exact ⟨.none, rfl⟩
  | @cons m s members settled first later ih =>
      obtain ⟨name, j⟩ := m
      obtain ⟨_, v⟩ := s
      obtain ⟨-, same, settles⟩ := settleMember?_eq_some_iff.mp first
      cases same
      rw [List.lookup_cons, List.lookup_cons, List.filter_cons, List.filter_cons]
      by_cases here : key = name
      · subst here
        simp only [beq_self_eq_true, if_true, List.length_cons, Nat.add_right_cancel_iff]
        exact ⟨.some ⟨levels, settles⟩, ih.2⟩
      · have other : (key == name) = false := beq_eq_false_iff_ne.mpr here
        have otherwise : (name == key) = false := beq_eq_false_iff_ne.mpr (Ne.symm here)
        simpa only [other, otherwise, Bool.false_eq_true, if_false] using ih

theorem isSome_of_settled {levels : Nat} {members settled : List (Option String × Json)}
    (each : List.Forall₂ (fun m s => settleMember? levels m = some s) members settled) :
    ∀ s ∈ settled, s.1.isSome = true := by
  induction each with
  | nil => exact List.forall_mem_nil _
  | cons first later ih =>
      obtain ⟨named, same, -⟩ := settleMember?_eq_some_iff.mp first
      exact List.forall_mem_cons.mpr ⟨same ▸ named, ih⟩

/-- A structure that is opened in a text is opened in the settled value. -/
theorem exists_fields?_of_settle? {names : List String} {levels : Nat} {j v : Json} {f : Fields}
    (settles : settle? levels j = some v) (opened : j.fields? names = some f) :
    ∃ g, v.fields? names = some g ∧ f.Settles names g := by
  cases settled_of_settle? settles with
  | null | bool | number | text => cases opened
  | @array levels items settled each =>
      rw [fields?] at opened
      split at opened
      · next fits =>
        cases opened
        rw [List.Forall₂.length_eq each] at fits
        exact ⟨_, by rw [fields?, if_pos fits], fun name _ => rel_lookup_zip each names name⟩
      · cases opened
  | @object levels members settled each =>
      rw [fields?] at opened
      split at opened
      · next sound =>
        cases opened
        rw [Bool.and_eq_true, List.all_eq_true, List.all_eq_true] at sound
        have named : (lastOfEach settled).all (·.1.isSome) = true := by
          rw [List.all_eq_true]
          intro s member
          exact isSome_of_settled each s ((lastOfEach_sublist settled).mem member)
        have once : names.all (fun name => decide
            (((lastOfEach settled).filter (·.1 == some name)).length ≤ 1)) = true := by
          rw [List.all_eq_true]
          exact fun name _ => decide_eq_true (length_filter_lastOfEach settled)
        refine ⟨_, by rw [fields?, named, once]; rfl, fun name member => ?_⟩
        obtain ⟨related, count⟩ := rel_lookup_members each (some name)
        have single : (settled.filter (·.1 == some name)).length ≤ 1 := by
          rw [count]
          exact of_decide_eq_true (sound.2 name member)
        rwa [← lookup_lastOfEach single] at related
      · cases opened

theorem stable_record {names : List String} {make : Fields → Option α}
    (steady : Steady names make) : Stable fun j => j.fields? names >>= make := by
  constructor
  intro levels j v a settles success
  obtain ⟨f, opened, made⟩ := Option.bind_eq_some_iff.mp success
  obtain ⟨g, reopened, same⟩ := exists_fields?_of_settle? settles opened
  exact Option.bind_eq_some_iff.mpr ⟨g, reopened, steady.keeps same made⟩

theorem exists_of_rel_some {β : Type} {R : α → β → Prop} {a : α} {y : Option β}
    (related : Option.Rel R (some a) y) : ∃ b, y = some b ∧ R a b := by
  cases related with
  | some holds => exact ⟨_, rfl, holds⟩

theorem eq_none_of_rel_none {β : Type} {R : α → β → Prop} {y : Option β}
    (related : Option.Rel R none y) : y = none := by
  cases related
  rfl

namespace Steady

variable {names : List String} {name : String}

variable {β : Type} {next : α → Fields → Option β}

theorem required (known : name ∈ names) (stable : Stable read)
    (later : ∀ a, Steady names (next a)) :
    Steady names fun f => f.required name read >>= fun a => next a f := by
  constructor
  intro f g b settles success
  obtain ⟨a, first, goesOn⟩ := Option.bind_eq_some_iff.mp success
  obtain ⟨j, here, value⟩ := Option.bind_eq_some_iff.mp first
  have related := settles name known
  rw [here] at related
  obtain ⟨v, found, levels, settled⟩ := exists_of_rel_some related
  exact bind_of_some (Fields.required_of_present found (stable.keeps settled value))
    ((later a).keeps settles goesOn)

theorem optional (known : name ∈ names) (default : α) (stable : Stable read)
    (later : ∀ a, Steady names (next a)) :
    Steady names fun f => f.optional name default read >>= fun a => next a f := by
  constructor
  intro f g b settles success
  obtain ⟨a, first, goesOn⟩ := Option.bind_eq_some_iff.mp success
  have related := settles name known
  have same : g.optional name default read = some a := by
    unfold Fields.optional at first ⊢
    cases here : f.find? name with
    | none =>
        rw [here] at related first
        rw [eq_none_of_rel_none related]
        exact first
    | some j =>
        rw [here] at related first
        obtain ⟨v, found, levels, settled⟩ := exists_of_rel_some related
        rw [found]
        exact stable.keeps settled first
  exact bind_of_some same ((later a).keeps settles goesOn)

theorem done (a : α) : Steady names fun _ => some a := ⟨fun _ success => success⟩

end Steady

end

end BatchJob.Json
