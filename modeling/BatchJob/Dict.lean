set_option autoImplicit false

/-!
Finite maps from names to values, listed in strictly increasing order of their names. The order of
names is the order of their characters, which is also the order of their UTF-8 bytes.
-/

namespace BatchJob

/-- A finite map from names to values. -/
structure Dict (α : Type) where
  entries : List (String × α)
  sorted : entries.Pairwise fun a b => a.1 < b.1

namespace Dict

variable {α β : Type}

instance [DecidableEq α] : DecidableEq (Dict α) := fun a b =>
  match decEq a.entries b.entries with
  | .isTrue h => .isTrue (by cases a; cases b; cases h; rfl)
  | .isFalse h => .isFalse fun e => h (e ▸ rfl)

def empty : Dict α := ⟨[], .nil⟩

instance : Inhabited (Dict α) := ⟨empty⟩

def isEmpty (d : Dict α) : Bool := d.entries.isEmpty

def get? (d : Dict α) (name : String) : Option α := d.entries.lookup name

/-- Puts an entry in its place; an entry of the same name is replaced. -/
def place (name : String) (value : α) : List (String × α) → List (String × α)
  | [] => [(name, value)]
  | entry :: rest =>
    if name < entry.1 then (name, value) :: entry :: rest
    else if name = entry.1 then (name, value) :: rest
    else entry :: place name value rest

theorem mem_place {name : String} {value : α} {e : String × α} {l : List (String × α)}
    (h : e ∈ place name value l) : e = (name, value) ∨ e ∈ l := by
  induction l with
  | nil => simpa [place] using h
  | cons entry rest ih => grind [place]

theorem pairwise_place (name : String) (value : α) {l : List (String × α)}
    (h : l.Pairwise fun a b => a.1 < b.1) :
    (place name value l).Pairwise fun a b => a.1 < b.1 := by
  induction l with
  | nil => simp [place]
  | cons entry rest ih =>
    obtain ⟨first, rest_sorted⟩ := List.pairwise_cons.1 h
    unfold place
    split
    · next lt =>
      refine List.pairwise_cons.2 ⟨fun e he => ?_, h⟩
      rcases List.mem_cons.1 he with rfl | he
      · exact lt
      · exact String.lt_trans lt (first e he)
    · split
      · next eq => subst eq; exact List.pairwise_cons.2 ⟨first, rest_sorted⟩
      · next not_lt ne =>
        refine List.pairwise_cons.2 ⟨fun e he => ?_, ih rest_sorted⟩
        rcases mem_place he with rfl | he
        · exact String.not_le.1 fun le => ne (String.le_antisymm le (String.not_lt.1 not_lt))
        · exact first e he

/-- The value of a name in a list that starts with some entry. -/
theorem lookup_entry (key name : String) (value : α) (l : List (String × α)) :
    ((name, value) :: l).lookup key = if key = name then some value else l.lookup key := by
  by_cases same : key = name
  · rw [if_pos same, List.lookup_cons, beq_iff_eq.2 same]
  · rw [if_neg same, List.lookup_cons, beq_eq_false_iff_ne.2 same]

theorem lookup_place (name key : String) (value : α) (l : List (String × α)) :
    (place name value l).lookup key = if key = name then some value else l.lookup key := by
  induction l with
  | nil => exact lookup_entry key name value []
  | cons entry rest ih =>
    obtain ⟨first, old⟩ := entry
    unfold place
    split
    · exact lookup_entry key name value _
    · split
      · next eq =>
        simp only [lookup_entry]
        by_cases same : key = name
        · simp only [same, if_true]
        · rw [if_neg same, if_neg same, if_neg (fun here => same (here.trans eq.symm))]
      · next ne =>
        rw [lookup_entry, lookup_entry, ih]
        by_cases here : key = first
        · rw [if_pos here, if_neg (fun same => ne (same.symm.trans here)), if_pos here]
        · rw [if_neg here, if_neg here]

/-- The map with one entry added or replaced. -/
def insert (d : Dict α) (name : String) (value : α) : Dict α :=
  ⟨place name value d.entries, pairwise_place name value d.sorted⟩

/-- An insertion changes the value of one name and of no other. -/
theorem get?_insert (d : Dict α) (name key : String) (value : α) :
    (d.insert name value).get? key = if key = name then some value else d.get? key :=
  lookup_place name key value d.entries

/-- The map of some pairs; the last pair of a name decides. -/
def ofList (pairs : List (String × α)) : Dict α :=
  pairs.foldl (fun d (name, value) => d.insert name value) empty

/-- The first map with the entries of the second added, which win over its own. -/
def extend (d e : Dict α) : Dict α :=
  e.entries.foldl (fun d (name, value) => d.insert name value) d

end Dict

end BatchJob
