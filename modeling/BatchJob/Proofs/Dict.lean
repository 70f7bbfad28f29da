import BatchJob.Dict

set_option autoImplicit false

/-!
A map is determined by its entries, in whatever way they were put in.
-/

namespace BatchJob.Dict

variable {α : Type}

@[ext] theorem ext {d e : Dict α} (same : d.entries = e.entries) : d = e := by
  cases d
  cases e
  cases same
  rfl

/-- A name after all others is put at the end. -/
theorem place_last {name : String} {entries : List (String × α)}
    (last : ∀ e ∈ entries, e.1 < name) (value : α) :
    place name value entries = entries ++ [(name, value)] := by
  induction entries with
  | nil => rfl
  | cons entry rest ih =>
      have before := last entry List.mem_cons_self
      have notBefore : ¬ name < entry.1 := fun after =>
        String.lt_irrefl _ (String.lt_trans before after)
      have different : ¬ name = entry.1 := fun same => String.ne_of_lt before same.symm
      rw [place, if_neg notBefore, if_neg different,
        ih fun e member => last e (List.mem_cons_of_mem entry member)]
      rfl

theorem foldl_insert (d : Dict α) (later : List (String × α))
    (sorted : (d.entries ++ later).Pairwise fun a b => a.1 < b.1) :
    (later.foldl (fun d (name, value) => d.insert name value) d).entries = d.entries ++ later := by
  induction later generalizing d with
  | nil => exact (List.append_nil d.entries).symm
  | cons e rest ih =>
      have last : ∀ x ∈ d.entries, x.1 < e.1 := fun x member =>
        (List.pairwise_append.mp sorted).2.2 x member e List.mem_cons_self
      have placed : (d.insert e.1 e.2).entries = d.entries ++ [e] := place_last last e.2
      rw [List.foldl_cons, ih, placed, List.append_assoc]
      · rfl
      · rwa [placed, List.append_assoc]

theorem mem_foldl_insert {e : String × α} {pairs : List (String × α)} {d : Dict α}
    (member : e ∈ (pairs.foldl (fun d (name, value) => d.insert name value) d).entries) :
    e ∈ d.entries ∨ e ∈ pairs := by
  induction pairs generalizing d with
  | nil => exact .inl member
  | cons pair rest ih =>
      rcases ih member with placed | later
      · rcases mem_place placed with rfl | old
        · exact .inr List.mem_cons_self
        · exact .inl old
      · exact .inr (List.mem_cons_of_mem pair later)

theorem mem_of_mem_ofList {e : String × α} {pairs : List (String × α)}
    (member : e ∈ (ofList pairs).entries) : e ∈ pairs := by
  rcases mem_foldl_insert member with none | present
  · cases none
  · exact present

/-- A map is made again from its entries. -/
theorem ofList_entries (d : Dict α) : ofList d.entries = d :=
  ext (foldl_insert empty d.entries d.sorted)

theorem nodup_names (d : Dict α) : (d.entries.map (·.1)).Nodup :=
  List.Pairwise.map _ (fun _ _ before => String.ne_of_lt before) d.sorted

theorem mem_names_place {name key : String} {value : α} {entries : List (String × α)} :
    key ∈ (place name value entries).map (·.1) ↔ key = name ∨ key ∈ entries.map (·.1) := by
  induction entries with
  | nil => exact List.mem_cons
  | cons entry rest ih =>
      unfold place
      split
      · exact List.mem_cons
      · split
        · rename_i same
          rw [List.map_cons, List.map_cons, List.mem_cons, List.mem_cons, same, or_self_left]
        · rw [List.map_cons, List.map_cons, List.mem_cons, List.mem_cons, ih, or_left_comm]

theorem mem_names_foldl_insert {key : String} {pairs : List (String × α)} {d : Dict α} :
    key ∈ (pairs.foldl (fun d (name, value) => d.insert name value) d).entries.map (·.1) ↔
      key ∈ d.entries.map (·.1) ∨ key ∈ pairs.map (·.1) := by
  induction pairs generalizing d with
  | nil => exact (or_iff_left List.not_mem_nil).symm
  | cons pair rest ih =>
      have placed : key ∈ (d.insert pair.1 pair.2).entries.map (·.1) ↔
          key = pair.1 ∨ key ∈ d.entries.map (·.1) := mem_names_place
      rw [List.foldl_cons, ih, placed, List.map_cons, List.mem_cons, or_assoc, or_left_comm]

/-- A map has the names of the pairs that it was made from. -/
theorem mem_names_ofList {key : String} {pairs : List (String × α)} :
    key ∈ (ofList pairs).entries.map (·.1) ↔ key ∈ pairs.map (·.1) :=
  mem_names_foldl_insert.trans (or_iff_right List.not_mem_nil)

/-- Of the pairs of a name, the last decides. -/
theorem get?_foldl_insert (d : Dict α) (pairs : List (String × α)) (name : String) :
    (pairs.foldl (fun d (name, value) => d.insert name value) d).get? name =
      ((pairs.filter (·.1 = name)).getLast?.map (·.2)).or (d.get? name) := by
  induction pairs generalizing d with
  | nil => rfl
  | cons pair rest ih =>
      rw [List.foldl_cons, ih, get?_insert]
      by_cases same : pair.1 = name
      · simp only [List.filter_cons, same, decide_true, if_true, List.getLast?_cons]
        cases (rest.filter (·.1 = name)).getLast? <;> rfl
      · have other : ¬ name = pair.1 := fun found => same found.symm
        simp only [List.filter_cons, same, other, decide_false, Bool.false_eq_true, if_false]

theorem get?_ofList (pairs : List (String × α)) (name : String) :
    (ofList pairs).get? name = (pairs.filter (·.1 = name)).getLast?.map (·.2) := by
  rw [ofList, get?_foldl_insert]
  exact Option.or_none

theorem getLast?_filter_eq_some_iff {p : α → Bool} {items : List α} {a : α} :
    (items.filter p).getLast? = some a ↔
      ∃ before after, items = before ++ a :: after ∧ p a = true ∧
        ∀ later ∈ after, p later = false := by
  rw [List.getLast?_filter, List.find?_eq_some_iff_append]
  simp only [Bool.not_eq_true']
  constructor
  · rintro ⟨holds, after, before, shape, others⟩
    refine ⟨before.reverse, after.reverse, ?_, holds, fun later member => ?_⟩
    · rw [← items.reverse_reverse, shape, List.reverse_append, List.reverse_cons,
        List.append_assoc, List.singleton_append]
    · exact others later (List.mem_reverse.mp member)
  · rintro ⟨before, after, rfl, holds, others⟩
    refine ⟨holds, after.reverse, before.reverse, ?_, fun later member => ?_⟩
    · rw [List.reverse_append, List.reverse_cons, List.append_assoc, List.singleton_append]
    · exact others later (List.mem_reverse.mp member)

theorem get?_ofList_eq_some_iff {pairs : List (String × α)} {name : String} {value : α} :
    (ofList pairs).get? name = some value ↔ ∃ before after,
      pairs = before ++ (name, value) :: after ∧ ∀ later ∈ after, later.1 ≠ name := by
  simp only [get?_ofList, Option.map_eq_some_iff, getLast?_filter_eq_some_iff, decide_eq_true_eq,
    decide_eq_false_iff_not]
  constructor
  · rintro ⟨⟨key, _⟩, ⟨before, after, split, rfl, others⟩, rfl⟩
    exact ⟨before, after, split, others⟩
  · rintro ⟨before, after, split, others⟩
    exact ⟨(name, value), ⟨before, after, split, rfl, others⟩, rfl⟩

/-- What is added to a map wins over what was there. -/
theorem get?_extend (d e : Dict α) (name : String) :
    (d.extend e).get? name = (e.get? name).or (d.get? name) := by
  have added := get?_ofList e.entries name
  rw [ofList_entries] at added
  rw [extend, get?_foldl_insert, added]

theorem perm_place {name : String} {entries : List (String × α)}
    (new : ∀ e ∈ entries, e.1 ≠ name) (value : α) :
    (place name value entries).Perm ((name, value) :: entries) := by
  induction entries with
  | nil => exact .refl _
  | cons entry rest ih =>
      have later := ih fun e member => new e (List.mem_cons_of_mem entry member)
      rw [place]
      split
      · exact .refl _
      · rw [if_neg fun same => new entry List.mem_cons_self same.symm]
        exact (later.cons entry).trans (.swap (name, value) entry rest)

theorem perm_foldl_insert {d : Dict α} {pairs : List (String × α)}
    (distinct : ((d.entries ++ pairs).map (·.1)).Nodup) :
    (pairs.foldl (fun d (name, value) => d.insert name value) d).entries.Perm
      (d.entries ++ pairs) := by
  induction pairs generalizing d with
  | nil => exact .of_eq (List.append_nil d.entries).symm
  | cons pair rest ih =>
      have new : ∀ e ∈ d.entries, e.1 ≠ pair.1 := by
        rw [List.map_append, List.nodup_append] at distinct
        exact fun e member => distinct.2.2 e.1 (List.mem_map_of_mem member) pair.1
          (List.mem_map_of_mem List.mem_cons_self)
      have placed : (d.insert pair.1 pair.2).entries.Perm (pair :: d.entries) :=
        perm_place new pair.2
      have moved : ((d.insert pair.1 pair.2).entries ++ rest).Perm (d.entries ++ pair :: rest) :=
        (placed.append_right rest).trans List.perm_middle.symm
      exact (ih ((moved.map _).nodup_iff.mpr distinct)).trans moved

/-- The order of the entries is that of their names, so a map has no two ways to list them. -/
theorem eq_of_perm {d e : Dict α} (listed : d.entries.Perm e.entries) : d = e := by
  refine ext (List.Perm.eq_of_pairwise ?_ d.sorted e.sorted listed)
  intro a b _ _ before after
  exact absurd before (String.lt_asymm after)

/-- A map is made again from its entries in any order. -/
theorem ofList_of_perm {d : Dict α} {pairs : List (String × α)} (same : pairs.Perm d.entries) :
    ofList pairs = d := by
  have distinct : (pairs.map (·.1)).Nodup := (same.map _).nodup_iff.mpr d.nodup_names
  exact eq_of_perm ((perm_foldl_insert distinct).trans same)

theorem mem_entries_iff {d : Dict α} {entry : String × α} :
    entry ∈ d.entries ↔ d.get? entry.1 = some entry.2 := by
  rw [get?, List.lookup_eq_some_iff]
  constructor
  · intro member
    obtain ⟨before, after, split⟩ := List.append_of_mem member
    refine ⟨before, after, split, fun first earlier => bne_iff_ne.mpr fun same => ?_⟩
    have sorted := d.sorted
    rw [split, List.pairwise_append] at sorted
    exact String.ne_of_lt (sorted.2.2 first earlier entry List.mem_cons_self) same.symm
  · rintro ⟨before, after, split, -⟩
    rw [split]
    exact List.mem_append_cons_self

theorem ext_get? {d e : Dict α} (same : ∀ name, d.get? name = e.get? name) : d = e := by
  have distinct (d : Dict α) : d.entries.Nodup :=
    d.sorted.imp fun before alike => String.ne_of_lt before (congrArg Prod.fst alike)
  refine eq_of_perm ((List.perm_ext_iff_of_nodup (distinct d) (distinct e)).mpr fun entry => ?_)
  rw [mem_entries_iff, mem_entries_iff, same]

theorem insert_comm (d : Dict α) {name other : String} (different : name ≠ other)
    (value later : α) :
    (d.insert name value).insert other later = (d.insert other later).insert name value := by
  apply ext_get?
  intro key
  simp only [get?_insert]
  by_cases first : key = name
  · rw [if_pos first, if_pos first, if_neg fun second => different (first.symm.trans second)]
  · rw [if_neg first, if_neg first]

/-- Pairs that do not contradict each other can be inserted in any order. -/
theorem foldl_insert_of_perm {pairs others : List (String × α)} (moved : others.Perm pairs)
    (single : ∀ x ∈ pairs, ∀ y ∈ pairs, x.1 = y.1 → x = y) (d : Dict α) :
    others.foldl (fun d (name, value) => d.insert name value) d =
      pairs.foldl (fun d (name, value) => d.insert name value) d := by
  refine (moved.symm.foldl_eq' (fun x first y second d => ?_) d).symm
  by_cases same : x.1 = y.1
  · rw [single x first y second same]
  · exact insert_comm d same x.2 y.2

/-- Such pairs can also be inserted in any order between others. -/
theorem ofList_of_perm_between {pairs others : List (String × α)} (front back : List (String × α))
    (moved : others.Perm pairs) (single : ∀ x ∈ pairs, ∀ y ∈ pairs, x.1 = y.1 → x = y) :
    ofList (front ++ (others ++ back)) = ofList (front ++ (pairs ++ back)) := by
  rw [ofList, ofList, List.foldl_append, List.foldl_append, List.foldl_append, List.foldl_append,
    foldl_insert_of_perm moved single]

end BatchJob.Dict
