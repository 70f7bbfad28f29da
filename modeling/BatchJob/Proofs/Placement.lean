import BatchJob.Placement
import BatchJob.Proofs.Trace

set_option autoImplicit false

/-!
A placement names zones or regions, and never both. It names the places that the entries of the
configuration stand for, and the default zone if they stand for none.
-/

namespace BatchJob

theorem wildcard?_eq_some_iff {entry : String} {front : List Char} :
    wildcard? entry = some front ↔ entry = String.ofList front ++ "*" := by
  rw [← String.toList_inj, String.toList_append, String.toList_ofList]
  unfold wildcard?
  split
  · next star =>
      have last := List.dropLast_append_getLast? _ star
      constructor
      · intro cut
        rw [← Option.some.inj cut]
        exact last.symm
      · intro text
        rw [text]
        exact congrArg some List.dropLast_concat
  · next other =>
      constructor
      · intro cut
        cases cut
      · intro text
        rw [text] at other
        exact absurd List.getLast?_concat other

/--
Whether some entries stand for a place: one of them is its name, or it is listed and its name
begins with what stands before the `*` at the end of one of them. A name that ends in `*` cannot be
written out.
-/
def StandsFor (h : Host) (project : String) (kind : LocationKind) (entries : List String)
    (name : String) : Prop :=
  (name ∈ entries ∧ ∀ front, name ≠ front ++ "*") ∨
    (∃ listed, (h.locations project kind).result = .ok listed ∧ name ∈ listed) ∧
      ∃ front, front ++ "*" ∈ entries ∧ front.toList <+: name.toList

theorem isNone_wildcard?_iff {name : String} :
    (wildcard? name).isNone = true ↔ ∀ front, name ≠ front ++ "*" := by
  rw [Option.isNone_iff_eq_none]
  constructor
  · intro none front text
    have some := wildcard?_eq_some_iff.mpr (String.ofList_toList (s := front) ▸ text)
    rw [none] at some
    cases some
  · intro written
    cases cut : wildcard? name with
    | none => rfl
    | some front => exact absurd (wildcard?_eq_some_iff.mp cut) (written _)

theorem any_wildcards_iff {entries : List String} {name : String} :
    ((entries.filterMap wildcard?).any (·.isPrefixOf name.toList)) = true ↔
      ∃ front, front ++ "*" ∈ entries ∧ front.toList <+: name.toList := by
  simp only [List.any_eq_true, List.mem_filterMap, wildcard?_eq_some_iff,
    List.isPrefixOf_iff_prefix]
  constructor
  · rintro ⟨front, ⟨entry, member, rfl⟩, begins⟩
    exact ⟨String.ofList front, member, String.toList_ofList.symm ▸ begins⟩
  · rintro ⟨front, member, begins⟩
    exact ⟨front.toList, ⟨_, member, by rw [String.ofList_toList]⟩, begins⟩

/-- The names that are written out come first, and then those that are found in the listing. -/
theorem parts_of_expandPrefixes {h : Host} {project : String} {kind : LocationKind}
    {entries names : List String}
    (success : (expandPrefixes h project kind entries).result = .ok names) :
    ∃ found, names = entries.filter (fun entry => (wildcard? entry).isNone) ++ found ∧
      (∀ name, name ∈ found ↔
        (∃ listed, (h.locations project kind).result = .ok listed ∧ name ∈ listed) ∧
          ∃ front, front ++ "*" ∈ entries ∧ front.toList <+: name.toList) ∧
      ∀ listed, (h.locations project kind).result = .ok listed → found.Sublist listed := by
  unfold expandPrefixes at success
  by_cases literal : (entries.filterMap wildcard?).isEmpty = true
  · simp only [literal, if_true] at success
    cases success
    refine ⟨[], (List.append_nil _).symm, fun name => ?_, fun listed _ => List.nil_sublist listed⟩
    rw [← any_wildcards_iff, List.isEmpty_iff.mp literal]
    exact iff_of_false List.not_mem_nil fun covered => Bool.false_ne_true covered.2
  · simp only [literal, Bool.false_eq_true, if_false] at success
    obtain ⟨listed, answer, success⟩ := Traced.result_bind_eq_ok.mp success
    cases success
    rw [Traced.result_mapError_eq_ok] at answer
    refine ⟨_, rfl, fun name => ?_, fun other again => ?_⟩
    · have found : (∃ all, (h.locations project kind).result = .ok all ∧ name ∈ all) ↔
          name ∈ listed := by
        rw [answer]
        exact ⟨fun ⟨_, same, member⟩ => Except.ok.inj same ▸ member,
          fun member => ⟨_, rfl, member⟩⟩
      rw [List.mem_filter, any_wildcards_iff, found]
    · rw [← Except.ok.inj (answer.symm.trans again)]
      exact List.filter_sublist

theorem mem_expandPrefixes {h : Host} {project : String} {kind : LocationKind}
    {entries names : List String}
    (success : (expandPrefixes h project kind entries).result = .ok names) (name : String) :
    name ∈ names ↔ StandsFor h project kind entries name := by
  obtain ⟨found, rfl, covered, -⟩ := parts_of_expandPrefixes success
  rw [List.mem_append, List.mem_filter, isNone_wildcard?_iff, covered, StandsFor]

namespace Placement

variable {c : Config} {h : Host} {place : Placement}

theorem mem_expandAll {kind : LocationKind} {entries names : List String}
    (success : (expandAll c h kind entries).result = .ok names) (name : String) :
    name ∈ names ↔ StandsFor h c.project kind entries name := by
  unfold expandAll at success
  split at success
  · next none =>
      rw [List.isEmpty_iff.mp none]
      cases success
      simp only [StandsFor, List.not_mem_nil, false_and, exists_false, and_false, or_false]
  · exact mem_expandPrefixes success name

/-- A placement is made of the names that the entries expand to. -/
theorem expanded_of_resolve (success : (resolve c h).result = .ok place) :
    ∃ zones regions, (expandAll c h .zones c.zones).result = .ok zones ∧
      (expandAll c h .regions c.regions).result = .ok regions ∧
      (c.zones = [] ∨ c.regions = []) ∧
      place = if zones.isEmpty && regions.isEmpty then ⟨[defaultZone], []⟩
        else ⟨zones, regions⟩ := by
  unfold resolve at success
  by_cases conflict : (!c.zones.isEmpty && !c.regions.isEmpty) = true
  · rw [if_pos conflict] at success
    cases success
  · rw [if_neg conflict] at success
    obtain ⟨regions, expandedRegions, success⟩ := Traced.result_bind_eq_ok.mp success
    obtain ⟨zones, expandedZones, success⟩ := Traced.result_bind_eq_ok.mp success
    refine ⟨zones, regions, expandedZones, expandedRegions, ?_, (Except.ok.inj success).symm⟩
    simpa only [Bool.and_eq_true, Bool.not_eq_true', not_and_or, Bool.not_eq_false,
      List.isEmpty_iff] using conflict

/-- What a configuration leaves out is not named either. -/
theorem names_of_resolve (success : (resolve c h).result = .ok place) :
    ∃ zones regions, (zones = [] ∨ regions = []) ∧
      place = if zones.isEmpty && regions.isEmpty then ⟨[defaultZone], []⟩
        else ⟨zones, regions⟩ := by
  obtain ⟨zones, regions, expandedZones, expandedRegions, exclusive, same⟩ :=
    expanded_of_resolve success
  refine ⟨zones, regions, ?_, same⟩
  rcases exclusive with none | none
  · rw [none] at expandedZones
    exact .inl (Except.ok.inj expandedZones).symm
  · rw [none] at expandedRegions
    exact .inr (Except.ok.inj expandedRegions).symm

/-- Exactly one of both kinds is named. -/
theorem isEmpty_zones_of_resolve (success : (resolve c h).result = .ok place) :
    place.zones.isEmpty = !place.regions.isEmpty := by
  obtain ⟨zones, regions, exclusive, rfl⟩ := names_of_resolve success
  rcases exclusive with rfl | rfl
  · cases regions <;> rfl
  · cases zones <;> rfl

theorem mem_regions_of_resolve (success : (resolve c h).result = .ok place) (name : String) :
    name ∈ place.regions ↔ StandsFor h c.project .regions c.regions name := by
  obtain ⟨zones, regions, -, expanded, -, rfl⟩ := expanded_of_resolve success
  rw [← mem_expandAll expanded]
  split
  · next none =>
      rw [Bool.and_eq_true] at none
      rw [List.isEmpty_iff.mp none.2]
  · rfl

/-- The default zone is named if there is nothing that the entries stand for. -/
theorem mem_zones_of_resolve (success : (resolve c h).result = .ok place) (name : String) :
    name ∈ place.zones ↔ StandsFor h c.project .zones c.zones name ∨
      name = defaultZone ∧ ∀ other, ¬ StandsFor h c.project .zones c.zones other ∧
        ¬ StandsFor h c.project .regions c.regions other := by
  obtain ⟨zones, regions, expandedZones, expandedRegions, -, rfl⟩ := expanded_of_resolve success
  simp only [← mem_expandAll expandedZones, ← mem_expandAll expandedRegions]
  have nothing : (zones.isEmpty && regions.isEmpty) = true ↔
      ∀ other, other ∉ zones ∧ other ∉ regions := by
    simp only [Bool.and_eq_true, List.isEmpty_iff, List.eq_nil_iff_forall_not_mem, forall_and]
  rw [← nothing]
  by_cases none : (zones.isEmpty && regions.isEmpty) = true
  · have absent : name ∉ zones := (nothing.mp none name).1
    rw [if_pos none]
    simp only [List.mem_singleton, absent, false_or, none, and_true]
  · rw [if_neg none]
    simp only [none, Bool.false_eq_true, and_false, or_false]

end Placement

end BatchJob
