import BatchJob.Proofs.Assembly

set_option autoImplicit false

/-!
Where an assembled request may run: in the places that the configuration asks for, and in the
default zone if none of them is found, even where the configuration asks for others.
-/

namespace BatchJob.Assembly

/-- A request names the places that the entries of its configuration stand for, and nothing else;
the default zone takes their place exactly if there is none at all. -/
theorem placed_iff {c : Config} {h : Host} {place : Placement}
    (success : (Placement.resolve c h).result = .ok place) :
    (∀ name, name ∈ place.regions ↔ StandsFor h c.project .regions c.regions name) ∧
    (∀ name, name ∈ place.zones ↔ StandsFor h c.project .zones c.zones name ∨
      name = defaultZone ∧ ∀ other, ¬ StandsFor h c.project .zones c.zones other ∧
        ¬ StandsFor h c.project .regions c.regions other) ∧
    ∀ job r, (assemble c h job).result = .ok r →
      r.pipeline.resources.zones = place.zones ∧ r.pipeline.resources.regions = place.regions := by
  refine ⟨Placement.mem_regions_of_resolve success, Placement.mem_zones_of_resolve success, ?_⟩
  intro job r assembled
  obtain ⟨plan, found, -, resolved, rfl⟩ := parts_of_assemble assembled
  have same : found = place := Except.ok.inj (resolved.symm.trans success)
  rw [← same]
  exact ⟨rfl, rfl⟩

theorem placed_mixed :
    let c : Config := { zones := ["us-*", "asia-east1-a"] }
    let h : Host := ⟨fun _ => .error .notFound, .error .notFound,
      some fun _ _ => .ok ["asia-east1-b", "us-east1-b", "us-west1-a"]⟩
    ∃ place, (Placement.resolve c h).result = .ok place ∧ place.regions = [] ∧
      ∀ name ∈ place.zones, StandsFor h c.project .zones c.zones name := by
  intro c h
  have resolved : (Placement.resolve c h).result =
      .ok ⟨["asia-east1-a", "us-east1-b", "us-west1-a"], []⟩ := by decide
  obtain ⟨-, zones, -⟩ := placed_iff resolved
  refine ⟨_, resolved, rfl, fun name member => ?_⟩
  rcases (zones name).mp member with asked | ⟨-, none⟩
  · exact asked
  · have found := (zones "us-east1-b").mp (by decide)
    rcases found with asked | ⟨other, -⟩
    · exact absurd asked (none _).1
    · exact absurd other (by decide)

/-- Where nothing that is listed begins like the only entry, the run goes to a zone that the
configuration does not ask for. -/
theorem not_asked_default :
    let c : Config := { zones := ["europe-*"] }
    let h : Host := ⟨fun _ => .error .notFound, .error .notFound,
      some fun _ _ => .ok ["us-central1-a"]⟩
    ∃ place, (Placement.resolve c h).result = .ok place ∧ ∃ zone ∈ place.zones,
      zone ∉ c.zones ∧ ∀ front, front ++ "*" ∈ c.zones → ¬ front.toList <+: zone.toList := by
  intro c h
  have resolved : (Placement.resolve c h).result = .ok ⟨[defaultZone], []⟩ := by decide
  refine ⟨_, resolved, defaultZone, List.mem_cons_self, by decide, fun front member => ?_⟩
  have cut : wildcard? "europe-*" = some "europe-".toList := by decide
  have text : wildcard? "europe-*" = some front.toList := by
    rw [wildcard?_eq_some_iff, String.ofList_toList]
    exact (List.mem_singleton.mp member).symm
  rw [← Option.some.inj (cut.symm.trans text)]
  decide

end BatchJob.Assembly
