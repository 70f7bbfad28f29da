import BatchJob.Proofs.Assembly
import BatchJob.Proofs.Assembly.Steps

set_option autoImplicit false

/-!
Zones and regions exclude each other, from the configuration to the request, and so places are
listed once at most: for the kind that the configuration names, if one of its entries is a wildcard.
-/

namespace BatchJob

/-- The project and the kind of place that a step lists. -/
def Step.listed? : Step → Option (String × LocationKind)
  | list project kind => some (project, kind)
  | _ => none

def Steps.listings (steps : List Step) : List (String × LocationKind) :=
  steps.filterMap Step.listed?

namespace Traced

variable {ε α β : Type}

def listings (t : Traced ε α) : List (String × LocationKind) := Steps.listings t.steps

theorem listings_of_nil (result : Except ε α) : (⟨result, []⟩ : Traced ε α).listings = [] := rfl

theorem listings_bind_of_ok {first : Traced ε α} {a : α} (success : first.result = .ok a)
    (next : α → Traced ε β) :
    (first >>= next).listings = first.listings ++ (next a).listings := by
  rw [listings, steps_bind_of_ok first next a success]
  exact List.filterMap_append

theorem listings_bind_of_error {first : Traced ε α} {e : ε} (failed : first.result = .error e)
    (next : α → Traced ε β) : (first >>= next).listings = first.listings := by
  rw [bind_of_error first next e failed]
  rfl

/-- A computation that goes on without a listing lists what its first part lists. -/
theorem listings_bind_of_quiet (first : Traced ε α) {next : α → Traced ε β}
    (quiet : ∀ a, (next a).listings = []) : (first >>= next).listings = first.listings := by
  cases part : first.result with
  | error e => exact listings_bind_of_error part next
  | ok a => rw [listings_bind_of_ok part next, quiet, List.append_nil]

theorem Only.listings_eq {t : Traced ε α} (only : t.Only fun s => s.listed? = none) :
    t.listings = [] :=
  List.filterMap_eq_nil_iff.mpr only

end Traced

variable {c : Config} {h : Host}

def Config.entriesFor (c : Config) : LocationKind → List String
  | .zones => c.zones
  | .regions => c.regions

def Config.Wild (c : Config) (kind : LocationKind) : Prop :=
  ∃ front, front ++ "*" ∈ c.entriesFor kind

theorem listings_locations (project : String) (kind : LocationKind) :
    (h.locations project kind).listings = if h.lister.isSome then [(project, kind)] else [] := by
  unfold Host.locations
  cases h.lister with
  | none => rfl
  | some lister => rfl

theorem isEmpty_wildcards_iff {entries : List String} :
    (entries.filterMap wildcard?).isEmpty = true ↔ ∀ front, front ++ "*" ∉ entries := by
  rw [List.isEmpty_iff, List.filterMap_eq_nil_iff]
  simp only [← Option.isNone_iff_eq_none, isNone_wildcard?_iff]
  exact ⟨fun literal front member => literal _ member front rfl,
    fun literal entry member front same => literal front (same ▸ member)⟩

namespace Placement

theorem listings_expandAll (c : Config) (h : Host) (kind : LocationKind) :
    (¬ c.Wild kind → (expandAll c h kind (c.entriesFor kind)).listings = []) ∧
      (c.Wild kind → (expandAll c h kind (c.entriesFor kind)).listings =
        (h.locations c.project kind).listings) := by
  unfold expandAll expandPrefixes
  constructor
  · intro literal
    have none := isEmpty_wildcards_iff.mpr (not_exists.mp literal)
    simp only [none, if_true]
    split <;> rfl
  · rintro ⟨front, member⟩
    have filled : (c.entriesFor kind).isEmpty = false :=
      List.isEmpty_eq_false_iff.mpr (List.ne_nil_of_mem member)
    have some : ¬ ((c.entriesFor kind).filterMap wildcard?).isEmpty = true := fun none =>
      isEmpty_wildcards_iff.mp none front member
    rw [if_neg (Bool.eq_false_iff.mp filled), if_neg some]
    exact Traced.listings_bind_of_quiet _ fun _ => rfl

/-- Where only one kind of place is named, regions that fail leave no zones to be listed. -/
theorem listings_resolve (exclusive : c.zones = [] ∨ c.regions = []) :
    (resolve c h).listings = (expandAll c h .regions c.regions).listings ++
      (expandAll c h .zones c.zones).listings := by
  have single : ¬ (!c.zones.isEmpty && !c.regions.isEmpty) = true := by
    rcases exclusive with none | none <;> simp [none]
  unfold resolve
  rw [if_neg single]
  rcases exclusive with none | none
  · have nothing : expandAll c h .zones c.zones = ⟨.ok [], []⟩ := by
      rw [none]
      rfl
    rw [nothing, Traced.listings_of_nil, List.append_nil]
    exact Traced.listings_bind_of_quiet _ fun _ => rfl
  · have nothing : expandAll c h .regions c.regions = ⟨.ok [], []⟩ := by
      rw [none]
      rfl
    rw [nothing, Traced.ok_bind, Traced.listings_of_nil, List.nil_append]
    exact Traced.listings_bind_of_quiet _ fun _ => rfl

theorem listings_resolve_of_wild (exclusive : c.zones = [] ∨ c.regions = []) {kind : LocationKind}
    (wild : c.Wild kind) : (resolve c h).listings = (h.locations c.project kind).listings := by
  have zones := listings_expandAll c h .zones
  have regions := listings_expandAll c h .regions
  have literal (other : LocationKind) (none : c.entriesFor other = []) : ¬ c.Wild other := by
    rintro ⟨front, member⟩
    rw [none] at member
    cases member
  have named : c.entriesFor kind ≠ [] := wild.elim fun _ member => List.ne_nil_of_mem member
  rw [listings_resolve exclusive]
  cases kind with
  | zones =>
      have nowhere := regions.1 (literal .regions (exclusive.resolve_left named))
      exact (congrArg₂ (· ++ ·) nowhere (zones.2 wild)).trans (List.nil_append _)
  | regions =>
      have nowhere := zones.1 (literal .zones (exclusive.resolve_right named))
      exact (congrArg₂ (· ++ ·) (regions.2 wild) nowhere).trans (List.append_nil _)

theorem listings_resolve_of_literal (exclusive : c.zones = [] ∨ c.regions = [])
    (literal : ∀ kind, ¬ c.Wild kind) : (resolve c h).listings = [] := by
  rw [listings_resolve exclusive]
  exact congrArg₂ (· ++ ·) ((listings_expandAll c h .regions).1 (literal .regions))
    ((listings_expandAll c h .zones).1 (literal .zones))

end Placement

/-- Nothing is listed while inputs and outputs are staged. -/
theorem Staging.listings_plan (c : Config) (h : Host) : (plan c h).listings = [] :=
  (Staging.only_plan c h fun _ => rfl).listings_eq

theorem Config.exclusive_of_validate (valid : c.validate = .ok ()) :
    c.zones = [] ∨ c.regions = [] := by
  unfold validate at valid
  split at valid
  · cases valid
  · next single =>
      simpa only [Bool.and_eq_true, Bool.not_eq_true', not_and_or, Bool.not_eq_false,
        List.isEmpty_iff] using single

namespace Assembly

/-- A configuration with both zones and regions is refused before anything is read or listed. -/
theorem assemble_of_both (zones : c.zones ≠ []) (regions : c.regions ≠ []) (job : List Action) :
    assemble c h job = ⟨.error .conflictingLocations, []⟩ := by
  have refused : c.validate = .error .conflictingLocations := by
    rw [Config.validate, List.isEmpty_eq_false_iff.mpr zones, List.isEmpty_eq_false_iff.mpr regions]
    rfl
  unfold assemble
  rw [refused]
  rfl

/-- Whether a configuration is accepted and its inputs and outputs are staged. -/
def Prepared (c : Config) (h : Host) : Prop :=
  c.validate = .ok () ∧ ∃ plan, (Staging.plan c h).result = .ok plan

theorem listings_assemble_of_prepared (prepared : Prepared c h) (job : List Action) :
    (assemble c h job).listings = (Placement.resolve c h).listings := by
  obtain ⟨valid, plan, planned⟩ := prepared
  unfold assemble
  rw [valid]
  refine (Traced.listings_bind_of_ok planned _).trans ?_
  rw [Staging.listings_plan, List.nil_append]
  exact Traced.listings_bind_of_quiet _ fun _ => rfl

theorem listings_assemble_of_unprepared (unprepared : ¬ Prepared c h) (job : List Action) :
    (assemble c h job).listings = [] := by
  unfold assemble
  cases valid : c.validate with
  | error e => rfl
  | ok =>
      cases planned : (Staging.plan c h).result with
      | error e =>
          refine (Traced.listings_bind_of_error planned _).trans ?_
          exact Staging.listings_plan c h
      | ok plan => exact absurd ⟨valid, plan, planned⟩ unprepared

/-- What is listed while a request is assembled: nothing, or places of the one kind that the
configuration has a wildcard for. -/
theorem listings_assemble_eq (prepared : Prepared c h) (job : List Action) {kind : LocationKind}
    (wild : c.Wild kind) :
    (assemble c h job).listings = if h.lister.isSome then [(c.project, kind)] else [] := by
  rw [listings_assemble_of_prepared prepared job,
    Placement.listings_resolve_of_wild (Config.exclusive_of_validate prepared.1) wild,
    listings_locations]

theorem listings_assemble_of_literal (literal : ∀ kind, ¬ c.Wild kind) (job : List Action) :
    (assemble c h job).listings = [] := by
  by_cases prepared : Prepared c h
  · rw [listings_assemble_of_prepared prepared job,
      Placement.listings_resolve_of_literal (Config.exclusive_of_validate prepared.1) literal]
  · exact listings_assemble_of_unprepared prepared job

theorem listings_assemble_iff (c : Config) (h : Host) (job : List Action) (kind : LocationKind) :
    (assemble c h job).listings = [(c.project, kind)] ↔
      Prepared c h ∧ c.Wild kind ∧ h.lister.isSome = true := by
  constructor
  · intro listed
    have prepared : Prepared c h := by
      by_contra unprepared
      rw [listings_assemble_of_unprepared unprepared job] at listed
      cases listed
    by_cases wild : ∃ other, c.Wild other
    · obtain ⟨other, wild⟩ := wild
      rw [listings_assemble_eq prepared job wild] at listed
      split at listed
      · next asked =>
          cases listed
          exact ⟨prepared, wild, asked⟩
      · cases listed
    · rw [listings_assemble_of_literal (not_exists.mp wild) job] at listed
      cases listed
  · rintro ⟨prepared, wild, asked⟩
    rw [listings_assemble_eq prepared job wild, if_pos asked]

theorem listings_assemble_cases (c : Config) (h : Host) (job : List Action) :
    (assemble c h job).listings = [] ∨
      ∃ kind, (assemble c h job).listings = [(c.project, kind)] := by
  by_cases prepared : Prepared c h
  · by_cases wild : ∃ kind, c.Wild kind
    · obtain ⟨kind, wild⟩ := wild
      rw [listings_assemble_eq prepared job wild]
      split
      · exact .inr ⟨kind, rfl⟩
      · exact .inl rfl
    · exact .inl (listings_assemble_of_literal (not_exists.mp wild) job)
  · exact .inl (listings_assemble_of_unprepared prepared job)

def refuses : String → LocationKind → Except JobError (List String) := fun _ kind =>
  .error (.config (.lookup kind.name "no location lister configured"))

theorem result_locations_of_unlisted (unlisted : h.lister = none) (project : String)
    (kind : LocationKind) : (h.locations project kind).result =
      (({ h with lister := some refuses } : Host).locations project kind).result := by
  unfold Host.locations
  rw [unlisted]
  rfl

theorem result_expandAll_of_unlisted (unlisted : h.lister = none) (kind : LocationKind)
    (entries : List String) : (Placement.expandAll c h kind entries).result =
      (Placement.expandAll c { h with lister := some refuses } kind entries).result := by
  unfold Placement.expandAll expandPrefixes
  split
  · rfl
  · dsimp only
    split
    · rfl
    · refine Traced.result_bind_congr ?_ fun _ => rfl
      have same := result_locations_of_unlisted unlisted c.project kind
      exact congrArg (Except.mapError fun e => ConfigError.lookup kind.name e.message) same

/-- A job without a listing comes to what a listing that always refuses makes of it. -/
theorem result_assemble_of_unlisted (unlisted : h.lister = none) (job : List Action) :
    (assemble c h job).result = (assemble c { h with lister := some refuses } job).result := by
  have places : (Placement.resolve c h).result =
      (Placement.resolve c { h with lister := some refuses }).result := by
    unfold Placement.resolve
    split
    · rfl
    · exact Traced.result_bind_congr (result_expandAll_of_unlisted unlisted .regions c.regions)
        fun _ => Traced.result_bind_congr (result_expandAll_of_unlisted unlisted .zones c.zones)
          fun _ => rfl
  exact Traced.result_bind_congr rfl fun _ => Traced.result_bind_congr rfl fun _ =>
    Traced.result_bind_congr places fun _ => rfl

/-- With both zones and regions a configuration is refused before anything is read or listed, and
every assembled request has places of exactly one kind. Whatever a run comes to, it lists nothing,
or the places of the configured project once, of a kind for which the configuration has a wildcard;
it does so exactly if everything before was successful and there is such a wildcard. -/
theorem listsOnce_of_assemble (c : Config) (h : Host) (job : List Action) :
    (c.zones ≠ [] → c.regions ≠ [] → assemble c h job = ⟨.error .conflictingLocations, []⟩) ∧
    (∀ r, (assemble c h job).result = .ok r →
      (r.pipeline.resources.zones ≠ [] ↔ r.pipeline.resources.regions = []) ∧
        r.pipeline.resources.validate = .ok ()) ∧
    ((assemble c h job).listings = [] ∨
      ∃ kind, (assemble c h job).listings = [(c.project, kind)]) ∧
    (∀ kind, (assemble c h job).listings = [(c.project, kind)] ↔
      Prepared c h ∧ c.Wild kind ∧ h.lister.isSome = true) ∧
    (h.lister = none →
      (assemble c h job).result = (assemble c { h with lister := some refuses } job).result) := by
  refine ⟨fun zones regions => assemble_of_both zones regions job, fun r success => ?_,
    listings_assemble_cases c h job, listings_assemble_iff c h job,
    fun unlisted => result_assemble_of_unlisted unlisted job⟩
  refine ⟨?_, validate_of_assemble success⟩
  obtain ⟨plan, place, -, placed, rfl⟩ := parts_of_assemble success
  have exclusive := Placement.isEmpty_zones_of_resolve placed
  change place.zones ≠ [] ↔ place.regions = []
  rw [← List.isEmpty_eq_false_iff, ← List.isEmpty_iff, exclusive, Bool.not_eq_false']

end Assembly

end BatchJob
