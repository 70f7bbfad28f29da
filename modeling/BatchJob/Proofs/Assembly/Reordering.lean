import BatchJob.Proofs.Assembly.Machine
import BatchJob.Proofs.Staging.Reordering

set_option autoImplicit false

/-!
Requests for the same inputs in another order. Where the inputs have names of their own, the steps
that bring them trade places, and nothing else about the request changes.
-/

namespace BatchJob.Assembly

open Specifier (NamedApart)

variable {c : Config} {h : Host} {p q : Staging.Plan} {job : List Action} {inputs : List String}

theorem exists_assemble_iff_of_perm (apart : NamedApart c.inputs) (moved : inputs.Perm c.inputs) :
    (∃ s, (assemble (c.withInputs inputs) h job).result = .ok s) ↔
      ∃ r, (assemble c h job).result = .ok r := by
  have plans : (∃ q, (Staging.plan (c.withInputs inputs) h).result = .ok q) ↔
      ∃ p, (Staging.plan c h).result = .ok p := Staging.exists_plan_iff_of_perm apart moved
  simp only [assemble_eq_ok_iff]
  constructor
  · rintro ⟨s, valid, q, place, again, placed, -⟩
    obtain ⟨p, planned⟩ := plans.mp ⟨q, again⟩
    exact ⟨_, valid, p, place, planned, placed, rfl⟩
  · rintro ⟨r, valid, p, place, planned, placed, -⟩
    obtain ⟨q, again⟩ := plans.mpr ⟨p, planned⟩
    exact ⟨_, valid, q, place, again, placed, rfl⟩

/-- The steps of a request for a plan, with some steps in the place of those that bring inputs. -/
def bringing (c : Config) (p : Staging.Plan) (job localizers : List Action) : List Action :=
  makeDirectories c p.directories ++ (if c.ssh then [debugServer c] else []) ++ localizers ++
    (Staging.periodicLogCopy? c).toList ++ job ++ p.delocalizers

/-- Directories are merged before they are made, so their order does not matter. -/
theorem makeDirectories_of_perm {directories others : List String}
    (moved : others.Perm directories) :
    makeDirectories c others = makeDirectories c directories := by
  have merged : Directories.merge others = Directories.merge directories :=
    Directories.merge_eq_merge fun _ => moved.mem_iff
  simp only [makeDirectories, Directories.makeCommand?, merged]

theorem arrange_of_reordered (reordered : p.Reordered q) (job : List Action) :
    arrange c q job = bringing c p job q.localizers := by
  rw [arrange, makeDirectories_of_perm reordered.directories, reordered.delocalizers, bringing]

theorem flatMap_mounts_localizers (planned : (Staging.plan c h).result = .ok p) :
    p.localizers.flatMap (·.mounts) = List.replicate p.localizers.length .workingRoot := by
  rw [List.flatMap_congr (Staging.mounts_of_localizer planned), ← List.map_eq_flatMap,
    List.map_const']

/-- The steps that bring inputs all mount the same disk, so it makes no difference which of them
comes first. -/
theorem diskNames_of_reordered (planned : (Staging.plan c h).result = .ok p)
    (again : (Staging.plan (c.withInputs inputs) h).result = .ok q) (reordered : p.Reordered q)
    (job : List Action) : diskNames (arrange c q job) = diskNames (arrange c p job) := by
  have mounts : q.localizers.flatMap (·.mounts) = p.localizers.flatMap (·.mounts) := by
    rw [flatMap_mounts_localizers planned, flatMap_mounts_localizers again,
      reordered.localizers.length_eq]
  have whole : arrange c p job = bringing c p job p.localizers := rfl
  rw [arrange_of_reordered reordered, whole, diskNames, diskNames, bringing, bringing]
  simp only [List.flatMap_append, mounts]

theorem machine_of_reordered (planned : (Staging.plan c h).result = .ok p)
    (again : (Staging.plan (c.withInputs inputs) h).result = .ok q) (reordered : p.Reordered q)
    (job : List Action) : machine c (arrange c q job) = machine c (arrange c p job) := by
  have disks := diskNames_of_reordered planned again reordered job
  have scopes : scopesFor c (arrange c q job) = scopesFor c (arrange c p job) :=
    (scopesFor_arrange again job).trans (scopesFor_arrange planned job).symm
  rw [machine, machine, disks, scopes]

/-- How two requests for the same inputs in different orders are alike. -/
structure Restaged (c : Config) (h : Host) (job : List Action) (r s : Request) : Prop where
  environment : s.pipeline.environment = r.pipeline.environment
  /-- The places, the disks, the scopes, and all else about the machine. -/
  resources : s.pipeline.resources = r.pipeline.resources
  timeout : s.pipeline.timeout = r.pipeline.timeout
  labels : s.labels = r.labels
  actions : ∃ p localizers, (Staging.plan c h).result = .ok p ∧ localizers.Perm p.localizers ∧
    r.pipeline.actions = (bringing c p job p.localizers).map (inNamespace c) ∧
    s.pipeline.actions = (bringing c p job localizers).map (inNamespace c)

theorem Restaged.eq_of_actions {r s : Request} (restaged : Restaged c h job r s)
    (same : s.pipeline.actions = r.pipeline.actions) : s = r := by
  obtain ⟨⟨actions, environment, resources, timeout⟩, labels⟩ := r
  obtain ⟨⟨others, _, _, _⟩, _⟩ := s
  obtain ⟨rfl, rfl, rfl, rfl, -⟩ := restaged
  have steps : others = actions := same
  rw [steps]

theorem restaged_build (planned : (Staging.plan c h).result = .ok p)
    (again : (Staging.plan (c.withInputs inputs) h).result = .ok q) (reordered : p.Reordered q)
    (job : List Action) (place : Placement) :
    Restaged c h job (build c p job place) (build (c.withInputs inputs) q job place) := by
  refine ⟨?_, ?_, rfl, rfl, p, q.localizers, planned, reordered.localizers, actions_build place, ?_⟩
  · exact congrArg c.environment.extend reordered.environment
  · exact congrArg (Resources.mk c.project place.zones place.regions)
      (machine_of_reordered planned again reordered job)
  · rw [actions_build, ← arrange_of_reordered reordered]
    rfl

/-- The requests for the same inputs in two orders are assembled both or not at all. They stage the
inputs by the same steps in different orders and are equal in all else, and in the order of these
steps too where all inputs lie in buckets that are mounted. -/
theorem restaged_of_assemble (apart : NamedApart c.inputs) (moved : inputs.Perm c.inputs)
    (h : Host) (job : List Action) :
    ((∃ s, (assemble (c.withInputs inputs) h job).result = .ok s) ↔
      ∃ r, (assemble c h job).result = .ok r) ∧
    ∀ r s, (assemble c h job).result = .ok r →
      (assemble (c.withInputs inputs) h job).result = .ok s →
      Restaged c h job r s ∧
      (c.fuse = true → (∀ t ∈ Specifier.parseList "INPUT" c.inputs, t.bucket?.isSome = true) →
        s = r) := by
  refine ⟨exists_assemble_iff_of_perm apart moved, fun r s first second => ?_⟩
  obtain ⟨p, place, planned, placed, rfl⟩ := parts_of_assemble first
  obtain ⟨q, other, again, placedAgain, rfl⟩ := parts_of_assemble second
  obtain rfl : place = other := Except.ok.inj (placed.symm.trans placedAgain)
  have reordered := Staging.reordered_of_perm apart moved planned again
  have restaged := restaged_build planned again reordered job place
  refine ⟨restaged, fun mounting remote => ?_⟩
  apply restaged.eq_of_actions
  have localizers := Staging.localizers_of_perm apart moved planned again mounting remote
  have steps : arrange c q job = arrange c p job := by
    rw [arrange_of_reordered reordered, localizers]
    rfl
  rw [actions_build, actions_build, ← steps]
  rfl

/-- A file and two places in buckets are brought in another order; mounted buckets are not. -/
theorem restaged_of_assemble_turned :
    let c : Config :=
      { ssh := true, outputs := ["DATA=gs://b/o"],
        inputs := ["DATA=gs://b/x", "NOTES=notes", "REFS=gs://a/y/*"] }
    let mounted : Config :=
      { fuse := true, inputs := ["DATA=gs://b/x", "TMPDIR=gs://a/y/*", "MORE=gs://b/z"] }
    let h : Host := ⟨fun _ => .ok [104, 105], .error .notFound, none⟩
    (∃ r s, (assemble c h []).result = .ok r ∧
      (assemble (c.withInputs ["REFS=gs://a/y/*", "DATA=gs://b/x", "NOTES=notes"]) h []).result =
        .ok s ∧ Restaged c h [] r s) ∧
    ∃ r, (assemble mounted h []).result = .ok r ∧
      (assemble (mounted.withInputs ["MORE=gs://b/z", "DATA=gs://b/x", "TMPDIR=gs://a/y/*"]) h
        []).result = .ok r := by
  intro c mounted h
  have apart : NamedApart c.inputs :=
    ⟨["DATA", "NOTES", "REFS"], .cons ⟨by decide, by decide, "gs://b/x", by decide⟩
      (.cons ⟨by decide, by decide, "notes", by decide⟩
        (.cons ⟨by decide, by decide, "gs://a/y/*", by decide⟩ .nil)), by decide⟩
  have apartMounted : NamedApart mounted.inputs :=
    ⟨["DATA", "TMPDIR", "MORE"], .cons ⟨by decide, by decide, "gs://b/x", by decide⟩
      (.cons ⟨by decide, by decide, "gs://a/y/*", by decide⟩
        (.cons ⟨by decide, by decide, "gs://b/z", by decide⟩ .nil)), by decide⟩
  constructor
  · have moved : ["REFS=gs://a/y/*", "DATA=gs://b/x", "NOTES=notes"].Perm c.inputs := by decide
    obtain ⟨exactly, alike⟩ := restaged_of_assemble apart moved h []
    have assembled : ∃ r, (assemble c h []).result = .ok r := ⟨_, rfl⟩
    obtain ⟨s, again⟩ := exactly.mpr assembled
    obtain ⟨r, assembled⟩ := assembled
    exact ⟨r, s, assembled, again, (alike r s assembled again).1⟩
  · have moved : ["MORE=gs://b/z", "DATA=gs://b/x", "TMPDIR=gs://a/y/*"].Perm mounted.inputs := by
      decide
    obtain ⟨exactly, alike⟩ := restaged_of_assemble apartMounted moved h []
    have assembled : ∃ r, (assemble mounted h []).result = .ok r := ⟨_, rfl⟩
    obtain ⟨s, again⟩ := exactly.mpr assembled
    obtain ⟨r, assembled⟩ := assembled
    obtain rfl := (alike r s assembled again).2 rfl (by decide)
    exact ⟨s, assembled, again⟩

end BatchJob.Assembly
