import BatchJob.Proofs.Assembly
import BatchJob.Proofs.Assembly.Directories

set_option autoImplicit false

/-!
The order of the steps of an assembled request. The steps of the job stand as they were given, in
one piece, between those that stage its data; the only thing that is ever changed about a step is
whose processes it sees.
-/

namespace BatchJob.Assembly

/-- A step as it stands in a request. -/
def inNamespace (c : Config) (a : Action) : Action :=
  { a with pidNamespace := if c.sharePids then some "shared" else a.pidNamespace }

variable {c : Config} {h : Host} {r : Request} {p : Staging.Plan} {job : List Action}

/-- Steps are made for all directories at once, so there is one, and there is always something for
it to make. -/
theorem arrange_eq (planned : (Staging.plan c h).result = .ok p) (job : List Action) :
    arrange c p job =
      [Action.shell c.cloudSdkImage
        ("mkdir -p " ++ " ".intercalate (Directories.merge p.directories))] ++
      (if c.ssh then [debugServer c] else []) ++ p.localizers ++
      (Staging.periodicLogCopy? c).toList ++ job ++ p.delocalizers := by
  rw [arrange, makeDirectories_of_plan planned]

theorem actions_build (place : Placement) :
    (build c p job place).pipeline.actions = (arrange c p job).map (inNamespace c) := by
  unfold build inNamespace
  cases shared : c.sharePids with
  | true => rfl
  | false => exact (List.map_id _).symm

theorem getLast?_arrange {destination : String} (planned : (Staging.plan c h).result = .ok p)
    (asked : c.output = some destination) (job : List Action) :
    (arrange c p job).getLast? = some (Staging.finalLogCopy c destination) := by
  rw [arrange, List.getLast?_append, Staging.getLast?_delocalizers planned asked]
  rfl

/-- The step that makes directories belongs to no namespace of its own, so all steps share one only
if that is asked for. -/
theorem shared_iff (planned : (Staging.plan c h).result = .ok p) :
    (∀ a ∈ (arrange c p job).map (inNamespace c), a.pidNamespace = some "shared") ↔
      c.sharePids = true := by
  constructor
  · intro all
    have first := all _ (List.mem_map_of_mem (by rw [arrange_eq planned]; exact List.mem_cons_self))
    cases shared : c.sharePids with
    | true => rfl
    | false =>
        rw [inNamespace, shared] at first
        cases first
  · intro shared a member
    obtain ⟨b, -, rfl⟩ := List.mem_map.mp member
    rw [inNamespace, shared]
    rfl

/-- The steps of a request for a plan and a job. -/
structure Arranged (c : Config) (p : Staging.Plan) (job actions : List Action) : Prop where
  filled : Directories.merge p.directories ≠ []
  /-- Directories are made first; one can log in if that is asked for; inputs are staged; the log is
  copied now and then; the job is done; and outputs are brought back. -/
  order : ∃ logging, Staging.LogCopying c logging ∧
    let making : Action :=
      { imageUri := c.cloudSdkImage, entrypoint := some "bash",
        commands := ["-c", "mkdir -p " ++ " ".intercalate (Directories.merge p.directories)],
        mounts := [{ disk := "google", path := "/mnt/google" }] }
    let login : Action :=
      { imageUri := c.debugImage, entrypoint := some "ssh-server", flags := [.runInBackground],
        portMappings := Dict.ofList [("22", 22)] }
    actions = ([making] ++ (if c.ssh then [login] else []) ++ p.localizers ++ logging ++ job ++
      p.delocalizers).map (inNamespace c)
  shared_iff : (∀ a ∈ actions, a.pidNamespace = some "shared") ↔ c.sharePids = true
  /-- Where there is a place for the log, it is copied there last, whatever happened before. -/
  last : ∀ destination, c.output = some destination → actions.getLast? = some (inNamespace c
    { imageUri := c.cloudSdkImage, entrypoint := some "bash",
      commands := ["-c", "gsutil -q cp /google/logs/output " ++ destination],
      flags := [.alwaysRun], mounts := [{ disk := "google", path := "/mnt/google" }] })

/-- An assembled request stages its data around its job, whose steps stand in one piece. -/
theorem actions_of_assemble (success : (assemble c h job).result = .ok r) :
    ∃ plan, (Staging.plan c h).result = .ok plan ∧ Arranged c plan job r.pipeline.actions := by
  obtain ⟨plan, place, planned, -, rfl⟩ := parts_of_assemble success
  obtain ⟨made, kept, -⟩ := Directories.exists_mem_merge (Staging.temporaryRoot_mem planned)
  rw [actions_build]
  refine ⟨plan, planned, List.ne_nil_of_mem kept, ⟨_, Staging.logCopying c, ?_⟩,
    shared_iff planned, fun destination asked => ?_⟩
  · rw [arrange_eq planned]
    rfl
  · rw [List.getLast?_map, getLast?_arrange planned asked, Staging.finalLogCopy_eq]
    rfl

/-- A job may hold steps like those that stage data, and steps that would keep to themselves. -/
theorem actions_of_assemble_shared :
    let c : Config :=
      { inputs := ["gs://b/in.txt"], outputs := ["gs://b/out/*"], output := some "gs://b/log",
        outputInterval := some ⟨60000000000, by decide⟩, ssh := true, sharePids := true }
    let h : Host := ⟨fun _ => .error .notFound, .error .notFound, none⟩
    let job : List Action :=
      [.shell c.cloudSdkImage "mkdir -p /mnt/google/.google/tmp",
        { imageUri := "ubuntu", pidNamespace := some "own" }]
    ∃ r, (assemble c h job).result = .ok r ∧
      (∀ a ∈ r.pipeline.actions, a.pidNamespace = some "shared") ∧
      ∃ last, r.pipeline.actions.getLast? = some last ∧
        last.commands = ["-c", "gsutil -q cp /google/logs/output gs://b/log"] ∧
        last.flags = [.alwaysRun] := by
  intro c h job
  have assembled : ∃ r, (assemble c h job).result = .ok r := ⟨_, rfl⟩
  obtain ⟨r, assembled⟩ := assembled
  obtain ⟨plan, -, arranged⟩ := actions_of_assemble assembled
  exact ⟨r, assembled, arranged.shared_iff.mpr rfl, _, arranged.last "gs://b/log" rfl, by decide,
    rfl⟩

end BatchJob.Assembly
