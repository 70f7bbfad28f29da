import BatchJob.Config
import BatchJob.Proofs.Duration.Seconds
import BatchJob.Proofs.Json.Members

set_option autoImplicit false

/-!
Settings are read back from their JSON, and each setting on its own: whatever members are removed
from it, the settings of the others are read and those of the removed ones have their defaults.
-/

namespace BatchJob

/-- A span of whole seconds, one at least and `2 ^ 53` at most. -/
def Duration.IsWhole (d : Duration) : Prop :=
  ∃ n, 1 ≤ n ∧ n ≤ 2 ^ 53 ∧ d.nanoseconds = n * perSecond

namespace Config

open Json (bind_of_some)

/-- Both spans of time are left out or are whole seconds. -/
structure WholeSeconds (c : Config) : Prop where
  timeout : ∀ d, c.timeout = some d → d.IsWhole
  outputInterval : ∀ d, c.outputInterval = some d → d.IsWhole

/-- The settings with the defaults of those that were removed. -/
def reset (c : Config) (removed : List String) : Config :=
  let d : Config := {}
  { project := if "project" ∈ removed then d.project else c.project
    name := if "name" ∈ removed then d.name else c.name
    command := if "command" ∈ removed then d.command else c.command
    script := if "script" ∈ removed then d.script else c.script
    inputs := if "inputs" ∈ removed then d.inputs else c.inputs
    outputs := if "outputs" ∈ removed then d.outputs else c.outputs
    environment := if "environment" ∈ removed then d.environment else c.environment
    labels := if "labels" ∈ removed then d.labels else c.labels
    vmLabels := if "vm_labels" ∈ removed then d.vmLabels else c.vmLabels
    scopes := if "scopes" ∈ removed then d.scopes else c.scopes
    zones := if "zones" ∈ removed then d.zones else c.zones
    regions := if "regions" ∈ removed then d.regions else c.regions
    output := if "output" ∈ removed then d.output else c.output
    outputInterval := if "output_interval" ∈ removed then d.outputInterval else c.outputInterval
    dryRun := if "dry_run" ∈ removed then d.dryRun else c.dryRun
    wait := if "wait" ∈ removed then d.wait else c.wait
    machineType := if "machine_type" ∈ removed then d.machineType else c.machineType
    diskSizeGb := if "disk_size_gb" ∈ removed then d.diskSizeGb else c.diskSizeGb
    diskType := if "disk_type" ∈ removed then d.diskType else c.diskType
    diskImage := if "disk_image" ∈ removed then d.diskImage else c.diskImage
    bootDiskSizeGb := if "boot_disk_size_gb" ∈ removed then d.bootDiskSizeGb else c.bootDiskSizeGb
    privateAddress := if "private_address" ∈ removed then d.privateAddress else c.privateAddress
    cloudSdkImage := if "cloud_sdk_image" ∈ removed then d.cloudSdkImage else c.cloudSdkImage
    fuseImage := if "fuse_image" ∈ removed then d.fuseImage else c.fuseImage
    debugImage := if "debug_image" ∈ removed then d.debugImage else c.debugImage
    timeout := if "timeout" ∈ removed then d.timeout else c.timeout
    image := if "image" ∈ removed then d.image else c.image
    attempts := if "attempts" ∈ removed then d.attempts else c.attempts
    pvmAttempts := if "pvm_attempts" ∈ removed then d.pvmAttempts else c.pvmAttempts
    gpus := if "gpus" ∈ removed then d.gpus else c.gpus
    gpuType := if "gpu_type" ∈ removed then d.gpuType else c.gpuType
    fuse := if "fuse" ∈ removed then d.fuse else c.fuse
    ssh := if "ssh" ∈ removed then d.ssh else c.ssh
    network := if "network" ∈ removed then d.network else c.network
    subnetwork := if "subnetwork" ∈ removed then d.subnetwork else c.subnetwork
    sharePids := if "share_pids" ∈ removed then d.sharePids else c.sharePids
    cosChannel := if "cos_channel" ∈ removed then d.cosChannel else c.cosChannel
    serviceAccount := if "service_account" ∈ removed then d.serviceAccount else c.serviceAccount }

theorem nullable?_ofNullable (x : Option String) :
    Json.nullable? Json.text? (Json.ofNullable Json.text x) = some x := by
  cases x <;> rfl

theorem duration?_durationJson {x : Option Duration} (whole : ∀ d, x = some d → d.IsWhole) :
    duration? (durationJson x) = some x := by
  cases x with
  | none => rfl
  | some d =>
      obtain ⟨n, positive, small, exact⟩ := whole d rfl
      have text : d.format = String.ofList (Nat.toDigits 10 n ++ ['s']) :=
        Duration.format_of_whole exact small
      have filled : d.format.isEmpty = false := by
        rw [text, String.isEmpty_eq_false_iff]
        simp
      have lasting : d.nanoseconds ≠ 0 := by
        rw [exact]
        exact Nat.mul_ne_zero (Nat.ne_of_gt positive) (by decide)
      change (if d.format.isEmpty then some none else _) = _
      rw [filled, Duration.parse_format exact small]
      exact congrArg some (if_neg lasting)

theorem nodup_toFields (c : Config) : (c.toFields.map (·.1)).Nodup := by
  change fieldNames.Nodup
  decide

section

variable {c : Config} {removed : List String} {members : List (String × Json)}

/-- A removed field has its default, and any other one its value. -/
theorem bind_of_removed {α β : Type} {name : String} {default a : α} {read : Json → Option α}
    {j : Json} {next : α → Option β} {result : Option β}
    (rest : members.Perm (c.toFields.filter fun m => m.1 ∉ removed))
    (here : c.toFields.lookup name = some j) (value : read j = some a)
    (later : next (if name ∈ removed then default else a) = result) :
    ((⟨false, fun name => members.lookup name⟩ : Json.Fields).optional name default read >>=
      next) = result := by
  have left : members.lookup name = if name ∈ removed then none else some j := by
    rw [Json.lookup_of_removed c.nodup_toFields rest, here]
  exact bind_of_some (Json.Fields.optional_of_removed left value) later

/-- Every field that is not removed has its value, in whatever order they stand. -/
theorem ofJson?_of_removed (whole : c.WholeSeconds)
    (rest : members.Perm (c.toFields.filter fun m => m.1 ∉ removed)) :
    ofJson? (.record members) = some (c.reset removed) := by
  have names : (members.map (·.1)).Nodup := Json.nodup_of_removed c.nodup_toFields rest
  refine bind_of_some (Json.fields?_record names fieldNames) ?_
  refine bind_of_removed rest rfl rfl ?_
  refine bind_of_removed rest rfl (nullable?_ofNullable _) ?_
  refine bind_of_removed rest rfl (nullable?_ofNullable _) ?_
  refine bind_of_removed rest rfl (nullable?_ofNullable _) ?_
  refine bind_of_removed rest rfl (Json.list?_texts _) ?_
  refine bind_of_removed rest rfl (Json.list?_texts _) ?_
  refine bind_of_removed rest rfl (Json.dict?_texts _) ?_
  refine bind_of_removed rest rfl (Json.dict?_texts _) ?_
  refine bind_of_removed rest rfl (Json.dict?_texts _) ?_
  refine bind_of_removed rest rfl (Json.list?_texts _) ?_
  refine bind_of_removed rest rfl (Json.list?_texts _) ?_
  refine bind_of_removed rest rfl (Json.list?_texts _) ?_
  refine bind_of_removed rest rfl (nullable?_ofNullable _) ?_
  refine bind_of_removed rest rfl (duration?_durationJson whole.outputInterval) ?_
  refine bind_of_removed rest rfl rfl ?_
  refine bind_of_removed rest rfl rfl ?_
  refine bind_of_removed rest rfl rfl ?_
  refine bind_of_removed rest rfl (Json.word64?_nat _) ?_
  refine bind_of_removed rest rfl rfl ?_
  refine bind_of_removed rest rfl (nullable?_ofNullable _) ?_
  refine bind_of_removed rest rfl (Json.word64?_nat _) ?_
  refine bind_of_removed rest rfl rfl ?_
  refine bind_of_removed rest rfl rfl ?_
  refine bind_of_removed rest rfl rfl ?_
  refine bind_of_removed rest rfl rfl ?_
  refine bind_of_removed rest rfl (duration?_durationJson whole.timeout) ?_
  refine bind_of_removed rest rfl rfl ?_
  refine bind_of_removed rest rfl (Json.word32?_nat _) ?_
  refine bind_of_removed rest rfl (Json.word32?_nat _) ?_
  refine bind_of_removed rest rfl (Json.word32?_nat _) ?_
  refine bind_of_removed rest rfl rfl ?_
  refine bind_of_removed rest rfl rfl ?_
  refine bind_of_removed rest rfl rfl ?_
  refine bind_of_removed rest rfl (nullable?_ofNullable _) ?_
  refine bind_of_removed rest rfl (nullable?_ofNullable _) ?_
  refine bind_of_removed rest rfl rfl ?_
  refine bind_of_removed rest rfl (nullable?_ofNullable _) ?_
  refine bind_of_removed rest rfl (nullable?_ofNullable _) ?_
  rfl

theorem plain_ofNullable (x : Option String) (levels : Nat) :
    Json.Plain levels (Json.ofNullable Json.text x) := by
  cases x with
  | none => exact .null
  | some s => exact .text s

theorem plain_durationJson (x : Option Duration) (levels : Nat) :
    Json.Plain levels (durationJson x) := by
  cases x with
  | none => exact .null
  | some d => exact .text d.format

theorem plain_toFields (c : Config) : ∀ m ∈ c.toFields, Json.Plain 1 m.2 := by
  have word64 (n : UInt64) : Json.Plain 1 (.nat n.toNat) := .nat n.toNat_lt
  have word32 (n : UInt32) : Json.Plain 1 (.nat n.toNat) :=
    .nat (Nat.lt_trans n.toNat_lt (by decide))
  simp only [toFields, List.forall_mem_cons, List.not_mem_nil, false_implies, implies_true,
    Json.Plain.text, Json.Plain.bool, plain_ofNullable, plain_durationJson, word64, word32,
    Json.plain_texts, Json.plain_ofDict _ Json.Plain.text, and_self]

theorem plain_record_of_removed
    (rest : members.Perm (c.toFields.filter fun m => m.1 ∉ removed)) :
    Json.Plain 2 (.record members) := by
  apply Json.Plain.record (Json.nodup_of_removed c.nodup_toFields rest)
  intro m member
  exact c.plain_toFields m (List.mem_of_mem_filter (rest.mem_iff.mp member))

end

theorem reset_nil (c : Config) : c.reset [] = c := by
  simp [reset]

/-- Members may be removed from the JSON of settings and the others written in any order, on one
line or indented: what is read has the defaults of the removed ones and is the same otherwise.
Nothing is lost if none is removed. -/
theorem parse?_of_removed {c : Config} (whole : c.WholeSeconds) :
    (∀ removed members, members.Perm (c.toFields.filter fun m => m.1 ∉ removed) →
      parse? (Json.record members).compact = some (c.reset removed) ∧
      parse? (Json.record members).pretty = some (c.reset removed)) ∧
    parse? c.toJson.compact = some c := by
  have reads : ∀ removed members, members.Perm (c.toFields.filter fun m => m.1 ∉ removed) →
      parse? (Json.record members).compact = some (c.reset removed) ∧
      parse? (Json.record members).pretty = some (c.reset removed) := by
    intro removed members rest
    have plain := plain_record_of_removed rest
    have read := ofJson?_of_removed whole rest
    constructor
    · exact bind_of_some (Json.parse?_of_legible (plain.legible Json.blank_compact)) read
    · exact bind_of_some plain.parse?_pretty read
  have all : c.toFields.Perm (c.toFields.filter fun m => m.1 ∉ []) := by simp
  have same := (reads [] c.toFields all).1
  rw [reset_nil] at same
  exact ⟨reads, same⟩

/-- The longest span, and two settings that are removed from the middle and the end. -/
theorem parse?_of_removed_longest :
    let c : Config := { project := "p", wait := false, attempts := 3, network := some ""
                        timeout := some ⟨2 ^ 53 * Duration.perSecond, by decide⟩
                        outputInterval := some ⟨90 * Duration.perSecond, by decide⟩ }
    let rest := c.toFields.filter fun m => m.1 ∉ ["wait", "network"]
    c.WholeSeconds ∧ parse? (Json.record rest.reverse).compact =
      some { c with wait := true, network := none } := by
  intro c rest
  have whole : c.WholeSeconds := by
    constructor
    · intro d here
      cases here
      exact ⟨2 ^ 53, by decide, by decide, rfl⟩
    · intro d here
      cases here
      exact ⟨90, by decide, by decide, rfl⟩
  exact ⟨whole, ((parse?_of_removed whole).1 ["wait", "network"] rest.reverse
    rest.reverse_perm).1⟩

end Config

end BatchJob
