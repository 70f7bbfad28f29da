import BatchJob.Duration
import BatchJob.Error.Config
import BatchJob.Json.Reader
import BatchJob.Json.Record

set_option autoImplicit false

/-!
Configurations: everything that shapes a request and its execution, apart from the job itself.
-/

namespace BatchJob

/-- The settings of a run. -/
structure Config where
  project : String := ""
  name : Option String := none
  command : Option String := none
  script : Option String := none
  inputs : List String := []
  outputs : List String := []
  environment : Dict String := .empty
  labels : Dict String := .empty
  vmLabels : Dict String := .empty
  scopes : List String := []
  zones : List String := []
  regions : List String := []
  /-- Where the log of the pipeline is copied to. -/
  output : Option String := none
  /-- How often the log is copied while the pipeline runs. -/
  outputInterval : Option Duration := none
  dryRun : Bool := false
  wait : Bool := true
  machineType : String := "n1-standard-1"
  diskSizeGb : UInt64 := 0
  diskType : String := ""
  diskImage : Option String := none
  bootDiskSizeGb : UInt64 := 0
  privateAddress : Bool := false
  cloudSdkImage : String := "gcr.io/cloud-genomics-pipelines/io"
  fuseImage : String := "gcr.io/cloud-genomics-pipelines/gcsfuse"
  debugImage : String := "gcr.io/cloud-genomics-pipelines/tools"
  timeout : Option Duration := none
  image : String := "bash"
  /-- Attempts on machines that stay. -/
  attempts : UInt32 := 0
  /-- Attempts on preemptible machines, which come first. -/
  pvmAttempts : UInt32 := 1
  gpus : UInt32 := 0
  gpuType : String := "nvidia-tesla-k80"
  /-- Whether remote inputs are mounted instead of copied. -/
  fuse : Bool := false
  ssh : Bool := false
  network : Option String := none
  subnetwork : Option String := none
  sharePids : Bool := false
  cosChannel : Option String := none
  serviceAccount : Option String := none
  deriving DecidableEq

/-- The sum of two numbers of 32 bits, or the greatest such number if that is less. -/
def saturatingAdd (a b : UInt32) : UInt32 :=
  UInt32.ofNat (min (a.toNat + b.toNat) (UInt32.size - 1))

namespace Config

/-- Refuses settings that exclude each other. -/
def validate (c : Config) : Except ConfigError Unit :=
  if !c.zones.isEmpty && !c.regions.isEmpty then .error .conflictingLocations
  else if 0 < c.gpus && c.gpuType.isEmpty then .error (.invalid .gpusWithoutType)
  else .ok ()

/-- How many submissions a run may make. -/
def attemptBudget (c : Config) : UInt32 := saturatingAdd c.pvmAttempts c.attempts

/-- Whether the request is only printed. -/
def isDryRun (c : Config) : Bool := c.dryRun || c.attemptBudget == 0

def fieldNames : List String :=
  ["project", "name", "command", "script", "inputs", "outputs", "environment", "labels",
    "vm_labels", "scopes", "zones", "regions", "output", "output_interval", "dry_run", "wait",
    "machine_type", "disk_size_gb", "disk_type", "disk_image", "boot_disk_size_gb",
    "private_address", "cloud_sdk_image", "fuse_image", "debug_image", "timeout", "image",
    "attempts", "pvm_attempts", "gpus", "gpu_type", "fuse", "ssh", "network", "subnetwork",
    "share_pids", "cos_channel", "service_account"]

/-- A span of time in whole seconds, or `null`. -/
def durationJson : Option Duration → Json :=
  Json.ofNullable fun d => .text d.format

/-- Reads a span of time; `null`, an empty text and no time at all mean none. -/
def duration? (j : Json) : Option (Option Duration) :=
  match Json.nullable? Json.text? j with
  | none => none
  | some none => some none
  | some (some text) =>
    if text.isEmpty then some none
    else
      match Duration.parse text.toList with
      | .error _ => none
      | .ok d => some (if d.nanoseconds = 0 then none else some d)

def toFields (c : Config) : List (String × Json) :=
  let optionalText := Json.ofNullable Json.text
  [("project", .text c.project),
    ("name", optionalText c.name),
    ("command", optionalText c.command),
    ("script", optionalText c.script),
    ("inputs", .texts c.inputs),
    ("outputs", .texts c.outputs),
    ("environment", .ofDict .text c.environment),
    ("labels", .ofDict .text c.labels),
    ("vm_labels", .ofDict .text c.vmLabels),
    ("scopes", .texts c.scopes),
    ("zones", .texts c.zones),
    ("regions", .texts c.regions),
    ("output", optionalText c.output),
    ("output_interval", durationJson c.outputInterval),
    ("dry_run", .bool c.dryRun),
    ("wait", .bool c.wait),
    ("machine_type", .text c.machineType),
    ("disk_size_gb", .nat c.diskSizeGb.toNat),
    ("disk_type", .text c.diskType),
    ("disk_image", optionalText c.diskImage),
    ("boot_disk_size_gb", .nat c.bootDiskSizeGb.toNat),
    ("private_address", .bool c.privateAddress),
    ("cloud_sdk_image", .text c.cloudSdkImage),
    ("fuse_image", .text c.fuseImage),
    ("debug_image", .text c.debugImage),
    ("timeout", durationJson c.timeout),
    ("image", .text c.image),
    ("attempts", .nat c.attempts.toNat),
    ("pvm_attempts", .nat c.pvmAttempts.toNat),
    ("gpus", .nat c.gpus.toNat),
    ("gpu_type", .text c.gpuType),
    ("fuse", .bool c.fuse),
    ("ssh", .bool c.ssh),
    ("network", optionalText c.network),
    ("subnetwork", optionalText c.subnetwork),
    ("share_pids", .bool c.sharePids),
    ("cos_channel", optionalText c.cosChannel),
    ("service_account", optionalText c.serviceAccount)]

def toJson (c : Config) : Json := .record c.toFields

/-- Reads settings; what is not given has its default. -/
def ofJson? (j : Json) : Option Config := do
  let f ← j.fields? fieldNames
  let text name (default : String) := f.optional name default Json.text?
  let optionalText name := f.optional name none (Json.nullable? Json.text?)
  let list name := f.optional name [] (Json.list? Json.text?)
  let dict name := f.optional name .empty (Json.dict? Json.text?)
  let switch name (default : Bool) := f.optional name default Json.bool?
  let d : Config := {}
  some {
    project := ← text "project" d.project
    name := ← optionalText "name"
    command := ← optionalText "command"
    script := ← optionalText "script"
    inputs := ← list "inputs"
    outputs := ← list "outputs"
    environment := ← dict "environment"
    labels := ← dict "labels"
    vmLabels := ← dict "vm_labels"
    scopes := ← list "scopes"
    zones := ← list "zones"
    regions := ← list "regions"
    output := ← optionalText "output"
    outputInterval := ← f.optional "output_interval" d.outputInterval duration?
    dryRun := ← switch "dry_run" d.dryRun
    wait := ← switch "wait" d.wait
    machineType := ← text "machine_type" d.machineType
    diskSizeGb := ← f.optional "disk_size_gb" d.diskSizeGb Json.word64?
    diskType := ← text "disk_type" d.diskType
    diskImage := ← optionalText "disk_image"
    bootDiskSizeGb := ← f.optional "boot_disk_size_gb" d.bootDiskSizeGb Json.word64?
    privateAddress := ← switch "private_address" d.privateAddress
    cloudSdkImage := ← text "cloud_sdk_image" d.cloudSdkImage
    fuseImage := ← text "fuse_image" d.fuseImage
    debugImage := ← text "debug_image" d.debugImage
    timeout := ← f.optional "timeout" d.timeout duration?
    image := ← text "image" d.image
    attempts := ← f.optional "attempts" d.attempts Json.word32?
    pvmAttempts := ← f.optional "pvm_attempts" d.pvmAttempts Json.word32?
    gpus := ← f.optional "gpus" d.gpus Json.word32?
    gpuType := ← text "gpu_type" d.gpuType
    fuse := ← switch "fuse" d.fuse
    ssh := ← switch "ssh" d.ssh
    network := ← optionalText "network"
    subnetwork := ← optionalText "subnetwork"
    sharePids := ← switch "share_pids" d.sharePids
    cosChannel := ← optionalText "cos_channel"
    serviceAccount := ← optionalText "service_account" }

def parse? (text : String) : Option Config :=
  (Json.parse? text).bind ofJson?

end Config

end BatchJob
