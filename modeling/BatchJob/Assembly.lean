import BatchJob.Placement
import BatchJob.Script.Source
import BatchJob.Staging.Plan

set_option autoImplicit false

/-!
Assembling a request: the steps of a job between the steps that stage its data, on a machine with
all the disks and scopes that the steps need.
-/

namespace BatchJob.Assembly

def storageScope : String := "https://www.googleapis.com/auth/devstorage.read_write"

/-- The boot image of a release channel, without the channel. -/
def bootImageFamily : String := "projects/cos-cloud/global/images/family/cos-"

/-- A step that lets one log in to the machine. -/
def debugServer (c : Config) : Action :=
  { imageUri := c.debugImage, entrypoint := some "ssh-server", flags := [.runInBackground],
    portMappings := Dict.empty.insert "22" 22 }

/-- The step that makes directories, if there are any. -/
def makeDirectories (c : Config) (directories : List String) : List Action :=
  ((Directories.makeCommand? directories).map (Action.shell c.cloudSdkImage)).toList

def arrange (c : Config) (plan : Staging.Plan) (job : List Action) : List Action :=
  makeDirectories c plan.directories ++ (if c.ssh then [debugServer c] else []) ++
    plan.localizers ++ (Staging.periodicLogCopy? c).toList ++ job ++ plan.delocalizers

/-- The names of the mounted disks, in the order in which they are first mentioned. -/
def diskNames (actions : List Action) : List String :=
  ((actions.flatMap (·.mounts)).map (·.disk)).eraseDups

/-- The disk of a name. Only the working disk starts from an image. -/
def diskNamed (c : Config) (name : String) : Disk :=
  { name := name, sizeGb := c.diskSizeGb, kind := c.diskType,
    sourceImage := if name = workingDisk then c.diskImage.filter (· ≠ "") else none }

def usesStorage (c : Config) (a : Action) : Bool :=
  a.imageUri == c.cloudSdkImage || (a.commands.head?.any isCloudCommand)

def scopesFor (c : Config) (actions : List Action) : List String :=
  c.scopes ++ if actions.any (usesStorage c) then [storageScope] else []

def machine (c : Config) (actions : List Action) : VirtualMachine :=
  { machineType := c.machineType
    labels := c.vmLabels
    disks := (diskNames actions).map (diskNamed c)
    network :=
      { name := c.network.getD "", subnetwork := c.subnetwork.getD "",
        usePrivateAddress := c.privateAddress }
    accelerators := if 0 < c.gpus then [{ kind := c.gpuType, count := c.gpus }] else []
    serviceAccount := { email := c.serviceAccount.getD "", scopes := scopesFor c actions }
    bootDiskSizeGb := c.bootDiskSizeGb
    bootImage := (c.cosChannel.filter (· ≠ "")).map (bootImageFamily ++ ·) }

/-- Lets a step see the processes of all others. -/
def shareProcesses (a : Action) : Action :=
  { a with pidNamespace := some sharedNamespace }

def labelsOf (c : Config) : Dict String :=
  match c.name with
  | some name => c.labels.insert "name" name
  | none => c.labels

def build (c : Config) (plan : Staging.Plan) (job : List Action) (place : Placement) : Request :=
  let actions := arrange c plan job
  { pipeline :=
      { actions := if c.sharePids then actions.map shareProcesses else actions
        environment := c.environment.extend plan.environment
        resources :=
          { projectId := c.project, zones := place.zones, regions := place.regions,
            virtualMachine := machine c actions }
        timeout := c.timeout.map Duration.format }
    labels := labelsOf c }

def assemble (c : Config) (h : Host) (job : List Action) : Traced ConfigError Request := do
  c.validate
  let plan ← Staging.plan c h
  let place ← Placement.resolve c h
  Traced.step (.log .info "Assembled pipeline request")
  return build c plan job place

def imagesOf (c : Config) : Script.Images := ⟨c.image, c.cloudSdkImage⟩

/-- The request for a job. A description that is a request already stays as it is. -/
def compileJob (c : Config) (h : Host) : Script.Job → Traced JobError Request
  | .request r => do
    Traced.ofExcept (r.pipeline.resources.validate.mapError .config)
    return r
  | .actions job => (assemble c h job).mapError .config

def compileSource (c : Config) (h : Host) (source : Script.Source) : Traced JobError Request := do
  let job ← source.read (imagesOf c) h
  compileJob c h job

def compile (c : Config) (h : Host) : Traced JobError Request := do
  let source ← Traced.ofExcept ((Script.Source.resolve c.command c.script).mapError .config)
  compileSource c h source

end BatchJob.Assembly
