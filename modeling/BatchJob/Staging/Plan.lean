import BatchJob.Config
import BatchJob.Host
import BatchJob.Storage.Transfer

set_option autoImplicit false

/-!
The staging of inputs and outputs: where each is kept on the working disk, the steps that bring it
there or back, and the directories and variables that this takes. One command makes all directories,
but for those that the next one begins with.
-/

namespace BatchJob.Directories

def sort (paths : List String) : List String :=
  paths.mergeSort fun a b => decide (a ≤ b)

/-- Drops every path of a sorted list that the next one begins with. -/
def dropCovered : List String → List String
  | [] => []
  | [path] => [path]
  | path :: next :: rest =>
    if path.toList.isPrefixOf next.toList then dropCovered (next :: rest)
    else path :: dropCovered (next :: rest)

/-- The paths that no other path begins with, each once and in order. -/
def merge (paths : List String) : List String :=
  dropCovered (sort paths)

/-- The command that makes all directories. -/
def makeCommand? (paths : List String) : Option String :=
  let merged := merge paths
  if merged.isEmpty then none else some ("mkdir -p " ++ " ".intercalate merged)

end BatchJob.Directories

namespace BatchJob.Staging

/-- The directory of the working disk that everything is staged in. -/
def root : List Char := "/mnt/google/.google".toList

def inputRoot : List Char := root ++ "/input".toList

def outputRoot : List Char := root ++ "/output".toList

def temporaryRoot : List Char := root ++ "/tmp".toList

/-- Where the service keeps the log of a pipeline. -/
def logPath : String := "/google/logs/output"

/-- The directory that must exist before a target can be written. -/
def requiredDirectory (glob : Glob) (target : List Char) : List Char :=
  if glob.isDirectory then target else Path.parent target

/-- How an input or output is brought to its target. -/
inductive Delivery where
  /-- A step brings it there, into a directory that must exist. -/
  | step (action : Action) (directory : String)
  /-- It is found in a bucket that is mounted as a whole. -/
  | mounted (bucket : String)
  deriving DecidableEq

structure Staged where
  name : String
  target : String
  delivery : Delivery
  deriving DecidableEq

def Staged.action? (s : Staged) : Option Action :=
  match s.delivery with
  | .step action _ => some action
  | .mounted _ => none

def Staged.directory? (s : Staged) : Option String :=
  match s.delivery with
  | .step _ directory => some directory
  | .mounted _ => none

def Staged.bucket? (s : Staged) : Option String :=
  match s.delivery with
  | .step .. => none
  | .mounted bucket => some bucket

/-- Stages an input: a copied object, a mounted bucket, or a local file that is sent along. -/
def stageInput (c : Config) (h : Host) (s : Specifier) : Traced ConfigError Staged :=
  let target := s.targetUnder inputRoot
  let directory := String.ofList (requiredDirectory s.glob target)
  let staged (delivery : Delivery) : Staged := ⟨s.name, String.ofList target, delivery⟩
  match s.bucket? with
  | some bucket =>
    if c.fuse then pure (staged (.mounted (String.ofList bucket)))
    else pure (staged (.step (Transfer.copy c.cloudSdkImage s.glob s.base target) directory))
  | none => do
    let bytes ← (h.bytesOf (String.ofList s.base)).mapError fun fault =>
      .specifier s.path (.unreadable fault)
    return staged (.step (Transfer.upload c.cloudSdkImage bytes target) directory)

/-- Stages an output, which must lie in a bucket. -/
def stageOutput (c : Config) (s : Specifier) : Except ConfigError Staged :=
  let target := s.targetUnder outputRoot
  let directory := String.ofList (requiredDirectory s.glob target)
  match s.bucket? with
  | none => .error (.specifier s.path .outputNotStorage)
  | some _ =>
    .ok ⟨s.name, String.ofList target,
      .step (Transfer.copy c.cloudSdkImage s.glob target s.base) directory⟩

/-- Where a bucket is mounted. -/
def bucketPath (bucket : String) : String :=
  String.ofList (Path.join [inputRoot, bucket.toList])

/-- The buckets to mount, by their names, and where. -/
def bucketsOf (inputs : List Staged) : Dict String :=
  Dict.ofList ((inputs.filterMap Staged.bucket?).map fun bucket => (bucket, bucketPath bucket))

/-- The step that copies the log at the end, whatever happened before. -/
def finalLogCopy (c : Config) (destination : String) : Action :=
  (Transfer.gsutil c.cloudSdkImage ["cp".toList, logPath.toList, destination.toList]).addFlag
    .alwaysRun

/-- The step that copies the log again and again while the pipeline runs. -/
def periodicLogCopy? (c : Config) : Option Action :=
  match c.output, c.outputInterval with
  | some destination, some interval =>
    some ((Action.shellAll c.cloudSdkImage
      ["while true; do sleep " ++ String.ofList interval.roundedSeconds ++ "; gsutil -q cp " ++
        logPath ++ " " ++ destination ++ "; done"]).addFlag .runInBackground)
  | _, _ => none

structure Plan where
  /-- Steps before those of the job. -/
  localizers : List Action
  /-- Steps after those of the job. -/
  delocalizers : List Action
  /-- Directories that must exist before anything runs. -/
  directories : List String
  environment : Dict String
  deriving DecidableEq

def Plan.ofStaged (c : Config) (inputs outputs : List Staged) : Plan :=
  let buckets := (bucketsOf inputs).entries
  { localizers := inputs.filterMap Staged.action? ++
      buckets.flatMap fun (bucket, path) => Transfer.mountBucket c.fuseImage bucket path
    delocalizers := outputs.filterMap Staged.action? ++
      (c.output.map (finalLogCopy c)).toList
    directories := String.ofList temporaryRoot :: inputs.filterMap Staged.directory? ++
      buckets.map (·.2) ++ outputs.filterMap Staged.directory?
    environment := Dict.ofList (("TMPDIR", String.ofList temporaryRoot) ::
      (inputs ++ outputs).map fun s => (s.name, s.target)) }

/-- The plan for a configuration. Local inputs are read while it is made. -/
def plan (c : Config) (h : Host) : Traced ConfigError Plan := do
  let inputs ← (Specifier.parseList "INPUT" c.inputs).mapM (stageInput c h)
  let outputs ← Traced.ofExcept ((Specifier.parseList "OUTPUT" c.outputs).mapM (stageOutput c))
  return Plan.ofStaged c inputs outputs

end BatchJob.Staging
