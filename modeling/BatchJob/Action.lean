import BatchJob.Flag

set_option autoImplicit false

/-!
The steps of a pipeline. Each runs in a container, with disks of the machine mounted into it.
-/

namespace BatchJob

/-- A disk mounted into a container. -/
structure Mount where
  disk : String
  path : String
  readOnly : Bool := false
  deriving DecidableEq

/-- The name of the disk that every generated step mounts. -/
def workingDisk : String := "google"

/-- Where the working disk is mounted. -/
def workingPath : String := "/mnt/google"

/-- The namespace that all steps share when processes may see each other. -/
def sharedNamespace : String := "shared"

def Mount.workingRoot : Mount := { disk := workingDisk, path := workingPath }

/-- One step of a pipeline. -/
structure Action where
  imageUri : String
  entrypoint : Option String := none
  commands : List String := []
  flags : List Flag := []
  mounts : List Mount := []
  /-- Host ports by the names of container ports. -/
  portMappings : Dict UInt64 := .empty
  timeout : Option String := none
  pidNamespace : Option String := none
  deriving DecidableEq

namespace Action

/-- Adds a flag that the step does not carry yet. -/
def addFlag (a : Action) (flag : Flag) : Action :=
  if flag ∈ a.flags then a else { a with flags := a.flags ++ [flag] }

def addMount (a : Action) (mount : Mount) : Action :=
  { a with mounts := a.mounts ++ [mount] }

/-- Maps a container port to a port of the host. -/
def mapPort (a : Action) (name : String) (port : UInt64) : Action :=
  { a with portMappings := a.portMappings.insert name port }

/-- A step that runs a shell script on the working disk. -/
def shell (image script : String) : Action :=
  { imageUri := image, entrypoint := some "bash", commands := ["-c", script],
    mounts := [.workingRoot] }

/-- A step that runs shell commands one after the other, each only after the success of the last. -/
def shellAll (image : String) (commands : List String) : Action :=
  shell image (" && ".intercalate commands)

end Action

def cloudCommands : List String := ["gsutil", "gcloud"]

def isCloudCommand (command : String) : Bool := cloudCommands.contains command

namespace Mount

def toJson (m : Mount) : Json :=
  .ofFields [
    ("disk", some (.text m.disk)),
    ("path", some (.text m.path)),
    ("readOnly", Json.presentIf m.readOnly (.bool m.readOnly))]

def ofJson? (j : Json) : Option Mount := do
  let f ← j.fields? ["disk", "path", "readOnly"]
  some {
    disk := ← f.required "disk" Json.text?
    path := ← f.required "path" Json.text?
    readOnly := ← f.optional "readOnly" false Json.bool? }

end Mount

namespace Action

def fieldNames : List String :=
  ["imageUri", "entrypoint", "commands", "flags", "mounts", "portMappings", "timeout",
    "pidNamespace"]

/-- The step as JSON; what is empty is left out. -/
def toJson (a : Action) : Json :=
  .ofFields [
    ("imageUri", some (.text a.imageUri)),
    ("entrypoint", a.entrypoint.map .text),
    ("commands", Json.presentIf (!a.commands.isEmpty) (.texts a.commands)),
    ("flags", Json.presentIf (!a.flags.isEmpty) (.array (a.flags.map Flag.toJson))),
    ("mounts", Json.presentIf (!a.mounts.isEmpty) (.array (a.mounts.map Mount.toJson))),
    ("portMappings",
      Json.presentIf (!a.portMappings.isEmpty) (.ofDict (fun p => .nat p.toNat) a.portMappings)),
    ("timeout", a.timeout.map .text),
    ("pidNamespace", a.pidNamespace.map .text)]

def ofJson? (j : Json) : Option Action := do
  let f ← j.fields? fieldNames
  some {
    imageUri := ← f.optional "imageUri" "" Json.text?
    entrypoint := ← f.optional "entrypoint" none (Json.nullable? Json.text?)
    commands := ← f.optional "commands" [] (Json.list? Json.text?)
    flags := ← f.optional "flags" [] (Json.list? Flag.ofJson?)
    mounts := ← f.optional "mounts" [] (Json.list? Mount.ofJson?)
    portMappings := ← f.optional "portMappings" .empty (Json.dict? Json.word64?)
    timeout := ← f.optional "timeout" none (Json.nullable? Json.text?)
    pidNamespace := ← f.optional "pidNamespace" none (Json.nullable? Json.text?) }

end Action

end BatchJob
