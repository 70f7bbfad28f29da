import BatchJob.Action
import BatchJob.Error.Config
import BatchJob.Json.Printer
import BatchJob.Json.Reader

set_option autoImplicit false

/-!
Requests: the steps of a pipeline together with the machine it runs on and where that machine
stands, in zones or in regions.
-/

namespace BatchJob

inductive LocationKind where
  | zones
  | regions
  deriving DecidableEq

def LocationKind.name : LocationKind → String
  | zones => "zones"
  | regions => "regions"

/-- A disk attached to the machine. A size of zero leaves the choice to the service. -/
structure Disk where
  name : String
  sizeGb : UInt64 := 0
  kind : String := ""
  sourceImage : Option String := none
  deriving DecidableEq

structure Accelerator where
  kind : String
  count : UInt32
  deriving DecidableEq

structure Network where
  name : String := ""
  subnetwork : String := ""
  usePrivateAddress : Bool := false
  deriving DecidableEq

structure ServiceAccount where
  email : String := ""
  scopes : List String := []
  deriving DecidableEq

structure VirtualMachine where
  machineType : String := ""
  /-- Whether the machine may be taken away while it runs. -/
  preemptible : Bool := false
  labels : Dict String := .empty
  disks : List Disk := []
  network : Network := {}
  accelerators : List Accelerator := []
  serviceAccount : ServiceAccount := {}
  bootDiskSizeGb : UInt64 := 0
  bootImage : Option String := none
  deriving DecidableEq

structure Resources where
  projectId : String := ""
  zones : List String := []
  regions : List String := []
  virtualMachine : VirtualMachine := {}
  deriving DecidableEq

structure Pipeline where
  actions : List Action := []
  environment : Dict String := .empty
  resources : Resources := {}
  timeout : Option String := none
  deriving DecidableEq

/-- What is submitted to the service. -/
structure Request where
  pipeline : Pipeline
  labels : Dict String := .empty
  deriving DecidableEq

/-- Zones and regions exclude each other. -/
def Resources.validate (r : Resources) : Except ConfigError Unit :=
  if !r.zones.isEmpty && !r.regions.isEmpty then .error .conflictingLocations else .ok ()

namespace Request

/-- Whether the machine may be taken away while it runs. -/
def isPreemptible (r : Request) : Bool :=
  r.pipeline.resources.virtualMachine.preemptible

def setPreemptible (r : Request) (preemptible : Bool) : Request :=
  { r with pipeline.resources.virtualMachine.preemptible := preemptible }

end Request

namespace Disk

def toJson (d : Disk) : Json :=
  .ofFields [
    ("name", some (.text d.name)),
    ("sizeGb", Json.presentIf (d.sizeGb != 0) (.nat d.sizeGb.toNat)),
    ("type", Json.presentIf (d.kind != "") (.text d.kind)),
    ("sourceImage", d.sourceImage.map .text)]

def ofJson? (j : Json) : Option Disk := do
  let f ← j.fields? ["name", "sizeGb", "type", "sourceImage"]
  some {
    name := ← f.required "name" Json.text?
    sizeGb := ← f.optional "sizeGb" 0 Json.word64?
    kind := ← f.optional "type" "" Json.text?
    sourceImage := ← f.optional "sourceImage" none (Json.nullable? Json.text?) }

end Disk

namespace Accelerator

def toJson (a : Accelerator) : Json :=
  .ofFields [("type", some (.text a.kind)), ("count", some (.nat a.count.toNat))]

def ofJson? (j : Json) : Option Accelerator := do
  let f ← j.fields? ["type", "count"]
  some { kind := ← f.required "type" Json.text?, count := ← f.required "count" Json.word32? }

end Accelerator

namespace Network

def toJson (n : Network) : Json :=
  .ofFields [
    ("name", Json.presentIf (n.name != "") (.text n.name)),
    ("subnetwork", Json.presentIf (n.subnetwork != "") (.text n.subnetwork)),
    ("usePrivateAddress", Json.presentIf n.usePrivateAddress (.bool n.usePrivateAddress))]

def ofJson? (j : Json) : Option Network := do
  let f ← j.fields? ["name", "subnetwork", "usePrivateAddress"]
  some {
    name := ← f.optional "name" "" Json.text?
    subnetwork := ← f.optional "subnetwork" "" Json.text?
    usePrivateAddress := ← f.optional "usePrivateAddress" false Json.bool? }

end Network

namespace ServiceAccount

def toJson (a : ServiceAccount) : Json :=
  .ofFields [
    ("email", Json.presentIf (a.email != "") (.text a.email)),
    ("scopes", Json.presentIf (!a.scopes.isEmpty) (.texts a.scopes))]

def ofJson? (j : Json) : Option ServiceAccount := do
  let f ← j.fields? ["email", "scopes"]
  some {
    email := ← f.optional "email" "" Json.text?
    scopes := ← f.optional "scopes" [] (Json.list? Json.text?) }

end ServiceAccount

namespace VirtualMachine

def fieldNames : List String :=
  ["machineType", "preemptible", "labels", "disks", "network", "accelerators", "serviceAccount",
    "bootDiskSizeGb", "bootImage"]

def toJson (m : VirtualMachine) : Json :=
  .ofFields [
    ("machineType", some (.text m.machineType)),
    ("preemptible", Json.presentIf m.preemptible (.bool m.preemptible)),
    ("labels", Json.presentIf (!m.labels.isEmpty) (.ofDict .text m.labels)),
    ("disks", Json.presentIf (!m.disks.isEmpty) (.array (m.disks.map Disk.toJson))),
    ("network", some m.network.toJson),
    ("accelerators",
      Json.presentIf (!m.accelerators.isEmpty) (.array (m.accelerators.map Accelerator.toJson))),
    ("serviceAccount", some m.serviceAccount.toJson),
    ("bootDiskSizeGb", Json.presentIf (m.bootDiskSizeGb != 0) (.nat m.bootDiskSizeGb.toNat)),
    ("bootImage", m.bootImage.map .text)]

def ofJson? (j : Json) : Option VirtualMachine := do
  let f ← j.fields? fieldNames
  some {
    machineType := ← f.optional "machineType" "" Json.text?
    preemptible := ← f.optional "preemptible" false Json.bool?
    labels := ← f.optional "labels" .empty (Json.dict? Json.text?)
    disks := ← f.optional "disks" [] (Json.list? Disk.ofJson?)
    network := ← f.optional "network" {} Network.ofJson?
    accelerators := ← f.optional "accelerators" [] (Json.list? Accelerator.ofJson?)
    serviceAccount := ← f.optional "serviceAccount" {} ServiceAccount.ofJson?
    bootDiskSizeGb := ← f.optional "bootDiskSizeGb" 0 Json.word64?
    bootImage := ← f.optional "bootImage" none (Json.nullable? Json.text?) }

end VirtualMachine

namespace Resources

def toJson (r : Resources) : Json :=
  .ofFields [
    ("projectId", some (.text r.projectId)),
    ("zones", Json.presentIf (!r.zones.isEmpty) (.texts r.zones)),
    ("regions", Json.presentIf (!r.regions.isEmpty) (.texts r.regions)),
    ("virtualMachine", some r.virtualMachine.toJson)]

def ofJson? (j : Json) : Option Resources := do
  let f ← j.fields? ["projectId", "zones", "regions", "virtualMachine"]
  some {
    projectId := ← f.optional "projectId" "" Json.text?
    zones := ← f.optional "zones" [] (Json.list? Json.text?)
    regions := ← f.optional "regions" [] (Json.list? Json.text?)
    virtualMachine := ← f.optional "virtualMachine" {} VirtualMachine.ofJson? }

end Resources

namespace Pipeline

def toJson (p : Pipeline) : Json :=
  .ofFields [
    ("actions", some (.array (p.actions.map Action.toJson))),
    ("environment", Json.presentIf (!p.environment.isEmpty) (.ofDict .text p.environment)),
    ("resources", some p.resources.toJson),
    ("timeout", p.timeout.map .text)]

def ofJson? (j : Json) : Option Pipeline := do
  let f ← j.fields? ["actions", "environment", "resources", "timeout"]
  some {
    actions := ← f.optional "actions" [] (Json.list? Action.ofJson?)
    environment := ← f.optional "environment" .empty (Json.dict? Json.text?)
    resources := ← f.optional "resources" {} Resources.ofJson?
    timeout := ← f.optional "timeout" none (Json.nullable? Json.text?) }

end Pipeline

namespace Request

def toJson (r : Request) : Json :=
  .ofFields [
    ("pipeline", some r.pipeline.toJson),
    ("labels", Json.presentIf (!r.labels.isEmpty) (.ofDict .text r.labels))]

def ofJson? (j : Json) : Option Request := do
  let f ← j.fields? ["pipeline", "labels"]
  some {
    pipeline := ← f.required "pipeline" Pipeline.ofJson?
    labels := ← f.optional "labels" .empty (Json.dict? Json.text?) }

def parse? (text : String) : Option Request :=
  (Json.parse? text).bind ofJson?

def pretty (r : Request) : String := r.toJson.pretty

end Request

end BatchJob
