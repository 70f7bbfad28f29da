import BatchJob.Proofs.Action
import BatchJob.Request

set_option autoImplicit false

/-!
Requests are read as they were written.
-/

namespace BatchJob

open Json (bind_of_some fields?_ofFields plain_ofFields plain_array plain_texts plain_ofDict)

namespace Disk

theorem ofJson?_toJson (d : Disk) : ofJson? d.toJson = some d := by
  refine bind_of_some (fields?_ofFields rfl (by decide)) ?_
  refine bind_of_some (Json.Fields.required_of_present rfl rfl) ?_
  refine bind_of_some (Json.Fields.optional_of_bne rfl (Json.word64?_nat d.sizeGb)) ?_
  refine bind_of_some (Json.Fields.optional_of_bne rfl rfl) ?_
  refine bind_of_some (Json.Fields.optional_nullable rfl) ?_
  rfl

theorem plain_toJson (d : Disk) (levels : Nat) : Json.Plain (levels + 1) d.toJson := by
  apply plain_ofFields ["name", "sizeGb", "type", "sourceImage"] rfl (by decide)
  apply Json.PlainFields.present (.text d.name)
  apply Json.PlainFields.presentIf (.nat d.sizeGb.toNat_lt)
  apply Json.PlainFields.presentIf (.text d.kind)
  apply Json.PlainFields.nullable
  exact .nil

end Disk

namespace Accelerator

theorem ofJson?_toJson (a : Accelerator) : ofJson? a.toJson = some a := by
  refine bind_of_some (fields?_ofFields rfl (by decide)) ?_
  refine bind_of_some (Json.Fields.required_of_present rfl rfl) ?_
  refine bind_of_some (Json.Fields.required_of_present rfl (Json.word32?_nat a.count)) ?_
  rfl

theorem plain_toJson (a : Accelerator) (levels : Nat) : Json.Plain (levels + 1) a.toJson := by
  have small : a.count.toNat < UInt64.size := Nat.lt_trans a.count.toNat_lt (by decide)
  apply plain_ofFields ["type", "count"] rfl (by decide)
  apply Json.PlainFields.present (.text a.kind)
  apply Json.PlainFields.present (.nat small)
  exact .nil

end Accelerator

namespace Network

theorem ofJson?_toJson (n : Network) : ofJson? n.toJson = some n := by
  refine bind_of_some (fields?_ofFields rfl (by decide)) ?_
  refine bind_of_some (Json.Fields.optional_of_bne rfl rfl) ?_
  refine bind_of_some (Json.Fields.optional_of_bne rfl rfl) ?_
  refine bind_of_some (Json.Fields.optional_bool rfl) ?_
  rfl

theorem plain_toJson (n : Network) (levels : Nat) : Json.Plain (levels + 1) n.toJson := by
  apply plain_ofFields ["name", "subnetwork", "usePrivateAddress"] rfl (by decide)
  apply Json.PlainFields.presentIf (.text n.name)
  apply Json.PlainFields.presentIf (.text n.subnetwork)
  apply Json.PlainFields.presentIf (.bool n.usePrivateAddress)
  exact .nil

end Network

namespace ServiceAccount

theorem ofJson?_toJson (a : ServiceAccount) : ofJson? a.toJson = some a := by
  refine bind_of_some (fields?_ofFields rfl (by decide)) ?_
  refine bind_of_some (Json.Fields.optional_of_bne rfl rfl) ?_
  refine bind_of_some (Json.Fields.optional_list rfl (Json.list?_texts a.scopes)) ?_
  rfl

theorem plain_toJson (a : ServiceAccount) (levels : Nat) : Json.Plain (levels + 2) a.toJson := by
  apply plain_ofFields ["email", "scopes"] rfl (by decide)
  apply Json.PlainFields.presentIf (.text a.email)
  apply Json.PlainFields.presentIf (plain_texts a.scopes)
  exact .nil

end ServiceAccount

namespace VirtualMachine

theorem ofJson?_toJson (m : VirtualMachine) : ofJson? m.toJson = some m := by
  refine bind_of_some (fields?_ofFields rfl (by decide)) ?_
  refine bind_of_some (Json.Fields.optional_of_present rfl rfl) ?_
  refine bind_of_some (Json.Fields.optional_bool rfl) ?_
  refine bind_of_some (Json.Fields.optional_dict rfl (Json.dict?_texts m.labels)) ?_
  refine bind_of_some (Json.Fields.optional_list rfl
    (Json.list?_array fun d _ => d.ofJson?_toJson)) ?_
  refine bind_of_some (Json.Fields.optional_of_present rfl m.network.ofJson?_toJson) ?_
  refine bind_of_some (Json.Fields.optional_list rfl
    (Json.list?_array fun a _ => a.ofJson?_toJson)) ?_
  refine bind_of_some (Json.Fields.optional_of_present rfl m.serviceAccount.ofJson?_toJson) ?_
  refine bind_of_some (Json.Fields.optional_of_bne rfl (Json.word64?_nat m.bootDiskSizeGb)) ?_
  refine bind_of_some (Json.Fields.optional_nullable rfl) ?_
  rfl

/-- The disks are the deepest part of a machine. -/
theorem plain_toJson (m : VirtualMachine) (levels : Nat) : Json.Plain (levels + 3) m.toJson := by
  apply plain_ofFields fieldNames rfl (by decide)
  apply Json.PlainFields.present (.text m.machineType)
  apply Json.PlainFields.presentIf (.bool m.preemptible)
  apply Json.PlainFields.presentIf (plain_ofDict m.labels .text)
  apply Json.PlainFields.presentIf (plain_array m.disks fun d => d.plain_toJson _)
  apply Json.PlainFields.present (m.network.plain_toJson _)
  apply Json.PlainFields.presentIf (plain_array m.accelerators fun a => a.plain_toJson _)
  apply Json.PlainFields.present (m.serviceAccount.plain_toJson _)
  apply Json.PlainFields.presentIf (.nat m.bootDiskSizeGb.toNat_lt)
  apply Json.PlainFields.nullable
  exact .nil

end VirtualMachine

namespace Resources

theorem ofJson?_toJson (r : Resources) : ofJson? r.toJson = some r := by
  refine bind_of_some (fields?_ofFields rfl (by decide)) ?_
  refine bind_of_some (Json.Fields.optional_of_present rfl rfl) ?_
  refine bind_of_some (Json.Fields.optional_list rfl (Json.list?_texts r.zones)) ?_
  refine bind_of_some (Json.Fields.optional_list rfl (Json.list?_texts r.regions)) ?_
  refine bind_of_some (Json.Fields.optional_of_present rfl r.virtualMachine.ofJson?_toJson) ?_
  rfl

theorem plain_toJson (r : Resources) (levels : Nat) : Json.Plain (levels + 4) r.toJson := by
  apply plain_ofFields ["projectId", "zones", "regions", "virtualMachine"] rfl (by decide)
  apply Json.PlainFields.present (.text r.projectId)
  apply Json.PlainFields.presentIf (plain_texts r.zones)
  apply Json.PlainFields.presentIf (plain_texts r.regions)
  apply Json.PlainFields.present (r.virtualMachine.plain_toJson _)
  exact .nil

end Resources

namespace Pipeline

theorem ofJson?_toJson (p : Pipeline) : ofJson? p.toJson = some p := by
  refine bind_of_some (fields?_ofFields rfl (by decide)) ?_
  refine bind_of_some (Json.Fields.optional_of_present rfl
    (Json.list?_array fun a _ => a.ofJson?_toJson)) ?_
  refine bind_of_some (Json.Fields.optional_dict rfl (Json.dict?_texts p.environment)) ?_
  refine bind_of_some (Json.Fields.optional_of_present rfl p.resources.ofJson?_toJson) ?_
  refine bind_of_some (Json.Fields.optional_nullable rfl) ?_
  rfl

theorem plain_toJson (p : Pipeline) (levels : Nat) : Json.Plain (levels + 5) p.toJson := by
  apply plain_ofFields ["actions", "environment", "resources", "timeout"] rfl (by decide)
  apply Json.PlainFields.present (plain_array p.actions fun a => a.plain_toJson _)
  apply Json.PlainFields.presentIf (plain_ofDict p.environment .text)
  apply Json.PlainFields.present (p.resources.plain_toJson _)
  apply Json.PlainFields.nullable
  exact .nil

end Pipeline

namespace Request

theorem ofJson?_toJson (r : Request) : ofJson? r.toJson = some r := by
  refine bind_of_some (fields?_ofFields rfl (by decide)) ?_
  refine bind_of_some (Json.Fields.required_of_present rfl r.pipeline.ofJson?_toJson) ?_
  refine bind_of_some (Json.Fields.optional_dict rfl (Json.dict?_texts r.labels)) ?_
  rfl

theorem plain_toJson (r : Request) (levels : Nat) : Json.Plain (levels + 6) r.toJson := by
  apply plain_ofFields ["pipeline", "labels"] rfl (by decide)
  apply Json.PlainFields.present (r.pipeline.plain_toJson _)
  apply Json.PlainFields.presentIf (plain_ofDict r.labels .text)
  exact .nil

/-- The text of a request is the text of that request only. -/
theorem parse?_pretty (r : Request) : parse? r.pretty = some r :=
  bind_of_some (r.plain_toJson 0).parse?_pretty r.ofJson?_toJson

/-- A request is read back from the line that it is written on. -/
theorem parse?_line (r : Request) : parse? (r.pretty ++ "\n") = some r :=
  bind_of_some (r.plain_toJson 0).parse?_line r.ofJson?_toJson

end Request

end BatchJob
