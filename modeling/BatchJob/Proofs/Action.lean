import BatchJob.Action
import BatchJob.Proofs.Json.Record

set_option autoImplicit false

/-!
Steps are read as they were written.
-/

namespace BatchJob

open Json (bind_of_some fields?_ofFields plain_ofFields plain_array plain_texts plain_ofDict)

theorem Flag.ofJson?_toJson (f : Flag) : ofJson? f.toJson = some f := by
  cases f <;> decide

theorem Flag.plain_toJson (f : Flag) (levels : Nat) : Json.Plain levels f.toJson := .text f.name

theorem Mount.ofJson?_toJson (m : Mount) : ofJson? m.toJson = some m := by
  refine bind_of_some (fields?_ofFields rfl (by decide)) ?_
  refine bind_of_some (Json.Fields.required_of_present rfl rfl) ?_
  refine bind_of_some (Json.Fields.required_of_present rfl rfl) ?_
  refine bind_of_some (Json.Fields.optional_bool rfl) ?_
  rfl

theorem Mount.plain_toJson (m : Mount) (levels : Nat) : Json.Plain (levels + 1) m.toJson := by
  apply plain_ofFields ["disk", "path", "readOnly"] rfl (by decide)
  apply Json.PlainFields.present (.text m.disk)
  apply Json.PlainFields.present (.text m.path)
  apply Json.PlainFields.presentIf (.bool m.readOnly)
  exact .nil

namespace Action

theorem ofJson?_toJson (a : Action) : ofJson? a.toJson = some a := by
  refine bind_of_some (fields?_ofFields rfl (by decide)) ?_
  refine bind_of_some (Json.Fields.optional_of_present rfl rfl) ?_
  refine bind_of_some (Json.Fields.optional_nullable rfl) ?_
  refine bind_of_some (Json.Fields.optional_list rfl (Json.list?_texts a.commands)) ?_
  refine bind_of_some (Json.Fields.optional_list rfl
    (Json.list?_array fun f _ => f.ofJson?_toJson)) ?_
  refine bind_of_some (Json.Fields.optional_list rfl
    (Json.list?_array fun m _ => m.ofJson?_toJson)) ?_
  refine bind_of_some (Json.Fields.optional_dict rfl
    (Json.dict?_ofDict a.portMappings Json.word64?_nat)) ?_
  refine bind_of_some (Json.Fields.optional_nullable rfl) ?_
  refine bind_of_some (Json.Fields.optional_nullable rfl) ?_
  rfl

/-- The mounts are the deepest part of a step. -/
theorem plain_toJson (a : Action) (levels : Nat) : Json.Plain (levels + 3) a.toJson := by
  apply plain_ofFields fieldNames rfl (by decide)
  apply Json.PlainFields.present (.text a.imageUri)
  apply Json.PlainFields.nullable
  apply Json.PlainFields.presentIf (plain_texts a.commands)
  apply Json.PlainFields.presentIf (plain_array a.flags fun f => f.plain_toJson _)
  apply Json.PlainFields.presentIf (plain_array a.mounts fun m => m.plain_toJson _)
  apply Json.PlainFields.presentIf (plain_ofDict a.portMappings fun p => .nat p.toNat_lt)
  apply Json.PlainFields.nullable
  apply Json.PlainFields.nullable
  exact .nil

end Action

end BatchJob
