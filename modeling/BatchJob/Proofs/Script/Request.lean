import BatchJob.Proofs.Json.Readers
import BatchJob.Proofs.Script.Document

set_option autoImplicit false

/-!
Descriptions that are requests. A text is read as a request in two ways: straight off, where members
with unknown names are passed over, and off the general value that it is settled to. Both read the
same request; but a text whose unknown members hold what no general value can hold is not settled,
and is then taken for a script.
-/

namespace BatchJob

open Json (Stable Steady stable_record stable_text? stable_bool? stable_word64? stable_word32?
  stable_nullable? stable_list? stable_dict?)

theorem Flag.stable_ofJson? : Stable ofJson? := by
  constructor
  intro levels j v flag settles success
  cases Json.settled_of_settle? settles with
  | null | bool | number => exact success
  | text s => exact success
  | array => cases success
  | @object levels members settled each =>
      -- The only member has no value, so it is kept as it is.
      unfold ofJson? at success
      split at success
      · cases ‹_ = Json.string _›
      · next name same =>
        cases same
        cases each with
        | cons first later =>
            cases later
            cases first
            exact success
      · cases success

theorem Mount.stable_ofJson? : Stable ofJson? := by
  apply stable_record
  apply Steady.required (by decide) stable_text?
  intro disk
  apply Steady.required (by decide) stable_text?
  intro path
  apply Steady.optional (by decide) false stable_bool?
  intro readOnly
  exact .done _

theorem Action.stable_ofJson? : Stable ofJson? := by
  apply stable_record
  apply Steady.optional (by decide) "" stable_text?
  intro imageUri
  apply Steady.optional (by decide) none (stable_nullable? stable_text?)
  intro entrypoint
  apply Steady.optional (by decide) [] (stable_list? stable_text?)
  intro commands
  apply Steady.optional (by decide) [] (stable_list? Flag.stable_ofJson?)
  intro flags
  apply Steady.optional (by decide) [] (stable_list? Mount.stable_ofJson?)
  intro mounts
  apply Steady.optional (by decide) .empty (stable_dict? stable_word64?)
  intro portMappings
  apply Steady.optional (by decide) none (stable_nullable? stable_text?)
  intro timeout
  apply Steady.optional (by decide) none (stable_nullable? stable_text?)
  intro pidNamespace
  exact .done _

theorem Disk.stable_ofJson? : Stable ofJson? := by
  apply stable_record
  apply Steady.required (by decide) stable_text?
  intro name
  apply Steady.optional (by decide) 0 stable_word64?
  intro sizeGb
  apply Steady.optional (by decide) "" stable_text?
  intro kind
  apply Steady.optional (by decide) none (stable_nullable? stable_text?)
  intro sourceImage
  exact .done _

theorem Accelerator.stable_ofJson? : Stable ofJson? := by
  apply stable_record
  apply Steady.required (by decide) stable_text?
  intro kind
  apply Steady.required (by decide) stable_word32?
  intro count
  exact .done _

theorem Network.stable_ofJson? : Stable ofJson? := by
  apply stable_record
  apply Steady.optional (by decide) "" stable_text?
  intro name
  apply Steady.optional (by decide) "" stable_text?
  intro subnetwork
  apply Steady.optional (by decide) false stable_bool?
  intro usePrivateAddress
  exact .done _

theorem ServiceAccount.stable_ofJson? : Stable ofJson? := by
  apply stable_record
  apply Steady.optional (by decide) "" stable_text?
  intro email
  apply Steady.optional (by decide) [] (stable_list? stable_text?)
  intro scopes
  exact .done _

theorem VirtualMachine.stable_ofJson? : Stable ofJson? := by
  apply stable_record
  apply Steady.optional (by decide) "" stable_text?
  intro machineType
  apply Steady.optional (by decide) false stable_bool?
  intro preemptible
  apply Steady.optional (by decide) .empty (stable_dict? stable_text?)
  intro labels
  apply Steady.optional (by decide) [] (stable_list? Disk.stable_ofJson?)
  intro disks
  apply Steady.optional (by decide) {} Network.stable_ofJson?
  intro network
  apply Steady.optional (by decide) [] (stable_list? Accelerator.stable_ofJson?)
  intro accelerators
  apply Steady.optional (by decide) {} ServiceAccount.stable_ofJson?
  intro serviceAccount
  apply Steady.optional (by decide) 0 stable_word64?
  intro bootDiskSizeGb
  apply Steady.optional (by decide) none (stable_nullable? stable_text?)
  intro bootImage
  exact .done _

theorem Resources.stable_ofJson? : Stable ofJson? := by
  apply stable_record
  apply Steady.optional (by decide) "" stable_text?
  intro projectId
  apply Steady.optional (by decide) [] (stable_list? stable_text?)
  intro zones
  apply Steady.optional (by decide) [] (stable_list? stable_text?)
  intro regions
  apply Steady.optional (by decide) {} VirtualMachine.stable_ofJson?
  intro virtualMachine
  exact .done _

theorem Pipeline.stable_ofJson? : Stable ofJson? := by
  apply stable_record
  apply Steady.optional (by decide) [] (stable_list? Action.stable_ofJson?)
  intro actions
  apply Steady.optional (by decide) .empty (stable_dict? stable_text?)
  intro environment
  apply Steady.optional (by decide) {} Resources.stable_ofJson?
  intro resources
  apply Steady.optional (by decide) none (stable_nullable? stable_text?)
  intro timeout
  exact .done _

theorem Request.stable_ofJson? : Stable ofJson? := by
  apply stable_record
  apply Steady.required (by decide) Pipeline.stable_ofJson?
  intro pipeline
  apply Steady.optional (by decide) .empty (stable_dict? stable_text?)
  intro labels
  exact .done _

def Json.isObject : Json → Bool
  | .object _ => true
  | _ => false

/-- An object can be recognised by running the reader. -/
theorem Json.exists_object {text : String} (object : (parse? text).any isObject = true) :
    ∃ members, parse? text = some (.object members) := by
  cases read : parse? text with
  | none =>
      rw [read] at object
      cases object
  | some j =>
      rw [read] at object
      cases j with
      | object members => exact ⟨members, rfl⟩
      | null | bool | number | string | array => cases object

namespace Script

variable {text : String} {members : List (Option String × Json)} {r : Request}

/-- Of an object, only what is settled is described. -/
theorem readJson?_object (object : Json.parse? text = some (.object members)) :
    readJson? text = ((Json.object members).settle? maxLevels).bind fun v =>
      (Request.ofJson? v).map .request := by
  unfold readJson?
  rw [object, Option.bind_some]
  cases settled : (Json.object members).settle? maxLevels with
  | none => rfl
  | some v =>
      cases Json.settled_of_settle? settled
      rfl

theorem readJson?_of_general (object : Json.parse? text = some (.object members))
    (accepted : Request.parse? text = some r)
    (general : Json.General maxLevels (.object members)) :
    readJson? text = some (.request r) := by
  obtain ⟨v, settled⟩ := Json.exists_settle?_iff.mpr general
  rw [Request.parse?, object, Option.bind_some] at accepted
  rw [readJson?_object object, settled, Option.bind_some,
    Request.stable_ofJson?.keeps settled accepted, Option.map_some]

theorem readJson?_of_not_general (object : Json.parse? text = some (.object members))
    (special : ¬ Json.General maxLevels (.object members)) : readJson? text = none := by
  have unsettled : (Json.object members).settle? maxLevels = none := by
    cases settled : (Json.object members).settle? maxLevels with
    | none => rfl
    | some v => exact absurd (Json.exists_settle?_iff.mp ⟨v, settled⟩) special
  rw [readJson?_object object, unsettled, Option.bind_none]

/-- An object that is read as a request is described as that request exactly if it is a general
value: if all its strings are texts and all its numbers in range, and it is not nested too deeply,
also where the request's reader passes it over. Otherwise it is taken for a script, and it is never
described as another request. -/
theorem parseDocument_iff_general (images : Images)
    (object : Json.parse? text = some (.object members))
    (accepted : Request.parse? text = some r) :
    (parseDocument images text = .ok (.request r) ↔ Json.General maxLevels (.object members)) ∧
      (¬ Json.General maxLevels (.object members) →
        parseDocument images text = (parse images text.toList).map .actions) ∧
      ∀ other, parseDocument images text = .ok (.request other) → other = r := by
  by_cases general : Json.General maxLevels (.object members)
  · have described := parseDocument_of_readJson? images
      (readJson?_of_general object accepted general)
    refine ⟨iff_of_true described general, absurd general, fun other also => ?_⟩
    rw [described] at also
    cases also
    rfl
  · have script : parseDocument images text = (parse images text.toList).map .actions := by
      rw [parseDocument, readJson?_of_not_general object general]
    have refused (other : Request) : parseDocument images text ≠ .ok (.request other) := by
      rw [script]
      cases parse images text.toList with
      | error e =>
          intro same
          cases same
      | ok actions =>
          intro same
          cases same
    exact ⟨iff_of_false (refused r) general, fun _ => script,
      fun other also => absurd also (refused other)⟩

/-- What is passed over may be repeated, and as large as a number can be. -/
theorem parseDocument_iff_general_repeated :
    let images : Images := ⟨"bash", "cloud-sdk"⟩
    let text :=
      "\x7b\"x\": [1e308], \"pipeline\": \x7b\"timeout\": \"9s\"\x7d, \"x\": \"\\ud83d\\ude00\"\x7d"
    let r : Request := { pipeline.timeout := some "9s" }
    (∃ members, Json.parse? text = some (.object members) ∧
      Json.General maxLevels (.object members)) ∧
      Request.parse? text = some r ∧ parseDocument images text = .ok (.request r) := by
  intro images text r
  have opened : (Json.parse? text).any Json.isObject = true := by decide +kernel
  obtain ⟨members, object⟩ := Json.exists_object opened
  have accepted : Request.parse? text = some r := by decide +kernel
  have settled : ((Json.parse? text).bind (Json.settle? maxLevels)).isSome := by decide +kernel
  rw [object] at settled
  have general := Json.exists_settle?_iff.mp (Option.isSome_iff_exists.mp settled)
  exact ⟨⟨members, object, general⟩, accepted,
    (parseDocument_iff_general images object accepted).1.mpr general⟩

/-- A number out of range, in a member that says nothing about the request, makes it a script that
runs the text of the request as a command. -/
theorem not_described_out_of_range :
    let images : Images := ⟨"bash", "cloud-sdk"⟩
    let text := "\x7b\"pipeline\":\x7b\x7d,\"note\":1e999\x7d"
    let r : Request := { pipeline := {} }
    (∃ members, Json.parse? text = some (.object members)) ∧ Request.parse? text = some r ∧
      parseDocument images text = .ok (.actions [.shell "bash" text]) ∧
      parseDocument images text ≠ .ok (.request r) := by
  intro images text r
  have script : parseDocument images text = .ok (.actions [.shell "bash" text]) := by
    decide +kernel
  refine ⟨Json.exists_object (by decide +kernel), by decide +kernel, script, ?_⟩
  rw [script]
  intro same
  cases same

end Script

end BatchJob
