import BatchJob.Proofs.Assembly.Order
import BatchJob.Proofs.Dict

set_option autoImplicit false

/-!
Optional texts that are empty. To all stages of a compilation they are settings that are not made,
but for two: an empty name becomes an empty label, and an empty place for the log is copied to.
-/

namespace BatchJob

/-- The settings that are optional texts. -/
inductive OptionalText where
  | name | command | script | output | diskImage | network | subnetwork | cosChannel
  | serviceAccount
  deriving DecidableEq

namespace OptionalText

/-- The value of a setting, without an empty text if the setting is chosen. -/
def clear (chosen : List OptionalText) (t : OptionalText) (value : Option String) :
    Option String :=
  if t ∈ chosen then value.filter (· ≠ "") else value

variable {chosen : List OptionalText} {t : OptionalText} {value : Option String}

theorem filter_clear : (clear chosen t value).filter (· ≠ "") = value.filter (· ≠ "") := by
  unfold clear
  split
  · rw [Option.filter_filter]
    simp
  · rfl

theorem getD_clear : (clear chosen t value).getD "" = value.getD "" := by
  unfold clear
  split
  · cases value with
    | none => rfl
    | some s => by_cases empty : s = "" <;> simp [Option.filter_some, empty]
  · rfl

theorem clear_eq_self (kept : ¬ (t ∈ chosen ∧ value = some "")) : clear chosen t value = value := by
  unfold clear
  split
  · next member =>
    cases value with
    | none => rfl
    | some s =>
        have filled : s ≠ "" := fun empty => kept ⟨member, congrArg some empty⟩
        simp [filled]
  · rfl

theorem clear_eq_none (member : t ∈ chosen) (empty : value = some "") :
    clear chosen t value = none := by
  rw [clear, if_pos member, empty]
  rfl

end OptionalText

open OptionalText (clear filter_clear getD_clear clear_eq_self clear_eq_none)

/-- The settings without those among the chosen ones that are empty. -/
def Config.unset (c : Config) (chosen : List OptionalText) : Config :=
  { c with
    name := clear chosen .name c.name
    command := clear chosen .command c.command
    script := clear chosen .script c.script
    output := clear chosen .output c.output
    diskImage := clear chosen .diskImage c.diskImage
    network := clear chosen .network c.network
    subnetwork := clear chosen .subnetwork c.subnetwork
    cosChannel := clear chosen .cosChannel c.cosChannel
    serviceAccount := clear chosen .serviceAccount c.serviceAccount }

section

variable (c : Config) (chosen : List OptionalText) (h : Host)

theorem Script.Source.resolve_unset :
    resolve (c.unset chosen).command (c.unset chosen).script = resolve c.command c.script := by
  change resolve (clear chosen .command c.command) (clear chosen .script c.script) = _
  unfold resolve
  rw [filter_clear, filter_clear]

namespace Assembly

open Staging (stageInput stageOutput Plan)

/-- What an assembled request is built from. -/
def gatherParts : Traced ConfigError ((List Staging.Staged × List Staging.Staged) × Placement) := do
  c.validate
  let inputs ← (Specifier.parseList "INPUT" c.inputs).mapM (stageInput c h)
  let outputs ← Traced.ofExcept ((Specifier.parseList "OUTPUT" c.outputs).mapM (stageOutput c))
  let place ← Placement.resolve c h
  Traced.step (.log .info "Assembled pipeline request")
  return ((inputs, outputs), place)

theorem gatherParts_unset : gatherParts (c.unset chosen) h = gatherParts c h := rfl

theorem assemble_eq_gatherParts (job : List Action) : assemble c h job = (do
    let ((inputs, outputs), place) ← gatherParts c h
    return build c (Plan.ofStaged c inputs outputs) job place) := by
  simp only [assemble, Staging.plan, gatherParts, bind_assoc, pure_bind]

theorem machine_unset : machine (c.unset chosen) = machine c := by
  have disks : diskNamed (c.unset chosen) = diskNamed c := by
    funext name
    change Disk.mk name c.diskSizeGb c.diskType
      (if name = workingDisk then (clear chosen .diskImage c.diskImage).filter (· ≠ "")
        else none) = _
    rw [filter_clear]
    rfl
  have network : (clear chosen .network c.network).getD "" = c.network.getD "" := getD_clear
  have subnetwork : (clear chosen .subnetwork c.subnetwork).getD "" = c.subnetwork.getD "" :=
    getD_clear
  have account : (clear chosen .serviceAccount c.serviceAccount).getD "" =
      c.serviceAccount.getD "" := getD_clear
  have channel : (clear chosen .cosChannel c.cosChannel).filter (· ≠ "") =
      c.cosChannel.filter (· ≠ "") := filter_clear
  funext actions
  unfold machine Config.unset at *
  rw [disks]
  simp only [network, subnetwork, account, channel]
  rfl

theorem labelsOf_unset (kept : ¬ (.name ∈ chosen ∧ c.name = some "")) :
    labelsOf (c.unset chosen) = labelsOf c := by
  have same : (c.unset chosen).name = c.name := clear_eq_self kept
  unfold labelsOf
  rw [same]
  rfl

/-- An empty label is the label of an empty name. -/
theorem labelsOf_unset_iff (named : .name ∈ chosen) (empty : c.name = some "") :
    labelsOf (c.unset chosen) = labelsOf c ↔ c.labels.get? "name" = some "" := by
  have none : (c.unset chosen).name = none := clear_eq_none named empty
  have before : labelsOf (c.unset chosen) = c.labels := by
    rw [labelsOf, none]
    rfl
  have after : labelsOf c = c.labels.insert "name" "" := by
    rw [labelsOf, empty]
  rw [before, after]
  constructor
  · intro same
    rw [same, Dict.get?_insert, if_pos rfl]
  · intro listed
    apply Dict.ext_get?
    intro name
    rw [Dict.get?_insert]
    split
    · next same => rw [same, listed]
    · rfl

theorem ofStaged_unset (kept : ¬ (.output ∈ chosen ∧ c.output = some "")) :
    Plan.ofStaged (c.unset chosen) = Plan.ofStaged c := by
  have same : (c.unset chosen).output = c.output := clear_eq_self kept
  funext inputs outputs
  unfold Plan.ofStaged
  rw [same]
  rfl

theorem arrange_unset (kept : ¬ (.output ∈ chosen ∧ c.output = some "")) :
    arrange (c.unset chosen) = arrange c := by
  have same : (c.unset chosen).output = c.output := clear_eq_self kept
  have copies : Staging.periodicLogCopy? (c.unset chosen) = Staging.periodicLogCopy? c := by
    unfold Staging.periodicLogCopy?
    rw [same]
    rfl
  funext plan job
  unfold arrange
  rw [copies]
  rfl

/-- There is a step less at least: the copy of the log at the end. -/
theorem length_arrange_unset (chosenOutput : .output ∈ chosen) (empty : c.output = some "")
    (inputs outputs : List Staging.Staged) (job : List Action) :
    (arrange (c.unset chosen) (Plan.ofStaged (c.unset chosen) inputs outputs) job).length <
      (arrange c (Plan.ofStaged c inputs outputs) job).length := by
  have nowhere : (c.unset chosen).output = none := clear_eq_none chosenOutput empty
  have noCopies : Staging.periodicLogCopy? (c.unset chosen) = none := by
    unfold Staging.periodicLogCopy?
    rw [nowhere]
  have directories : makeDirectories (c.unset chosen) = makeDirectories c := rfl
  have login : (if (c.unset chosen).ssh then [debugServer (c.unset chosen)] else []) =
      if c.ssh then [debugServer c] else [] := rfl
  have mounts : (c.unset chosen).fuseImage = c.fuseImage := rfl
  unfold arrange Plan.ofStaged
  simp only [noCopies, nowhere, empty, directories, login, mounts, List.length_append,
    Option.map_none, Option.map_some, Option.toList_none, Option.toList_some, List.length_nil,
    List.length_singleton]
  omega

/-- Whether an empty setting among the chosen ones shows in the request: the place for the log, and
the name unless an empty one is among the labels. -/
def Shows : Prop :=
  (.output ∈ chosen ∧ c.output = some "") ∨
    (.name ∈ chosen ∧ c.name = some "" ∧ c.labels.get? "name" ≠ some "")

theorem build_unset_iff (inputs outputs : List Staging.Staged) (job : List Action)
    (place : Placement) :
    build (c.unset chosen) (Plan.ofStaged (c.unset chosen) inputs outputs) job place =
      build c (Plan.ofStaged c inputs outputs) job place ↔ ¬ Shows c chosen := by
  constructor
  · rintro same (⟨member, empty⟩ | ⟨member, empty, unlisted⟩)
    -- One request has more steps than the other, or a label more.
    · have actions := congrArg (·.pipeline.actions.length) same
      simp only [actions_build, List.length_map] at actions
      exact Nat.ne_of_lt (length_arrange_unset c chosen member empty inputs outputs job) actions
    · have labels : labelsOf (c.unset chosen) = labelsOf c := congrArg Request.labels same
      exact unlisted ((labelsOf_unset_iff c chosen member empty).mp labels)
  · intro hidden
    rw [Shows, not_or] at hidden
    have labels : labelsOf (c.unset chosen) = labelsOf c := by
      by_cases empty : .name ∈ chosen ∧ c.name = some ""
      · apply (labelsOf_unset_iff c chosen empty.1 empty.2).mpr
        by_contra unlisted
        exact hidden.2 ⟨empty.1, empty.2, unlisted⟩
      · exact labelsOf_unset c chosen empty
    unfold build
    rw [labels, ofStaged_unset c chosen hidden.1, arrange_unset c chosen hidden.1, machine_unset]
    rfl

theorem assemble_unset (job : List Action) :
    Traced.DifferIf ((∃ r, (assemble c h job).result = .ok r) ∧ Shows c chosen)
      (assemble (c.unset chosen) h job) (assemble c h job) := by
  have differ : Traced.DifferIf (∃ parts, (gatherParts c h).result = .ok parts ∧ Shows c chosen)
      (assemble (c.unset chosen) h job) (assemble c h job) := by
    rw [assemble_eq_gatherParts, assemble_eq_gatherParts, gatherParts_unset]
    apply Traced.DifferIf.bind
    intro parts _
    exact .of_ok rfl (build_unset_iff c chosen parts.1.1 parts.1.2 job parts.2)
  refine differ.congr ?_
  rw [assemble_eq_gatherParts]
  constructor
  · rintro ⟨parts, gathered, shows⟩
    exact ⟨⟨_, Traced.result_bind_eq_ok.mpr ⟨parts, gathered, rfl⟩⟩, shows⟩
  · rintro ⟨⟨r, success⟩, shows⟩
    obtain ⟨parts, gathered, -⟩ := Traced.result_bind_eq_ok.mp success
    exact ⟨parts, gathered, shows⟩

theorem compileJob_unset (job : Script.Job) :
    Traced.DifferIf (∃ steps, job = .actions steps ∧ (∃ r, (assemble c h steps).result = .ok r) ∧
        Shows c chosen) (compileJob (c.unset chosen) h job) (compileJob c h job) := by
  cases job with
  | request r => exact .of_eq rfl fun ⟨_, same, _⟩ => nomatch same
  | actions steps =>
      refine ((assemble_unset c chosen h steps).mapError JobError.config).congr ?_
      constructor
      · intro shows
        exact ⟨steps, rfl, shows⟩
      · rintro ⟨_, same, shows⟩
        cases same
        exact shows

/-- Whether a request is assembled for the steps of the job that is named. -/
def Assembles : Prop :=
  ∃ source steps r, Script.Source.resolve c.command c.script = .ok source ∧
    (source.read (imagesOf c) h).result = .ok (.actions steps) ∧
    (assemble c h steps).result = .ok r

theorem compileSource_unset (source : Script.Source) :
    Traced.DifferIf (∃ job, (source.read (imagesOf c) h).result = .ok job ∧
        ∃ steps, job = .actions steps ∧ (∃ r, (assemble c h steps).result = .ok r) ∧
          Shows c chosen)
      (compileSource (c.unset chosen) h source) (compileSource c h source) :=
  Traced.DifferIf.bind fun job _ => compileJob_unset c chosen h job

/-- Clearing empty settings changes neither what a compilation does nor how it fails, and it changes
the request only if the place for the log is empty, or the name, and a request is assembled. -/
theorem compile_unset :
    (compile (c.unset chosen) h).steps = (compile c h).steps ∧
    (∀ e, (compile (c.unset chosen) h).result = .error e ↔ (compile c h).result = .error e) ∧
    ((compile (c.unset chosen) h).result = (compile c h).result ↔
      ¬ (Assembles c h ∧ Shows c chosen)) := by
  have resolved (source : Script.Source) :
      (Script.Source.resolve c.command c.script).mapError JobError.config = .ok source ↔
        Script.Source.resolve c.command c.script = .ok source :=
    Traced.result_mapError_eq_ok (t := Traced.ofExcept _)
  have differ : Traced.DifferIf (Assembles c h ∧ Shows c chosen) (compile (c.unset chosen) h)
      (compile c h) := by
    unfold compile
    rw [Script.Source.resolve_unset]
    refine Traced.DifferIf.congr ?_
      (Traced.DifferIf.bind fun source _ => compileSource_unset c chosen h source)
    constructor
    · rintro ⟨source, found, job, read, steps, rfl, ⟨r, success⟩, shows⟩
      exact ⟨⟨source, steps, r, (resolved source).mp found, read, success⟩, shows⟩
    · rintro ⟨⟨source, steps, r, found, read, success⟩, shows⟩
      exact ⟨source, (resolved source).mpr found, _, read, steps, rfl, ⟨r, success⟩, shows⟩
  exact ⟨differ.steps, differ.errors, differ.values⟩

end Assembly

end

/-- An empty place for the log is copied to, by a command without a target, and an empty name
becomes a label. -/
theorem Assembly.not_unset_shown :
    let h : Host := ⟨fun _ => .error .notFound, .error .notFound, none⟩
    let c : Config := { command := some "true", output := some "", name := some "" }
    (∃ r s, (compile c h).result = .ok r ∧
      (compile (c.unset [.output]) h).result = .ok s ∧ r ≠ s ∧
      r.pipeline.actions.getLast? = some { Action.shell "gcr.io/cloud-genomics-pipelines/io"
        "gsutil -q cp /google/logs/output " with flags := [.alwaysRun] }) ∧
    ∃ r s, (compile c h).result = .ok r ∧ (compile (c.unset [.name]) h).result = .ok s ∧
      r.labels ≠ s.labels := by
  intro h c
  constructor
  · exact ⟨_, _, rfl, rfl, by decide +kernel, by decide +kernel⟩
  · exact ⟨_, _, rfl, rfl, by decide +kernel⟩

end BatchJob
