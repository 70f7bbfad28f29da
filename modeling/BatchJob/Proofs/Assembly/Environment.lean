import BatchJob.Proofs.Assembly
import BatchJob.Proofs.Staging.Environment

set_option autoImplicit false

/-!
The variables of an assembled request. Those that are staged win over those of the configuration,
whatever they are called.
-/

namespace BatchJob.Assembly

open Staging (Holds)

variable {c : Config} {h : Host} {r : Request} {job : List Action}

/-- A variable of an assembled request holds the place of the last output of its name, or else that
of the last input of its name, or else the directory for temporary files if it is the variable for
that, or else what the configuration says. An input or output without a name is named by its
position, at which empty entries count. -/
theorem environment_of_assemble (success : (assemble c h job).result = .ok r) :
    let inputs := Specifier.parseList "INPUT" c.inputs
    let outputs := Specifier.parseList "OUTPUT" c.outputs
    Specifier.Listed "INPUT" 0 c.inputs inputs ∧ Specifier.Listed "OUTPUT" 0 c.outputs outputs ∧
      ∀ name, Holds inputs outputs c.environment name (r.pipeline.environment.get? name) := by
  obtain ⟨plan, place, planned, -, rfl⟩ := parts_of_assemble success
  intro inputs outputs
  exact ⟨Specifier.listed_parseList _ _, Specifier.listed_parseList _ _,
    fun name => Staging.holds_extend planned c.environment name⟩

/-- Variables are set by several inputs and outputs at once, and one by none but the configuration.
-/
theorem environment_of_assemble_shared :
    let c : Config :=
      { inputs := ["gs://a/x", "", "INPUT0=gs://a/y", "TMPDIR=gs://a/z", "DATA=gs://a/v"],
        outputs := ["DATA=gs://b/w", "gs://b/o/*"],
        environment := Dict.ofList [("TMPDIR", "/tmp"), ("MODE", "fast")] }
    let h : Host := ⟨fun _ => .error .notFound, .error .notFound, none⟩
    ∃ r, (assemble c h []).result = .ok r ∧
      r.pipeline.environment.get? "INPUT0" = some "/mnt/google/.google/input/a/y" ∧
      r.pipeline.environment.get? "TMPDIR" = some "/mnt/google/.google/input/a/z" ∧
      r.pipeline.environment.get? "DATA" = some "/mnt/google/.google/output/b/w" ∧
      r.pipeline.environment.get? "OUTPUT1" = some "/mnt/google/.google/output/b/o" ∧
      r.pipeline.environment.get? "MODE" = some "fast" ∧
      r.pipeline.environment.get? "INPUT1" = none := by
  intro c h
  have assembled : ∃ r, (assemble c h []).result = .ok r := ⟨_, rfl⟩
  obtain ⟨r, assembled⟩ := assembled
  obtain ⟨-, -, holds⟩ := environment_of_assemble assembled
  have value (name : String) := Staging.holds_iff.mp (holds name)
  exact ⟨r, assembled, (value "INPUT0").trans (by decide), (value "TMPDIR").trans (by decide),
    (value "DATA").trans (by decide), (value "OUTPUT1").trans (by decide),
    (value "MODE").trans (by decide), (value "INPUT1").trans (by decide)⟩

end BatchJob.Assembly
