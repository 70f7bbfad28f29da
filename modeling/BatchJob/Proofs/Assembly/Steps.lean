import BatchJob.Assembly
import BatchJob.Proofs.Trace

set_option autoImplicit false

/-!
What assembling a request does to the outside: it reads files and the standard input, lists places,
and writes to the log. It does nothing else, whether it succeeds or fails.
-/

namespace BatchJob

/-- Whether a step only asks for something that a request is assembled from, or is a line of the
log. -/
def Step.Gathers : Step → Prop
  | read _ | readInput | list .. | log .. => True
  | _ => False

open Traced (Only only_of_nil only_of_singleton)

section

variable (c : Config) (h : Host)

theorem Host.gathers_locations (project : String) (kind : LocationKind) :
    (h.locations project kind).Only Step.Gathers := by
  unfold locations
  split
  · exact only_of_nil
  · exact only_of_singleton trivial

theorem gathers_expandPrefixes (project : String) (kind : LocationKind) (entries : List String) :
    (expandPrefixes h project kind entries).Only Step.Gathers := by
  unfold expandPrefixes
  dsimp only
  split
  · exact only_of_nil
  · exact (h.gathers_locations project kind).mapError.bind fun _ => only_of_nil

theorem Placement.gathers_resolve : (resolve c h).Only Step.Gathers := by
  have expands (kind : LocationKind) (entries : List String) :
      (expandAll c h kind entries).Only Step.Gathers := by
    unfold expandAll
    split
    · exact only_of_nil
    · exact gathers_expandPrefixes h c.project kind entries
  unfold resolve
  split
  · exact only_of_nil
  · exact (expands .regions c.regions).bind fun _ => (expands .zones c.zones).bind fun _ =>
      only_of_nil

/-- Staging an input does nothing but read a file. -/
theorem Staging.only_stageInput {P : Step → Prop} (reads : ∀ path, P (.read path))
    (s : Specifier) : (stageInput c h s).Only P := by
  unfold stageInput
  dsimp only
  split
  · split <;> exact only_of_nil
  · exact Only.bind (only_of_singleton (reads _)) fun _ => only_of_nil

/-- Planning does nothing but read files. -/
theorem Staging.only_plan {P : Step → Prop} (reads : ∀ path, P (.read path)) :
    (plan c h).Only P :=
  (Only.mapM (only_stageInput c h reads) _).bind fun _ => Only.bind only_of_nil fun _ =>
    only_of_nil

theorem Script.gathers_read (images : Images) (source : Source) :
    (source.read images h).Only Step.Gathers := by
  have asked : (source.textOf h).Only Step.Gathers := by
    cases source with
    | command line => exact only_of_nil
    | file path => exact only_of_singleton trivial
    | input => exact only_of_singleton trivial
    | text t => exact only_of_nil
  cases source with
  | command line => exact only_of_nil
  | _ => exact asked.mapError.bind fun _ => only_of_nil

namespace Assembly

theorem gathers_assemble (job : List Action) : (assemble c h job).Only Step.Gathers :=
  Only.bind only_of_nil fun _ => (Staging.only_plan c h fun _ => trivial).bind fun _ =>
    (Placement.gathers_resolve c h).bind fun _ =>
      Only.bind (only_of_singleton trivial) fun _ => only_of_nil

theorem gathers_compileSource (source : Script.Source) :
    (compileSource c h source).Only Step.Gathers := by
  refine (Script.gathers_read h (imagesOf c) source).bind fun job => ?_
  cases job with
  | request r => exact Only.bind only_of_nil fun _ => only_of_nil
  | actions job => exact (gathers_assemble c h job).mapError

theorem gathers_compile : (compile c h).Only Step.Gathers :=
  Only.bind only_of_nil fun source => gathers_compileSource c h source

end Assembly

end

end BatchJob
