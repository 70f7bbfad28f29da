import BatchJob.Assembly
import BatchJob.Proofs.Placement
import BatchJob.Proofs.Script.Document

set_option autoImplicit false

/-!
Every request that is compiled can be compiled again from its text.
-/

namespace BatchJob.Assembly

variable {c : Config} {h : Host} {r : Request}

/-- A request is assembled from a plan and a placement, if the configuration is sound. -/
theorem assemble_eq_ok_iff {job : List Action} : (assemble c h job).result = .ok r ↔
    c.validate = .ok () ∧ ∃ plan place, (Staging.plan c h).result = .ok plan ∧
      (Placement.resolve c h).result = .ok place ∧ r = build c plan job place := by
  constructor
  · intro success
    obtain ⟨⟨⟩, valid, success⟩ := Traced.result_bind_eq_ok.mp success
    obtain ⟨plan, planned, success⟩ := Traced.result_bind_eq_ok.mp success
    obtain ⟨place, placed, success⟩ := Traced.result_bind_eq_ok.mp success
    obtain ⟨-, -, success⟩ := Traced.result_bind_eq_ok.mp success
    exact ⟨valid, plan, place, planned, placed, (Except.ok.inj success).symm⟩
  · rintro ⟨valid, plan, place, planned, placed, rfl⟩
    refine Traced.result_bind_eq_ok.mpr ⟨(), valid, ?_⟩
    refine Traced.result_bind_eq_ok.mpr ⟨plan, planned, ?_⟩
    exact Traced.result_bind_eq_ok.mpr ⟨place, placed, rfl⟩

/-- What an assembled request is built from. -/
theorem parts_of_assemble {job : List Action} (success : (assemble c h job).result = .ok r) :
    ∃ plan place, (Staging.plan c h).result = .ok plan ∧
      (Placement.resolve c h).result = .ok place ∧ r = build c plan job place :=
  (assemble_eq_ok_iff.mp success).2

theorem validate_of_assemble {job : List Action} (success : (assemble c h job).result = .ok r) :
    r.pipeline.resources.validate = .ok () := by
  obtain ⟨plan, place, -, placed, rfl⟩ := parts_of_assemble success
  have exclusive := Placement.isEmpty_zones_of_resolve placed
  have allowed : (!place.zones.isEmpty && !place.regions.isEmpty) = false := by
    rw [exclusive]
    cases place.regions.isEmpty <;> rfl
  change (if (!place.zones.isEmpty && !place.regions.isEmpty) = true then _ else _) = _
  rw [allowed]
  rfl

theorem validate_of_compileJob {job : Script.Job} (success : (compileJob c h job).result = .ok r) :
    r.pipeline.resources.validate = .ok () := by
  cases job with
  | actions job => exact validate_of_assemble (Traced.result_mapError_eq_ok.mp success)
  | request raw =>
      obtain ⟨done, valid, success⟩ := Traced.result_bind_eq_ok.mp success
      cases success
      cases checked : r.pipeline.resources.validate with
      | ok => rfl
      | error e =>
          rw [Traced.result_ofExcept, checked] at valid
          cases valid

theorem validate_of_compileSource {source : Script.Source}
    (success : (compileSource c h source).result = .ok r) :
    r.pipeline.resources.validate = .ok () := by
  obtain ⟨job, -, success⟩ := Traced.result_bind_eq_ok.mp success
  exact validate_of_compileJob success

theorem source_of_compile (success : (compile c h).result = .ok r) :
    ∃ source, (compileSource c h source).result = .ok r := by
  obtain ⟨source, -, success⟩ := Traced.result_bind_eq_ok.mp success
  exact ⟨source, success⟩

/-- A request that is described as such is only checked; nothing is read or listed for it. -/
theorem compileSource_of_request {text : String}
    (described : Script.readJson? text = some (.request r)) (c : Config) (h : Host) :
    compileSource c h (.text text) =
      ⟨(r.pipeline.resources.validate.map fun _ => r).mapError .config, []⟩ := by
  have parsed := Script.parseDocument_of_readJson? (imagesOf c) described
  have read : Script.Source.read (imagesOf c) h (.text text) = ⟨.ok (.request r), []⟩ := by
    refine (Traced.ok_bind text _).trans ?_
    rw [parsed]
    rfl
  rw [compileSource, read, Traced.ok_bind, compileJob]
  cases r.pipeline.resources.validate <;> rfl

/-- The text of a request that passes its check is compiled to that request, without any step. -/
theorem compileSource_pretty_of_valid (c : Config) (h : Host)
    (valid : r.pipeline.resources.validate = .ok ()) :
    compileSource c h (.text r.pretty) = ⟨.ok r, []⟩ := by
  have described : Script.readJson? r.pretty = some (.request r) :=
    Script.readJson?_request Json.blank_indented r
  rw [compileSource_of_request described, valid]
  rfl

/-- A compiled request is compiled to itself from its own text, whatever the surroundings then are,
without reading a file or listing any places. -/
theorem compileSource_pretty_of_compiled (compiled : (compile c h).result = .ok r ∨
    ∃ source, (compileSource c h source).result = .ok r) (later : Host) :
    compileSource c later (.text r.pretty) = ⟨.ok r, []⟩ := by
  rcases compiled with named | ⟨source, success⟩
  · obtain ⟨source, success⟩ := source_of_compile named
    exact compileSource_pretty_of_valid c later (validate_of_compileSource success)
  · exact compileSource_pretty_of_valid c later (validate_of_compileSource success)

theorem compileSource_pretty_of_command :
    let h : Host := ⟨fun _ => .error .notFound, .error .notFound, none⟩
    ∃ r, (compileSource {} h (.command "true")).result = .ok r ∧
      compileSource {} h (.text r.pretty) = ⟨.ok r, []⟩ := by
  intro h
  have compiled : ∃ r, (compileSource {} h (.command "true")).result = .ok r := ⟨_, rfl⟩
  obtain ⟨r, compiled⟩ := compiled
  exact ⟨r, compiled, compileSource_pretty_of_compiled (.inr ⟨_, compiled⟩) h⟩

end BatchJob.Assembly
