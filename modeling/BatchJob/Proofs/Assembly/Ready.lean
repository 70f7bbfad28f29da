import BatchJob.Proofs.Assembly

set_option autoImplicit false

/-!
A description that is a request already is compiled to itself, or refused for the places that it
names. What the configuration says and what the surroundings would answer makes no difference to it.
-/

namespace BatchJob

/-- Only JSON is read as a request, and so the images of the reader have no part in it. -/
theorem Script.parseDocument_eq_request_iff {images : Images} {text : String} {r : Request} :
    parseDocument images text = .ok (.request r) ↔ readJson? text = some (.request r) := by
  refine ⟨fun described => ?_, parseDocument_of_readJson? images⟩
  unfold parseDocument at described
  cases read : readJson? text with
  | some job =>
      rw [read] at described
      exact congrArg some (Except.ok.inj described)
  | none =>
      rw [read] at described
      cases script : parse images text.toList with
      | error e =>
          rw [script] at described
          cases described
      | ok actions =>
          rw [script] at described
          cases described

theorem Resources.validate_eq (r : Resources) :
    r.validate =
      if r.zones ≠ [] ∧ r.regions ≠ [] then .error .conflictingLocations else .ok () := by
  unfold validate
  cases r.zones <;> cases r.regions <;> rfl

namespace Assembly

/-- What becomes of a request that is described as such: it stays as it is, unless it names both
zones and regions. -/
def settled (r : Request) : Except JobError Request :=
  if r.pipeline.resources.zones ≠ [] ∧ r.pipeline.resources.regions ≠ [] then
    .error (.config .conflictingLocations)
  else .ok r

/-- The text of a request is compiled without any step, to the same answer in all surroundings and
under all configurations, those included that are refused themselves. -/
theorem compileSource_of_described {images : Script.Images} {text : String} {r : Request}
    (described : Script.parseDocument images text = .ok (.request r)) (c c' : Config)
    (h h' : Host) :
    compileSource c h (.text text) = compileSource c' h' (.text text) ∧
      compileSource c h (.text text) = ⟨settled r, []⟩ := by
  have read := Script.parseDocument_eq_request_iff.mp described
  have answer (c : Config) (h : Host) : compileSource c h (.text text) = ⟨settled r, []⟩ := by
    rw [compileSource_of_request read, Resources.validate_eq, settled]
    split <;> rfl
  exact ⟨(answer c h).trans (answer c' h').symm, answer c h⟩

/-- No steps can be assembled with accelerators of no type, but a request stays as it is. -/
theorem compileSource_of_described_invalid :
    let images : Script.Images := ⟨"bash", "cloud-sdk"⟩
    let text :=
      "\x7b\"pipeline\": \x7b\"resources\": \x7b\"zones\": [\"us-east1-b\"]\x7d\x7d\x7d"
    let r : Request := { pipeline.resources.zones := ["us-east1-b"] }
    let c : Config := { project := "p", gpus := 1, gpuType := "", inputs := ["missing.txt"] }
    let h : Host := ⟨fun _ => .error .notFound, .error .notFound, none⟩
    Script.parseDocument images text = .ok (.request r) ∧
      c.validate = .error (.invalid .gpusWithoutType) ∧
      compileSource c h (.text text) = ⟨.ok r, []⟩ := by
  intro images text r c h
  have described : Script.parseDocument images text = .ok (.request r) := by decide +kernel
  have answer : settled r = .ok r := rfl
  have compiled := (compileSource_of_described described c {} h h).2
  rw [answer] at compiled
  exact ⟨described, rfl, compiled⟩

end Assembly

end BatchJob
