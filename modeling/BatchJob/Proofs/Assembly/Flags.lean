import BatchJob.Proofs.Assembly.Order
import BatchJob.Proofs.Script.Flags

set_option autoImplicit false

/-!
The flags of compiled steps. The steps that stage data carry each flag once, and the steps of a job
carry the flags that they are described with; so no step of a request has a flag twice, unless its
JSON lists it twice.
-/

namespace BatchJob

namespace Transfer

variable {a : Action} (image : String)

theorem flags_copy (glob : Glob) (source target : List Char) :
    (copy image glob source target).flags = [] := by
  cases glob <;> rfl

theorem nodup_of_mem_mountBucket {bucket path : String}
    (member : a ∈ mountBucket image bucket path) : a.flags.Nodup := by
  rcases List.mem_cons.mp member with rfl | member
  · change [Flag.enableFuse, .runInBackground].Nodup
    decide
  · rw [List.mem_singleton.mp member]
    exact List.nodup_nil

end Transfer

namespace Staging

variable {c : Config} {h : Host} {p : Plan} {a : Action}

theorem nodup_of_mem_localizers (planned : (plan c h).result = .ok p) (member : a ∈ p.localizers) :
    a.flags.Nodup := by
  obtain ⟨inputs, outputs, staged, -, rfl⟩ := parts_of_plan planned
  rcases List.mem_append.mp member with copied | mounts
  · obtain ⟨input, within, action⟩ := List.mem_filterMap.mp copied
    obtain ⟨s, -, success⟩ := Traced.exists_of_forall₂ staged within
    cases stagedInput_of_stageInput success with
    | mounted => cases action
    | copied =>
        cases action
        rw [Transfer.flags_copy]
        exact List.nodup_nil
    | uploaded =>
        cases action
        exact List.nodup_nil
  · obtain ⟨bucket, -, mount⟩ := List.mem_flatMap.mp mounts
    exact Transfer.nodup_of_mem_mountBucket c.fuseImage mount

theorem nodup_of_mem_delocalizers (planned : (plan c h).result = .ok p)
    (member : a ∈ p.delocalizers) : a.flags.Nodup := by
  obtain ⟨inputs, outputs, -, collected, rfl⟩ := parts_of_plan planned
  rcases List.mem_append.mp member with copied | log
  · obtain ⟨output, within, action⟩ := List.mem_filterMap.mp copied
    obtain ⟨s, -, success⟩ := Traced.exists_of_forall₂ collected within
    rw [staged_of_stageOutput success] at action
    cases action
    rw [Transfer.flags_copy]
    exact List.nodup_nil
  · obtain ⟨destination, -, rfl⟩ := Option.map_eq_some_iff.mp (Option.mem_toList.mp log)
    change [Flag.alwaysRun].Nodup
    decide

theorem nodup_of_periodicLogCopy? (copies : periodicLogCopy? c = some a) : a.flags.Nodup := by
  unfold periodicLogCopy? at copies
  split at copies
  · cases copies
    change [Flag.runInBackground].Nodup
    decide
  · cases copies

end Staging

namespace Assembly

open Script (Job FlagsOnce parseDocument readJson? stepsIn logicalLines parseLine askedFlags)

variable {c : Config} {h : Host} {r : Request} {job : Job}

theorem nodup_of_mem_makeDirectories {directories : List String} {a : Action}
    (member : a ∈ makeDirectories c directories) : a.flags.Nodup := by
  obtain ⟨command, -, rfl⟩ := Option.map_eq_some_iff.mp (Option.mem_toList.mp member)
  exact List.nodup_nil

theorem nodup_of_mem_debugServer {a : Action}
    (member : a ∈ if c.ssh then [debugServer c] else []) : a.flags.Nodup := by
  split at member
  · rw [List.mem_singleton.mp member]
    change [Flag.runInBackground].Nodup
    decide
  · cases member

/-- The flags of the job's steps, as they are, between those of steps that stage its data. -/
theorem flags_of_compileJob (success : (compileJob c h job).result = .ok r) :
    ∃ before after, r.pipeline.actions.map (·.flags) =
        before ++ job.steps.map (·.flags) ++ after ∧
      ∀ flags ∈ before ++ after, flags.Nodup := by
  cases job with
  | request raw =>
      obtain ⟨done, -, success⟩ := Traced.result_bind_eq_ok.mp success
      cases success
      exact ⟨[], [], (List.append_nil _).symm, List.forall_mem_nil _⟩
  | actions steps =>
      obtain ⟨plan, place, planned, -, rfl⟩ :=
        parts_of_assemble (Traced.result_mapError_eq_ok.mp success)
      let before := makeDirectories c plan.directories ++ (if c.ssh then [debugServer c] else []) ++
        plan.localizers ++ (Staging.periodicLogCopy? c).toList
      refine ⟨before.map (·.flags), plan.delocalizers.map (·.flags), ?_, ?_⟩
      · rw [actions_build, List.map_map, ← List.map_append, ← List.map_append]
        rfl
      · rw [← List.map_append, List.forall_mem_map]
        intro a member
        simp only [before, List.mem_append] at member
        rcases member with (((directory | login) | input) | log) | output
        · exact nodup_of_mem_makeDirectories directory
        · exact nodup_of_mem_debugServer login
        · exact Staging.nodup_of_mem_localizers planned input
        · exact Staging.nodup_of_periodicLogCopy? (Option.mem_toList.mp log)
        · exact Staging.nodup_of_mem_delocalizers planned output

/-- What the steps of a described job carry: in a script, the flags that their lines ask for, each
at its first mention; in JSON, the flags that are listed, in their order. Steps around them have
each of their flags once. So no step of the job or of the request has a flag twice exactly if none
is listed twice in JSON. -/
theorem flags_of_described {images : Script.Images} {text : String}
    (parsed : parseDocument images text = .ok job) :
    (readJson? text = none →
      ∀ a ∈ job.steps, ∃ line ∈ logicalLines 0 [] (Text.lines text.toList),
        parseLine images line.2 = .ok (some a) ∧ a.flags = (askedFlags line.2).eraseDups) ∧
    (readJson? text = some job →
      job.steps.map (fun a => a.flags.map Flag.name) = (stepsIn text).map flagsIn) ∧
    ((∀ a ∈ job.steps, a.flags.Nodup) ↔ FlagsOnce text) ∧
    ∀ c h r, (compileJob c h job).result = .ok r →
      (∃ before after, r.pipeline.actions.map (·.flags) =
          before ++ job.steps.map (·.flags) ++ after ∧
        ∀ flags ∈ before ++ after, flags.Nodup) ∧
      ((∀ a ∈ r.pipeline.actions, a.flags.Nodup) ↔ FlagsOnce text) := by
  refine ⟨Script.flags_of_script parsed, Script.flags_of_readJson?,
    Script.nodup_steps_iff parsed, ?_⟩
  intro c h r success
  obtain ⟨before, after, flags, around⟩ := flags_of_compileJob success
  refine ⟨⟨before, after, flags, around⟩, ?_⟩
  have all : (∀ flags ∈ r.pipeline.actions.map (·.flags), flags.Nodup) ↔
      ∀ flags ∈ job.steps.map (·.flags), flags.Nodup := by
    rw [flags]
    simp only [List.forall_mem_append] at around ⊢
    exact ⟨fun each => each.1.2, fun each => ⟨⟨around.1, each⟩, around.2⟩⟩
  rwa [List.forall_mem_map, List.forall_mem_map, Script.nodup_steps_iff parsed] at all

/-- A line may ask for a flag again, in other letters or by an `&`. -/
theorem flags_of_described_asked :
    let images : Script.Images := ⟨"bash", "cloud-sdk"⟩
    let h : Host := ⟨fun _ => .error .notFound, .error .notFound, none⟩
    let text := "true & # run_in_background ALWAYS_RUN Always_Run"
    let step : Action := { Action.shell "bash" "true" with flags := [.runInBackground, .alwaysRun] }
    parseDocument images text = .ok (.actions [step]) ∧
      ∃ r, (compileJob {} h (.actions [step])).result = .ok r ∧
        ∀ a ∈ r.pipeline.actions, a.flags.Nodup := by
  intro images h text step
  have parsed : parseDocument images text = .ok (.actions [step]) := by decide +kernel
  have compiled : ∃ r, (compileJob {} h (.actions [step])).result = .ok r := ⟨_, rfl⟩
  obtain ⟨r, compiled⟩ := compiled
  obtain ⟨-, -, job, request⟩ := flags_of_described parsed
  have once : ∀ a ∈ (Job.actions [step]).steps, a.flags.Nodup := by
    intro a member
    rw [List.mem_singleton.mp member]
    change [Flag.runInBackground, .alwaysRun].Nodup
    decide
  exact ⟨parsed, r, compiled, (request {} h r compiled).2.mpr (job.mp once)⟩

/-- A list of steps that gives a step a flag twice is taken as it is. -/
theorem not_nodup_listed :
    let h : Host := ⟨fun _ => .error .notFound, .error .notFound, none⟩
    let text := "[\x7b\"flags\":[\"ALWAYS_RUN\",\"ALWAYS_RUN\"]\x7d]"
    let step : Action := { imageUri := "", flags := [.alwaysRun, .alwaysRun] }
    parseDocument (imagesOf {}) text = .ok (.actions [step]) ∧ ¬ step.flags.Nodup ∧
      ∃ r, (compileSource {} h (.text text)).result = .ok r ∧ step ∈ r.pipeline.actions := by
  intro h text step
  have parsed : parseDocument (imagesOf {}) text = .ok (.actions [step]) := by decide +kernel
  have read : Script.Source.read (imagesOf {}) h (.text text) = ⟨.ok (.actions [step]), []⟩ := by
    refine (Traced.ok_bind text _).trans ?_
    rw [parsed]
    rfl
  have compiled : ∃ r, (assemble {} h [step]).result = .ok r := ⟨_, rfl⟩
  obtain ⟨r, compiled⟩ := compiled
  obtain ⟨plan, place, -, -, same⟩ := parts_of_assemble compiled
  refine ⟨parsed, by decide, r, ?_, ?_⟩
  · rw [compileSource, read, Traced.ok_bind]
    exact Traced.result_mapError_eq_ok.mpr compiled
  · rw [same, actions_build, arrange]
    exact List.mem_map.mpr ⟨step, by simp, rfl⟩

end Assembly

end BatchJob
