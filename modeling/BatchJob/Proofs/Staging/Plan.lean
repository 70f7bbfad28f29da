import BatchJob.Proofs.Dict
import BatchJob.Proofs.Storage.Path
import BatchJob.Proofs.Trace
import BatchJob.Staging.Plan

set_option autoImplicit false

/-!
What a plan is made of, and the form of the directories that it needs.
-/

namespace BatchJob.Staging

variable {c : Config} {h : Host} {p : Plan}

/-- A plan is that of the staged inputs and outputs. -/
theorem parts_of_plan (success : (plan c h).result = .ok p) :
    ∃ inputs outputs,
      List.Forall₂ (fun s staged => (stageInput c h s).result = .ok staged)
        (Specifier.parseList "INPUT" c.inputs) inputs ∧
      List.Forall₂ (fun s staged => stageOutput c s = .ok staged)
        (Specifier.parseList "OUTPUT" c.outputs) outputs ∧
      p = Plan.ofStaged c inputs outputs := by
  obtain ⟨inputs, staged, success⟩ := Traced.result_bind_eq_ok.mp success
  obtain ⟨outputs, collected, success⟩ := Traced.result_bind_eq_ok.mp success
  exact ⟨inputs, outputs, Traced.forall_of_mapM staged, Traced.forall_of_mapM_except collected,
    (Except.ok.inj success).symm⟩

def inputDirectory (s : Specifier) : String :=
  String.ofList (requiredDirectory s.glob (s.targetUnder inputRoot))

def outputDirectory (s : Specifier) : String :=
  String.ofList (requiredDirectory s.glob (s.targetUnder outputRoot))

/-- All that can become of an input. -/
inductive StagedInput (c : Config) (h : Host) (s : Specifier) : Staged → Prop where
  | mounted {bucket : List Char} (remote : s.bucket? = some bucket) (fuse : c.fuse = true) :
      StagedInput c h s ⟨s.name, String.ofList (s.targetUnder inputRoot),
        .mounted (String.ofList bucket)⟩
  | copied {bucket : List Char} (remote : s.bucket? = some bucket) (fuse : c.fuse = false) :
      StagedInput c h s ⟨s.name, String.ofList (s.targetUnder inputRoot),
        .step (Transfer.copy c.cloudSdkImage s.glob s.base (s.targetUnder inputRoot))
          (inputDirectory s)⟩
  | uploaded {bytes : List UInt8} (here : s.bucket? = none)
      (read : h.file (String.ofList s.base) = .ok bytes) :
      StagedInput c h s ⟨s.name, String.ofList (s.targetUnder inputRoot),
        .step (Transfer.upload c.cloudSdkImage bytes (s.targetUnder inputRoot)) (inputDirectory s)⟩

theorem stagedInput_of_stageInput {s : Specifier} {staged : Staged}
    (success : (stageInput c h s).result = .ok staged) : StagedInput c h s staged := by
  unfold stageInput at success
  cases place : s.bucket? with
  | some bucket =>
      rw [place] at success
      cases fuse : c.fuse with
      | true =>
          simp only [fuse, if_true] at success
          cases success
          exact .mounted place fuse
      | false =>
          simp only [fuse, Bool.false_eq_true, if_false] at success
          cases success
          exact .copied place fuse
  | none =>
      rw [place] at success
      obtain ⟨bytes, read, success⟩ := Traced.result_bind_eq_ok.mp success
      cases success
      exact .uploaded place (Traced.result_mapError_eq_ok.mp read)

theorem staged_of_stageOutput {s : Specifier} {staged : Staged}
    (success : stageOutput c s = .ok staged) :
    staged = ⟨s.name, String.ofList (s.targetUnder outputRoot),
      .step (Transfer.copy c.cloudSdkImage s.glob (s.targetUnder outputRoot) s.base)
        (outputDirectory s)⟩ := by
  unfold stageOutput at success
  cases place : s.bucket? with
  | none =>
      rw [place] at success
      cases success
  | some bucket =>
      rw [place] at success
      exact (Except.ok.inj success).symm

/-- The step that copies the log at the end, whatever happened before. -/
def logging (c : Config) (destination : String) : Action :=
  { imageUri := c.cloudSdkImage, entrypoint := some "bash",
    commands := ["-c", "gsutil -q cp /google/logs/output " ++ destination],
    flags := [.alwaysRun], mounts := [{ disk := "google", path := "/mnt/google" }] }

theorem finalLogCopy_eq (c : Config) (destination : String) :
    finalLogCopy c destination = logging c destination := by
  let copying := ["cp".toList, logPath.toList, destination.toList]
  have words : "gsutil -q ".toList ++ Text.unwords copying =
      "gsutil -q cp /google/logs/output ".toList ++ destination.toList := by
    rw [Text.unwords, List.intercalate_cons_cons, List.intercalate_cons_cons,
      List.intercalate_singleton]
    rfl
  have script : " && ".intercalate [String.ofList ("gsutil -q ".toList ++ Text.unwords copying)] =
      "gsutil -q cp /google/logs/output " ++ destination := by
    rw [String.intercalate_singleton, words, String.ofList_append, String.ofList_toList,
      String.ofList_toList]
  rw [finalLogCopy, Transfer.gsutil, Action.shellAll, script]
  rfl

/-- The steps that copy the log while a pipeline runs: one if there is a place and a time for it. -/
inductive LogCopying (c : Config) : List Action → Prop where
  | asked {destination : String} {interval : Duration} (place : c.output = some destination)
      (time : c.outputInterval = some interval) :
      LogCopying c [
        { imageUri := c.cloudSdkImage, entrypoint := some "bash",
          commands := ["-c", "while true; do sleep " ++ String.ofList interval.roundedSeconds ++
            "; gsutil -q cp /google/logs/output " ++ destination ++ "; done"],
          flags := [.runInBackground],
          mounts := [{ disk := "google", path := "/mnt/google" }] }]
  | unasked (missing : c.output = none ∨ c.outputInterval = none) : LogCopying c []

theorem logCopying (c : Config) : LogCopying c (periodicLogCopy? c).toList := by
  unfold periodicLogCopy?
  cases place : c.output with
  | none => exact .unasked (.inl place)
  | some destination =>
      cases time : c.outputInterval with
      | none => exact .unasked (.inr time)
      | some interval =>
          have script : "while true; do sleep " ++ String.ofList interval.roundedSeconds ++
              "; gsutil -q cp " ++ logPath ++ " " ++ destination ++ "; done" =
              "while true; do sleep " ++ String.ofList interval.roundedSeconds ++
                "; gsutil -q cp /google/logs/output " ++ destination ++ "; done" := by
            simp only [String.append_assoc]
            rfl
          have asked := LogCopying.asked place time
          rw [← script] at asked
          change LogCopying c [(Action.shellAll c.cloudSdkImage [_]).addFlag .runInBackground]
          rw [Action.shellAll, String.intercalate_singleton]
          exact asked

/-- The log is copied after all outputs. -/
theorem getLast?_delocalizers {destination : String} (success : (plan c h).result = .ok p)
    (asked : c.output = some destination) :
    p.delocalizers.getLast? = some (finalLogCopy c destination) := by
  obtain ⟨inputs, outputs, -, -, rfl⟩ := parts_of_plan success
  change (outputs.filterMap Staged.action? ++
    (c.output.map (finalLogCopy c)).toList).getLast? = _
  rw [asked, Option.map_some, Option.toList_some, List.getLast?_concat]

theorem canonical_requiredDirectory (glob : Glob) {target : List Char}
    (canonical : Path.Canonical target) : Path.Canonical (requiredDirectory glob target) := by
  unfold requiredDirectory
  split
  · exact canonical
  · exact Path.canonical_parent canonical

theorem canonical_inputDirectory (s : Specifier) : Path.Canonical (inputDirectory s).toList := by
  rw [inputDirectory, String.toList_ofList]
  exact canonical_requiredDirectory _ (Path.canonical_join (by decide) (by decide) _)

theorem canonical_outputDirectory (s : Specifier) : Path.Canonical (outputDirectory s).toList := by
  rw [outputDirectory, String.toList_ofList]
  exact canonical_requiredDirectory _ (Path.canonical_join (by decide) (by decide) _)

theorem canonical_bucketPath (bucket : String) : Path.Canonical (bucketPath bucket).toList := by
  rw [bucketPath, String.toList_ofList]
  exact Path.canonical_join (by decide) (by decide) _

theorem canonical_temporaryRoot : Path.Canonical temporaryRoot := by decide

/-- Whether an input is brought to its target by a step, and not found in a mounted bucket. -/
def Stepped (c : Config) (s : Specifier) : Prop := c.fuse = true → s.bucket? = none

theorem bucketPath_of_mem {inputs : List Staged} {entry : String × String}
    (member : entry ∈ (bucketsOf inputs).entries) :
    ∃ staged ∈ inputs, staged.bucket? = some entry.1 ∧ entry.2 = bucketPath entry.1 := by
  obtain ⟨bucket, mounted, rfl⟩ := List.mem_map.mp (Dict.mem_of_mem_ofList member)
  obtain ⟨staged, within, same⟩ := List.mem_filterMap.mp mounted
  exact ⟨staged, within, same, rfl⟩

/-- What directories a plan needs. -/
theorem mem_directories {d : String} (success : (plan c h).result = .ok p)
    (needed : d ∈ p.directories) :
    d = String.ofList temporaryRoot ∨
      (∃ s ∈ Specifier.parseList "INPUT" c.inputs, Stepped c s ∧ d = inputDirectory s) ∨
      (∃ s ∈ Specifier.parseList "INPUT" c.inputs, ∃ bucket, s.bucket? = some bucket ∧
        d = bucketPath (String.ofList bucket)) ∨
      ∃ s ∈ Specifier.parseList "OUTPUT" c.outputs, d = outputDirectory s := by
  obtain ⟨inputs, outputs, staged, collected, rfl⟩ := parts_of_plan success
  rcases List.mem_append.mp needed with needed | needed
  · rcases List.mem_append.mp needed with needed | needed
    · rcases List.mem_cons.mp needed with first | needed
      · exact .inl first
      · obtain ⟨input, member, needed⟩ := List.mem_filterMap.mp needed
        obtain ⟨s, within, read⟩ := Traced.exists_of_forall₂ staged member
        cases stagedInput_of_stageInput read with
        | mounted remote fuse => cases needed
        | copied remote fuse =>
            have stepped : Stepped c s := fun on => absurd (on.symm.trans fuse) (by decide)
            exact .inr (.inl ⟨s, within, stepped, (Option.some.inj needed).symm⟩)
        | uploaded here bytes =>
            exact .inr (.inl ⟨s, within, fun _ => here, (Option.some.inj needed).symm⟩)
    · obtain ⟨entry, member, rfl⟩ := List.mem_map.mp needed
      obtain ⟨input, member, mounted, path⟩ := bucketPath_of_mem member
      obtain ⟨s, within, read⟩ := Traced.exists_of_forall₂ staged member
      cases stagedInput_of_stageInput read with
      | mounted remote fuse =>
          rw [← Option.some.inj mounted] at path
          exact .inr (.inr (.inl ⟨s, within, _, remote, path⟩))
      | copied remote fuse => cases mounted
      | uploaded here bytes => cases mounted
  · obtain ⟨output, member, needed⟩ := List.mem_filterMap.mp needed
    obtain ⟨s, within, copied⟩ := Traced.exists_of_forall₂ collected member
    rw [staged_of_stageOutput copied] at needed
    exact .inr (.inr (.inr ⟨s, within, (Option.some.inj needed).symm⟩))

theorem inputDirectory_mem {s : Specifier} (success : (plan c h).result = .ok p)
    (given : s ∈ Specifier.parseList "INPUT" c.inputs) (stepped : Stepped c s) :
    inputDirectory s ∈ p.directories := by
  obtain ⟨inputs, outputs, staged, -, rfl⟩ := parts_of_plan success
  obtain ⟨input, member, read⟩ := Traced.exists_of_forall₂ staged.flip given
  have needed : input.directory? = some (inputDirectory s) := by
    cases stagedInput_of_stageInput read with
    | mounted remote fuse =>
        rw [stepped fuse] at remote
        cases remote
    | copied remote fuse => rfl
    | uploaded here bytes => rfl
  have within := List.mem_filterMap.mpr ⟨input, member, needed⟩
  exact List.mem_append_left _ (List.mem_append_left _ (List.mem_cons_of_mem _ within))

theorem outputDirectory_mem {s : Specifier} (success : (plan c h).result = .ok p)
    (given : s ∈ Specifier.parseList "OUTPUT" c.outputs) :
    outputDirectory s ∈ p.directories := by
  obtain ⟨inputs, outputs, -, collected, rfl⟩ := parts_of_plan success
  obtain ⟨output, member, copied⟩ := Traced.exists_of_forall₂ collected.flip given
  have needed : output.directory? = some (outputDirectory s) := by
    rw [staged_of_stageOutput copied]
    rfl
  exact List.mem_append_right _ (List.mem_filterMap.mpr ⟨output, member, needed⟩)

/-- Every directory that a plan needs is a canonical absolute path. -/
theorem canonical_of_mem_directories {d : String} (success : (plan c h).result = .ok p)
    (needed : d ∈ p.directories) : Path.Canonical d.toList := by
  rcases mem_directories success needed with
    rfl | ⟨s, -, -, rfl⟩ | ⟨-, -, bucket, -, rfl⟩ | ⟨s, -, rfl⟩
  · rw [String.toList_ofList]
    exact canonical_temporaryRoot
  · exact canonical_inputDirectory s
  · exact canonical_bucketPath _
  · exact canonical_outputDirectory s

theorem temporaryRoot_mem (success : (plan c h).result = .ok p) :
    String.ofList temporaryRoot ∈ p.directories := by
  obtain ⟨inputs, outputs, -, -, rfl⟩ := parts_of_plan success
  exact List.mem_append_left _ (List.mem_append_left _ List.mem_cons_self)

end BatchJob.Staging
