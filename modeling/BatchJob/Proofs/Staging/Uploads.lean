import BatchJob.Proofs.Staging.Copies
import BatchJob.Proofs.Text.Shell
import Mathlib.Data.Bool.AllAny

set_option autoImplicit false

/-!
Local inputs, which are sent along in the steps that write them. A shell reads the contents back
from such a step, and the target too if nothing in it needs an escape that shells do not know.
-/

namespace BatchJob

namespace Shell

/-- What the command that writes a file names: its directory, its contents in base64, and the file
itself. -/
structure Upload where
  directory : List Char
  contents : List Char
  target : List Char
  deriving DecidableEq

/-- Reads a quoted word behind a known text. -/
def readAfter? (front script : List Char) : Option (List Char × List Char) :=
  (front.isPrefixOf? script).bind readQuoted?

/-- Reads the command that writes a file, as a shell does. -/
def readUpload? (script : List Char) : Option Upload := do
  let (directory, rest) ← readAfter? "mkdir -p ".toList script
  let (contents, rest) ← readAfter? " && echo ".toList rest
  let (target, rest) ← readAfter? " | base64 -d > ".toList rest
  if rest.isEmpty then some ⟨directory, contents, target⟩ else none

theorem readAfter?_append (front text : List Char) :
    readAfter? front (front ++ text) = readQuoted? text := by
  have found : front.isPrefixOf? (front ++ text) = some text :=
    List.isPrefixOf?_eq_some_iff_append_eq.mpr rfl
  rw [readAfter?, found, Option.bind_some]

end Shell

namespace Transfer

open Shell (Literal Upload isExpanding readQuoted? readUpload? shown)

theorem literal_parent {target : List Char} (literal : ∀ c ∈ target, Literal c) :
    ∀ c ∈ Path.parent target, Literal c := by
  intro c member
  rcases Path.mem_parent member with member | rfl
  · exact literal c member
  · decide

theorem any_isExpanding_parent {target : List Char} (closed : target.any isExpanding = false) :
    (Path.parent target).any isExpanding = false := by
  refine List.any_eq_false.mpr fun c member => ?_
  rcases Path.mem_parent member with member | rfl
  · exact List.any_eq_false.mp closed c member
  · decide

/-- What a shell reads in the step that sends a local input along. -/
theorem readUpload?_upload (bytes : List UInt8) (target : List Char) :
    readUpload? ("mkdir -p ".toList ++ Text.quote (Path.parent target) ++ " && echo ".toList ++
        Text.quote (Base64.encode bytes) ++ " | base64 -d > ".toList ++ Text.quote target) =
      if target.any isExpanding then none else
        some ⟨(Path.parent target).flatMap shown, Base64.encode bytes, target.flatMap shown⟩ := by
  have contents (rest : List Char) : readQuoted? (Text.quote (Base64.encode bytes) ++ rest) =
      some (Base64.encode bytes, rest) :=
    Shell.readQuoted?_quote_iff.mpr (Shell.literal_encode bytes)
  have regroup (a b c d e f : List Char) : a ++ b ++ c ++ d ++ e ++ f =
      a ++ (b ++ (c ++ (d ++ (e ++ (f ++ []))))) := by
    simp only [List.append_assoc, List.append_nil]
  rw [regroup, readUpload?, Shell.readAfter?_append, Shell.readQuoted?_quote]
  cases expands : target.any isExpanding with
  | false =>
      rw [any_isExpanding_parent expands]
      simp only [Bool.false_eq_true, if_false, Option.bind_eq_bind, Option.bind_some,
        Shell.readAfter?_append, contents]
      rw [Shell.readQuoted?_quote, expands]
      rfl
  | true =>
      cases (Path.parent target).any isExpanding with
      | true => rfl
      | false =>
          simp only [Bool.false_eq_true, if_false, if_true, Option.bind_eq_bind, Option.bind_some,
            Shell.readAfter?_append, contents]
          rw [Shell.readQuoted?_quote, expands]
          rfl

/-- How the script of a step begins that writes what is sent along with it. -/
def opening : List Char := "mkdir -p ".toList

/-- Whether a step writes what is sent along with it: its script makes a directory first. -/
def sends (step : Action) : Bool :=
  step.entrypoint.isSome && step.commands.any fun command => opening.isPrefixOf command.toList

theorem sends_shell (image script : String) :
    sends (.shell image script) = opening.isPrefixOf script.toList := by
  have option : opening.isPrefixOf "-c".toList = false := by decide
  rw [sends, Action.shell, Option.isSome_some, Bool.true_and, List.any_cons, List.any_cons,
    List.any_nil, option, Bool.false_or, Bool.or_false]

theorem sends_upload (image : String) (bytes : List UInt8) (target : List Char) :
    sends (upload image bytes target) = true := by
  obtain ⟨script, shape, text⟩ := exists_script_upload image bytes target
  simp only [List.append_assoc] at text
  rw [shape, sends_shell, text, List.isPrefixOf_iff_prefix]
  exact List.prefix_append _ _

theorem sends_copy (image : String) (glob : Glob) (source target : List Char) :
    sends (copy image glob source target) = false := by
  have tool (words : List (List Char)) : sends (gsutil image words) = false := by
    have shape : gsutil image words =
        .shell image (String.ofList ("gsutil -q ".toList ++ Text.unwords words)) := rfl
    rw [shape, sends_shell, String.toList_ofList]
    rfl
  cases glob <;> exact tool _

theorem sends_mountBucket {image bucket path : String} {step : Action}
    (mounts : step ∈ mountBucket image bucket path) : sends step = false := by
  rcases List.mem_cons.mp mounts with rfl | mounts
  · rfl
  · rw [List.mem_singleton.mp mounts]
    rfl

end Transfer

namespace Staging

variable {c : Config} {h : Host} {p : Plan}

/-- What a shell makes of the script that sends some bytes along. -/
structure Sent (bytes : List UInt8) (target : List Char) (script : String) : Prop where
  decoded : Base64.decode? (Base64.encode bytes) = some bytes
  contents : ∀ read, Shell.readUpload? script.toList = some read →
    read.contents = Base64.encode bytes
  whole_iff : Shell.readUpload? script.toList =
      some ⟨Path.parent target, Base64.encode bytes, target⟩ ↔ ∀ c ∈ target, Shell.Literal c
  expanded_iff : Shell.readUpload? script.toList = none ↔ ∃ c ∈ target, Shell.isExpanding c = true

theorem sent_upload (image : String) (bytes : List UInt8) (target : List Char) :
    ∃ script, Transfer.upload image bytes target = .shell image script ∧
      script.toList = "mkdir -p ".toList ++ Text.quote (Path.parent target) ++
        " && echo ".toList ++ Text.quote (Base64.encode bytes) ++ " | base64 -d > ".toList ++
        Text.quote target ∧
      Sent bytes target script := by
  obtain ⟨script, shape, text⟩ := Transfer.exists_script_upload image bytes target
  have read := Transfer.readUpload?_upload bytes target
  rw [← text] at read
  refine ⟨script, shape, text, Base64.decode?_encode bytes, ?_, ?_, ?_⟩
  · intro other found
    rw [read] at found
    split at found
    · cases found
    · exact (congrArg Shell.Upload.contents (Option.some.inj found)).symm
  · rw [read]
    cases expands : target.any Shell.isExpanding with
    | true =>
        refine iff_of_false (Option.some_ne_none _).symm fun literal => ?_
        rw [Shell.any_isExpanding_of_literal literal] at expands
        cases expands
    | false =>
        have closed := Transfer.any_isExpanding_parent expands
        simp only [Bool.false_eq_true, if_false, Option.some.injEq, Shell.Upload.mk.injEq,
          true_and, Shell.flatMap_shown_eq_iff expands, Shell.flatMap_shown_eq_iff closed]
        exact ⟨And.right, fun literal => ⟨Transfer.literal_parent literal, literal⟩⟩
  · rw [read, ite_eq_left_iff, ← List.any_eq_true]
    simp only [reduceCtorEq, imp_false, Decidable.not_not]

/-- What the step for a local input does: its script makes the directory of the target and writes
the bytes of the file there. -/
def Uploads (c : Config) (h : Host) (s : Specifier) (step : Action) : Prop :=
  let target := s.targetUnder inputRoot
  ∃ bytes script, h.file (String.ofList s.base) = .ok bytes ∧
    step = { imageUri := c.cloudSdkImage, entrypoint := some "bash", commands := ["-c", script],
             mounts := [{ disk := "google", path := "/mnt/google" }] } ∧
    script.toList = "mkdir -p ".toList ++ Text.quote (Path.parent target) ++
      " && echo ".toList ++ Text.quote (Base64.encode bytes) ++ " | base64 -d > ".toList ++
      Text.quote target ∧
    Sent bytes target script

theorem uploads_upload {s : Specifier} {bytes : List UInt8}
    (read : h.file (String.ofList s.base) = .ok bytes) :
    Uploads c h s (Transfer.upload c.cloudSdkImage bytes (s.targetUnder inputRoot)) := by
  obtain ⟨script, shape, text, sent⟩ :=
    sent_upload c.cloudSdkImage bytes (s.targetUnder inputRoot)
  exact ⟨bytes, script, read, shape, text, sent⟩

theorem StagedInput.sends_of_action {s : Specifier} {input : Staged}
    (staged : StagedInput c h s input) (mounting : c.fuse = true) {step : Action}
    (acts : input.action? = some step) : Transfer.sends step = true := by
  cases staged with
  | mounted remote fuse => cases acts
  | copied remote fuse => exact absurd (mounting.symm.trans fuse) (by decide)
  | uploaded here read =>
      cases acts
      exact Transfer.sends_upload _ _ _

/-- The steps that send something along are those of the local inputs, in their order. -/
theorem filter_sends_of_staged {specifiers : List Specifier} {inputs : List Staged}
    (staged : List.Forall₂ (StagedInput c h) specifiers inputs) :
    List.Forall₂ (Uploads c h) (specifiers.filter (·.bucket?.isNone))
      ((inputs.filterMap Staged.action?).filter Transfer.sends) := by
  induction staged with
  | nil => exact .nil
  | cons first later ih =>
      cases first with
      | mounted remote fuse =>
          rw [List.filter_cons_of_neg (by rw [remote]; exact Bool.false_ne_true)]
          exact ih
      | copied remote fuse =>
          rw [List.filter_cons_of_neg (by rw [remote]; exact Bool.false_ne_true),
            List.filterMap_cons_some (f := Staged.action?) rfl,
            List.filter_cons_of_neg (by rw [Transfer.sends_copy]; exact Bool.false_ne_true)]
          exact ih
      | uploaded here read =>
          rw [List.filter_cons_of_pos (by rw [here]; rfl),
            List.filterMap_cons_some (f := Staged.action?) rfl,
            List.filter_cons_of_pos (Transfer.sends_upload _ _ _)]
          exact .cons (uploads_upload read) ih

/-- Each local input has a step of its own. Where buckets are mounted, no other input has one. -/
theorem uploads_of_staged {specifiers : List Specifier} {inputs : List Staged}
    (staged : List.Forall₂ (StagedInput c h) specifiers inputs) : ∃ steps,
      List.Forall₂ (Uploads c h) (specifiers.filter (·.bucket?.isNone)) steps ∧
      steps.Sublist (inputs.filterMap Staged.action?) ∧
      (c.fuse = true → inputs.filterMap Staged.action? = steps) := by
  refine ⟨_, filter_sends_of_staged staged, List.filter_sublist, fun mounting => ?_⟩
  refine (List.filter_eq_self.mpr fun step member => ?_).symm
  obtain ⟨input, within, acts⟩ := List.mem_filterMap.mp member
  obtain ⟨s, -, read⟩ := Traced.exists_of_forall₂ staged within
  exact read.sends_of_action mounting acts

/-- Each local input of a plan is sent along in a step of its own. -/
theorem sent_of_plan (planned : (plan c h).result = .ok p) : ∃ steps,
    steps.Sublist p.localizers ∧
    List.Forall₂ (fun s step => ∃ bytes script, h.file (String.ofList s.base) = .ok bytes ∧
        step = .shell c.cloudSdkImage script ∧ Sent bytes (s.targetUnder inputRoot) script)
      ((Specifier.parseList "INPUT" c.inputs).filter (·.bucket?.isNone)) steps := by
  obtain ⟨inputs, outputs, read, -, rfl⟩ := parts_of_plan planned
  obtain ⟨steps, uploads, among, -⟩ :=
    uploads_of_staged (read.imp fun s input => stagedInput_of_stageInput)
  refine ⟨steps, among.trans (List.sublist_append_left _ _), uploads.imp ?_⟩
  rintro s step ⟨bytes, script, found, rfl, -, sent⟩
  exact ⟨bytes, script, found, rfl, sent⟩

/-- A quote and a backslash in the name of a file come back, whatever else is staged. -/
theorem sent_of_plan_escaped :
    let c : Config := { inputs := ["gs://b/x", "a\"b\\c"] }
    let h : Host := ⟨fun _ => .ok [104, 105], .error .notFound, none⟩
    ∃ p script, (plan c h).result = .ok p ∧
      Action.shell c.cloudSdkImage script ∈ p.localizers ∧
      Shell.readUpload? script.toList = some ⟨"/mnt/google/.google/input".toList, "aGk=".toList,
        "/mnt/google/.google/input/a\"b\\c".toList⟩ := by
  intro c h
  have here : (Specifier.parseList "INPUT" c.inputs).filter (·.bucket?.isNone) =
      [⟨"INPUT1", "a\"b\\c"⟩] := by decide
  have planned : ∃ p, (plan c h).result = .ok p := ⟨_, rfl⟩
  obtain ⟨p, planned⟩ := planned
  obtain ⟨steps, among, paired⟩ := sent_of_plan planned
  rw [here] at paired
  obtain ⟨step, others, ⟨bytes, script, read, rfl, sent⟩, -, rfl⟩ :=
    List.forall₂_cons_left_iff.mp paired
  obtain rfl : [104, 105] = bytes := Except.ok.inj read
  have literal : ∀ x ∈ Specifier.targetUnder ⟨"INPUT1", "a\"b\\c"⟩ inputRoot, Shell.Literal x :=
    List.all_iff_forall_prop.mp (by decide)
  exact ⟨p, script, planned, among.subset List.mem_cons_self, sent.whole_iff.mpr literal⟩

/-- A dollar sign does not come back: a shell takes it for the start of an expansion. -/
theorem not_sent_whole_dollar :
    let c : Config := { inputs := ["a$b"] }
    let h : Host := ⟨fun _ => .ok [120], .error .notFound, none⟩
    let s : Specifier := ⟨"INPUT0", "a$b"⟩
    ∃ p script, (plan c h).result = .ok p ∧ Specifier.parseList "INPUT" c.inputs = [s] ∧
      s.bucket? = none ∧ p.localizers = [.shell c.cloudSdkImage script] ∧
      Shell.readUpload? script.toList = none ∧
      Shell.readUpload? script.toList ≠ some ⟨Path.parent (s.targetUnder inputRoot),
        Base64.encode [120], s.targetUnder inputRoot⟩ := by
  intro c h s
  have planned : ∃ p, (plan c h).result = .ok p ∧
      p.localizers = [Transfer.upload c.cloudSdkImage [120] (s.targetUnder inputRoot)] :=
    ⟨_, rfl, by decide⟩
  obtain ⟨p, planned, steps⟩ := planned
  obtain ⟨script, shape, -, sent⟩ := sent_upload c.cloudSdkImage [120] (s.targetUnder inputRoot)
  have expanded : Shell.readUpload? script.toList = none :=
    sent.expanded_iff.mpr (List.any_eq_true.mp (by decide))
  refine ⟨p, script, planned, by decide, by decide, steps.trans (by rw [shape]), expanded, ?_⟩
  rw [expanded]
  exact (Option.some_ne_none _).symm

end Staging

end BatchJob
