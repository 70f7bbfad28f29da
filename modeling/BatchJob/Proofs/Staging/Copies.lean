import BatchJob.Proofs.Staging.Containment
import BatchJob.Proofs.Storage.Contents
import BatchJob.Proofs.Text.Words

set_option autoImplicit false

/-!
The steps that copy inputs and outputs, by the words of their commands. A directory of inputs is not
always copied from where its specifier says: the path is cleaned before it gets into the command.
-/

namespace BatchJob

open BatchJob.Text (Solid isBlank)
open BatchJob.Path (star)

theorem Text.any_isBlank_of_subset {part whole : List Char} (within : ∀ c ∈ part, c ∈ whole)
    (visible : whole.any isBlank = false) : part.any isBlank = false := by
  rw [any_isBlank_eq_false_iff] at visible ⊢
  exact fun c member => visible c (within c member)

/-- Two paths without blanks are joined to a word. -/
theorem Path.solid_join {first second : List Char} (firstVisible : first.any isBlank = false)
    (secondVisible : second.any isBlank = false) : Solid (join [first, second]) := by
  rw [Text.any_isBlank_eq_false_iff] at firstVisible secondVisible
  refine ⟨join_ne_nil _, Text.any_isBlank_eq_false_iff.mpr fun c member => ?_⟩
  rcases mem_join member with ⟨part, given, within⟩ | mark
  · rcases List.mem_cons.mp given with rfl | given
    · exact firstVisible c within
    · rw [List.mem_singleton.mp given] at within
      exact secondVisible c within
  · have marks : ['/', '.', ':'].any isBlank = false := rfl
    exact Text.any_isBlank_eq_false_iff.mp marks c mark

namespace Specifier

variable {s : Specifier}

/-- Whether a specifier is the path of an object, or of a directory of objects, without blanks. -/
def Remote (s : Specifier) : Prop :=
  s.bucket?.isSome = true ∧ s.path.toList.any isBlank = false

instance : DecidablePred Remote := fun _ => inferInstanceAs (Decidable (_ ∧ _))

/-- What a specifier says is to be copied: its path, but for a directory always with one star. -/
def said (s : Specifier) : List Char :=
  if s.glob.isDirectory then s.base ++ star else s.path.toList

theorem base_of_single (single : ¬ s.glob.isDirectory = true) : s.base = s.path.toList :=
  if_neg single

theorem said_eq : s.said = if s.glob.isDirectory then s.base ++ star else s.base := by
  by_cases directory : s.glob.isDirectory = true
  · rw [said, if_pos directory, if_pos directory]
  · rw [said, if_neg directory, if_neg directory, base_of_single directory]

theorem solid_base (remote : s.Remote) : Solid s.base := by
  obtain ⟨bucket, visible⟩ := remote
  by_cases directory : s.glob.isDirectory = true
  · obtain ⟨most, ending⟩ := base_of_isDirectory directory
    constructor
    · rw [ending]
      exact List.concat_ne_nil _ _
    · have within : s.base <+: s.path.toList := by
        rw [base, if_pos directory]
        exact Text.dropEndWhile_prefix _ _
      exact Text.any_isBlank_of_subset (fun c member => within.subset member) visible
  · rw [base_of_single directory]
    refine ⟨fun empty => ?_, visible⟩
    rw [bucket?, empty] at bucket
    cases bucket

theorem solid_targetUnder (remote : s.Remote) {root : List Char}
    (visible : root.any isBlank = false) : Solid (s.targetUnder root) := by
  have within : ∀ c ∈ Path.withoutScheme s.base, c ∈ s.base := fun c =>
    Path.mem_of_mem_withoutScheme
  exact Path.solid_join visible (Text.any_isBlank_of_subset within (solid_base remote).2)

end Specifier

namespace Transfer

/-- What a copy of an object, or of the contents of a directory, names as its source. -/
def sourceOf (glob : Glob) (source : List Char) : List Char :=
  if glob.isDirectory then Path.join [source, star] else source

def copyWords (glob : Glob) (source destination : List Char) : List (List Char) :=
  match glob with
  | .single => ["gsutil".toList, "-q".toList, "cp".toList, source, destination]
  | .flat => ["gsutil".toList, "-q".toList, "-m".toList, "cp".toList, source, destination]
  | .recursive =>
    ["gsutil".toList, "-q".toList, "-m".toList, "cp".toList, "-r".toList, source, destination]

/-- A copy is the command of its words. -/
theorem copy_eq (image : String) (glob : Glob) (source destination : List Char) :
    copy image glob source destination = .shell image
      (String.ofList (Text.unwords (copyWords glob (sourceOf glob source) destination))) := by
  have tool (first : List Char) (later : List (List Char)) :
      gsutil image (first :: later) = .shell image
        (String.ofList (Text.unwords ("gsutil".toList :: "-q".toList :: first :: later))) := by
    rw [gsutil, Action.shellAll, String.intercalate_singleton, Text.unwords, Text.unwords,
      List.intercalate_cons_cons, List.intercalate_cons_cons]
    rfl
  cases glob <;> exact tool _ _

/-- Whether a step runs the command that copies `source` to `destination`. -/
def Copies (image : String) (glob : Glob) (source destination : List Char) (step : Action) : Prop :=
  ∃ script, step = .shell image script ∧
    Text.words script.toList = copyWords glob source destination

theorem script_of_shell {first second script other : String}
    (same : Action.shell first script = Action.shell second other) : script = other := by
  have commands := congrArg Action.commands same
  exact (List.cons.inj (List.cons.inj commands).2).1

theorem solid_of_mem_copyWords {glob : Glob} {source destination : List Char}
    (sourceSolid : Solid source) (destinationSolid : Solid destination) :
    ∀ w ∈ copyWords glob source destination, Solid w := by
  have ends : ∀ w ∈ [source, destination], Solid w :=
    List.forall_mem_cons.mpr ⟨sourceSolid, List.forall_mem_singleton.mpr destinationSolid⟩
  have options (known : List (List Char)) (solid : ∀ w ∈ known, Solid w) :
      ∀ w ∈ known ++ [source, destination], Solid w :=
    List.forall_mem_append.mpr ⟨solid, ends⟩
  cases glob with
  | single => exact options ["gsutil".toList, "-q".toList, "cp".toList] (by decide)
  | flat => exact options ["gsutil".toList, "-q".toList, "-m".toList, "cp".toList] (by decide)
  | recursive =>
      exact options ["gsutil".toList, "-q".toList, "-m".toList, "cp".toList, "-r".toList]
        (by decide)

section

variable (image : String) {glob : Glob} {source destination : List Char} {step : Action}

theorem copies_copy (sourceSolid : Solid (sourceOf glob source))
    (destinationSolid : Solid destination) :
    Copies image glob (sourceOf glob source) destination (copy image glob source destination) := by
  refine ⟨_, copy_eq image glob source destination, ?_⟩
  rw [String.toList_ofList]
  exact Text.words_unwords (solid_of_mem_copyWords sourceSolid destinationSolid)

variable {image}

/-- A command has one source. -/
theorem Copies.iff_eq (copies : Copies image glob source destination step) {other : List Char} :
    Copies image glob other destination step ↔ source = other := by
  obtain ⟨script, rfl, words⟩ := copies
  constructor
  · rintro ⟨again, same, otherWords⟩
    rw [← script_of_shell same, words] at otherWords
    cases glob <;> simpa only [copyWords, List.cons.injEq, true_and, and_true] using otherWords
  · rintro rfl
    exact ⟨script, rfl, words⟩

/-- A copy names its source as it is given; but the contents of a directory it names by what comes
of joining a star to it, which need not be the directory with a star behind it. -/
theorem copies_copy_iff (image : String) (sourceSolid : Solid source)
    (destinationSolid : Solid destination) (tail : List Char) :
    Copies image glob (sourceOf glob source) destination (copy image glob source destination) ∧
      (Copies image glob (if glob.isDirectory then source ++ tail else source) destination
        (copy image glob source destination) ↔
          (glob.isDirectory = true → Path.join [source, star] = source ++ tail)) := by
  have solid : Solid (sourceOf glob source) := by
    rw [sourceOf]
    split
    · exact Path.solid_join sourceSolid.2 rfl
    · exact sourceSolid
  have copies := copies_copy image solid destinationSolid
  refine ⟨copies, copies.iff_eq.trans ?_⟩
  by_cases directory : glob.isDirectory = true
  · rw [sourceOf, if_pos directory, if_pos directory]
    exact ⟨fun same _ => same, fun same => same directory⟩
  · rw [sourceOf, if_neg directory, if_neg directory]
    exact iff_of_true rfl fun on => absurd on directory

theorem makeParent_writeBytes (bytes : List UInt8) (target : List Char) :
    makeParent target ++ " && ".toList ++ writeBytes bytes target =
      "mkdir -p ".toList ++ Text.quote (Path.parent target) ++ " && echo ".toList ++
        Text.quote (Base64.encode bytes) ++ " | base64 -d > ".toList ++ Text.quote target := by
  have echo : " && echo ".toList = " && ".toList ++ "echo ".toList := by decide
  -- The commands are written out here because their equations would spell the known texts.
  change "mkdir -p ".toList ++ Text.quote (Path.parent target) ++ " && ".toList ++
    ("echo ".toList ++ Text.quote (Base64.encode bytes) ++ " | base64 -d > ".toList ++
      Text.quote target) = _
  rw [echo]
  simp only [List.append_assoc]

/-- The script of the step that sends a local input along. -/
theorem exists_script_upload (image : String) (bytes : List UInt8) (target : List Char) :
    ∃ script, upload image bytes target = .shell image script ∧
      script.toList = "mkdir -p ".toList ++ Text.quote (Path.parent target) ++
        " && echo ".toList ++ Text.quote (Base64.encode bytes) ++ " | base64 -d > ".toList ++
        Text.quote target := by
  refine ⟨_, rfl, ?_⟩
  rw [← makeParent_writeBytes, String.toList_intercalate, List.map_cons, List.map_cons,
    List.map_nil, List.intercalate_cons_cons, List.intercalate_singleton, String.toList_ofList,
    String.toList_ofList, String.toList_ofList]

/-- A step that makes a directory first is none that copies. -/
theorem not_copies_of_begins {other script : String} {rest : List Char}
    (begins : script.toList = "mkdir -p ".toList ++ rest) :
    ¬ Copies image glob source destination (.shell other script) := by
  rintro ⟨same, shape, words⟩
  have starts : "mkdir -p ".toList ++ rest = "mkdir".toList ++ ' ' :: ("-p ".toList ++ rest) := rfl
  rw [← script_of_shell shape, begins, starts, Text.words_solid (by decide) rfl] at words
  cases glob <;> cases words

theorem not_copies_upload {other : String} (bytes : List UInt8) (target : List Char) :
    ¬ Copies image glob source destination (upload other bytes target) := by
  obtain ⟨script, shape, text⟩ := exists_script_upload other bytes target
  simp only [List.append_assoc] at text
  rw [shape]
  exact not_copies_of_begins text

end

end Transfer

namespace Staging

open Transfer (Copies sourceOf)

variable {c : Config} {h : Host} {p : Plan}

/-- Where the step for an output finds what it copies: the target, and for a directory a slash and a
star behind it. -/
def collected (s : Specifier) : List Char :=
  if s.glob.isDirectory then s.targetUnder outputRoot ++ '/' :: star else s.targetUnder outputRoot

/-- What the step for an input in the object storage copies, and when it is what the input says. -/
structure InputCopy (c : Config) (s : Specifier) (step : Action) : Prop where
  copies : Copies c.cloudSdkImage s.glob (sourceOf s.glob s.base) (s.targetUnder inputRoot) step
  said_iff : Copies c.cloudSdkImage s.glob s.said (s.targetUnder inputRoot) step ↔
    (s.glob.isDirectory = true → Path.Neat s.base)

/-- What the step for an output copies to where the output says. -/
structure OutputCopy (c : Config) (s : Specifier) (step : Action) : Prop where
  copies : Copies c.cloudSdkImage s.glob (sourceOf s.glob (s.targetUnder outputRoot)) s.base step
  collected_iff : Copies c.cloudSdkImage s.glob (collected s) s.base step ↔
    (s.glob.isDirectory = true → s.targetUnder outputRoot ≠ ['/'])

theorem inputCopy {s : Specifier} (remote : s.Remote) :
    InputCopy c s (Transfer.copy c.cloudSdkImage s.glob s.base (s.targetUnder inputRoot)) := by
  have base := Specifier.solid_base remote
  have target : Solid (s.targetUnder inputRoot) := Specifier.solid_targetUnder remote (by decide)
  obtain ⟨copies, copiesIff⟩ := Transfer.copies_copy_iff c.cloudSdkImage base target star
  refine ⟨copies, ?_⟩
  rw [Specifier.said_eq, copiesIff]
  exact forall_congr' fun directory => Specifier.join_star_base_iff directory remote.1

theorem outputCopy {s : Specifier} (remote : s.Remote) :
    OutputCopy c s (Transfer.copy c.cloudSdkImage s.glob (s.targetUnder outputRoot) s.base) := by
  have base := Specifier.solid_base remote
  have target : Solid (s.targetUnder outputRoot) := Specifier.solid_targetUnder remote (by decide)
  have place : Path.Place (s.targetUnder outputRoot) := Path.place_join place_outputRoot _
  have canonical : Path.Canonical (s.targetUnder outputRoot) :=
    Path.canonical_join place_outputRoot.rooted place_outputRoot.plain _
  obtain ⟨copies, copiesIff⟩ :=
    Transfer.copies_copy_iff c.cloudSdkImage target base ('/' :: star)
  refine ⟨copies, copiesIff.trans ?_⟩
  exact forall_congr' fun _ => Path.join_star_of_place_iff place canonical

theorem StagedInput.unmounted {s : Specifier} {input : Staged} (staged : StagedInput c h s input)
    (direct : c.fuse = false) : input.bucket? = none := by
  cases staged with
  | mounted remote fuse => exact absurd (direct.symm.trans fuse) Bool.false_ne_true
  | copied remote fuse => rfl
  | uploaded here bytes => rfl

theorem localizers_of_unmounted {inputs : List Staged} (outputs : List Staged)
    (unmounted : ∀ input ∈ inputs, input.bucket? = none) :
    (Plan.ofStaged c inputs outputs).localizers = inputs.filterMap Staged.action? := by
  have buckets : (bucketsOf inputs).entries = [] := by
    rw [bucketsOf, List.filterMap_eq_nil_iff.mpr unmounted]
    rfl
  rw [Plan.ofStaged]
  dsimp only
  rw [buckets, List.flatMap_nil, List.append_nil]

/-- Where buckets are not mounted, each input has its own step, in the order of the inputs: one that
copies for an input in the object storage, and none that copies for any other. Each output has a
step that copies it, and the log is copied last.

What an input says is copied exactly if it is a single object or there is nothing to clean in the
path of its directory. -/
theorem copies_of_plan (planned : (plan c h).result = .ok p) (direct : c.fuse = false) :
    List.Forall₂ (fun s step => (s.Remote → InputCopy c s step) ∧
        (s.bucket? = none → ∀ glob source destination,
          ¬ Copies c.cloudSdkImage glob source destination step))
      (Specifier.parseList "INPUT" c.inputs) p.localizers ∧
    ∃ copies, p.delocalizers = copies ++ (c.output.map (finalLogCopy c)).toList ∧
      List.Forall₂ (fun s step => s.Remote → OutputCopy c s step)
        (Specifier.parseList "OUTPUT" c.outputs) copies := by
  obtain ⟨inputs, outputs, staged, collected, rfl⟩ := parts_of_plan planned
  have unmounted : ∀ input ∈ inputs, input.bucket? = none := by
    intro input member
    obtain ⟨s, -, read⟩ := Traced.exists_of_forall₂ staged member
    exact (stagedInput_of_stageInput read).unmounted direct
  refine ⟨?_, _, rfl, ?_⟩
  · rw [localizers_of_unmounted outputs unmounted]
    refine Traced.forall_filterMap (fun s input read => ?_) staged
    cases stagedInput_of_stageInput read with
    | mounted remote fuse => exact absurd (direct.symm.trans fuse) Bool.false_ne_true
    | copied place fuse =>
        refine ⟨_, rfl, inputCopy, fun here => ?_⟩
        rw [place] at here
        cases here
    | uploaded here bytes =>
        refine ⟨_, rfl, fun remote => ?_, fun _ glob source destination =>
          Transfer.not_copies_upload _ _⟩
        have bucket := remote.1
        rw [here] at bucket
        cases bucket
  · refine Traced.forall_filterMap (fun s output read => ?_) collected
    rw [staged_of_stageOutput read]
    exact ⟨_, rfl, outputCopy⟩

theorem copies_of_plan_neat :
    let c : Config := { inputs := ["gs://b/a/*", "gs://b//x"], outputs := ["gs://b/./out/**"] }
    let h : Host := ⟨fun _ => .error .notFound, .error .notFound, none⟩
    ∃ p, (plan c h).result = .ok p ∧ c.fuse = false ∧
      List.Forall₂ (fun s step =>
          Copies c.cloudSdkImage s.glob s.said (s.targetUnder inputRoot) step)
        (Specifier.parseList "INPUT" c.inputs) p.localizers ∧
      List.Forall₂ (fun s step => Copies c.cloudSdkImage s.glob (collected s) s.base step)
        (Specifier.parseList "OUTPUT" c.outputs) p.delocalizers := by
  intro c h
  have given : Specifier.parseList "INPUT" c.inputs =
      [⟨"INPUT0", "gs://b/a/*"⟩, ⟨"INPUT1", "gs://b//x"⟩] := by decide
  have asked : Specifier.parseList "OUTPUT" c.outputs = [⟨"OUTPUT0", "gs://b/./out/**"⟩] := by
    decide
  have planned : ∃ p, (plan c h).result = .ok p := ⟨_, rfl⟩
  obtain ⟨p, planned⟩ := planned
  obtain ⟨inputs, copies, shape, outputs⟩ := copies_of_plan planned rfl
  refine ⟨p, planned, rfl, ?_, ?_⟩
  · rw [given] at inputs ⊢
    generalize p.localizers = steps at inputs ⊢
    obtain _ | ⟨⟨first, -⟩, _ | ⟨⟨second, -⟩, none⟩⟩ := inputs
    cases none
    exact .cons ((first (by decide)).said_iff.mpr fun _ => by decide)
      (.cons ((second (by decide)).said_iff.mpr fun on => absurd on (by decide)) .nil)
  · rw [asked] at outputs ⊢
    rw [shape]
    obtain _ | ⟨only, none⟩ := outputs
    cases none
    exact .cons ((only (by decide)).collected_iff.mpr fun _ => by decide) .nil

/-- Of a directory whose path has two slashes side by side, another one is copied. -/
theorem not_copies_said_doubled :
    let c : Config := { inputs := ["gs://b/a//c/*"] }
    let h : Host := ⟨fun _ => .error .notFound, .error .notFound, none⟩
    ∃ p, (plan c h).result = .ok p ∧ c.fuse = false ∧
      ∃ s, Specifier.parseList "INPUT" c.inputs = [s] ∧ s.Remote ∧
        s.said = "gs://b/a//c/*".toList ∧
        ∃ step, p.localizers = [step] ∧
          Copies c.cloudSdkImage s.glob "gs://b/a/c/*".toList (s.targetUnder inputRoot) step ∧
          ¬ Copies c.cloudSdkImage s.glob s.said (s.targetUnder inputRoot) step := by
  intro c h
  have remote : Specifier.Remote ⟨"INPUT0", "gs://b/a//c/*"⟩ := by decide
  have cleaned : sourceOf .flat "gs://b/a//c/".toList = "gs://b/a/c/*".toList := by decide
  refine ⟨_, rfl, rfl, ⟨"INPUT0", "gs://b/a//c/*"⟩, by decide, remote, by decide, _, rfl, ?_, ?_⟩
  · rw [← cleaned]
    exact (inputCopy remote).copies
  · intro said
    have neat := (inputCopy remote).said_iff.mp said rfl
    exact absurd neat (by decide)

end Staging

end BatchJob
