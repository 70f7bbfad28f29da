import BatchJob.Proofs.Staging.Environment
import BatchJob.Proofs.Staging.Uploads
import BatchJob.Proofs.Storage.Objects
import BatchJob.Proofs.Text.Bytes

set_option autoImplicit false

/-!
Staging with mounted buckets. Each bucket is mounted once, and the inputs in it are found below the
place that it is mounted at.
-/

namespace BatchJob

/-- A specifier lies in the bucket that its path has without its pattern. -/
theorem Specifier.bucket?_of_object {s : Specifier} {scheme bucket object : List Char}
    (parsed : Path.Object s.base scheme bucket object) : s.bucket? = some bucket := by
  obtain ⟨ending, slash, whole⟩ := parsed.whole
  have found {rest : List Char} (ends : rest.head?.all (· == '/') = true) :=
    Path.bucket?_append parsed.named parsed.plain parsed.filled parsed.single ends
  have starts : (Path.below object ++ ending).head?.all (· == '/') = true := by
    rw [Path.below]
    split
    · rcases slash with rfl | rfl <;> rfl
    · rfl
  rw [List.append_assoc bucket] at whole
  by_cases directory : s.glob.isDirectory = true
  · obtain ⟨most, ends⟩ := base_of_isDirectory directory
    have front : s.base <+: s.path.toList := by
      rw [base, if_pos directory]
      exact Text.dropEndWhile_prefix _ _
    obtain ⟨pattern, shape⟩ := front
    rw [bucket?, ← shape, whole, List.append_assoc (scheme ++ Path.schemeMark),
      List.append_assoc bucket]
    apply found
    -- The slash before the pattern is not the bucket's, so something stands behind the bucket.
    cases behind : Path.below object ++ ending with
    | nil =>
        rw [behind, List.append_nil] at whole
        obtain ⟨start, last, shape⟩ := (List.eq_nil_or_concat bucket).resolve_left parsed.filled
        rw [List.concat_eq_append] at shape
        rw [whole, shape, ← List.append_assoc] at ends
        have slash : last = '/' := List.singleton_inj.mp (List.append_inj_right' ends rfl)
        rw [slash] at shape
        exact absurd (shape ▸ List.mem_append_right start List.mem_cons_self) parsed.single
    | cons c rest =>
        rw [behind] at starts
        exact starts
  · rw [bucket?, ← base_of_single directory, whole]
    exact found starts

namespace Staging

open Specifier (LastNamed)

variable {c : Config} {h : Host} {p : Plan}

def mountedBuckets (inputs : List Staged) : List String := (bucketsOf inputs).entries.map (·.1)

theorem increasing_mountedBuckets (inputs : List Staged) :
    (mountedBuckets inputs).Pairwise fun a b => Text.bytes a < Text.bytes b :=
  List.Pairwise.map _ (fun _ _ less => Text.bytes_lt_of_lt less) (bucketsOf inputs).sorted

theorem mem_mountedBuckets {specifiers : List Specifier} {inputs : List Staged} {bucket : String}
    (mounting : c.fuse = true) (staged : List.Forall₂ (StagedInput c h) specifiers inputs) :
    bucket ∈ mountedBuckets inputs ↔ ∃ s ∈ specifiers, s.bucket? = some bucket.toList := by
  have buckets : ∀ s input, StagedInput c h s input →
      input.bucket? = s.bucket?.map String.ofList := by
    intro s input read
    cases read with
    | mounted remote fuse => rw [remote]; rfl
    | copied remote fuse => exact absurd (mounting.symm.trans fuse) (by decide)
    | uploaded here read => rw [here]; rfl
  have text (s : Specifier) : s.bucket?.map String.ofList = some bucket ↔
      s.bucket? = some bucket.toList := by
    rw [Option.map_eq_some_iff]
    constructor
    · rintro ⟨chars, remote, rfl⟩
      rw [String.toList_ofList]
      exact remote
    · exact fun remote => ⟨bucket.toList, remote, String.ofList_toList⟩
  rw [mountedBuckets, bucketsOf, Dict.mem_names_ofList, List.map_map]
  change bucket ∈ (inputs.filterMap Staged.bucket?).map id ↔ _
  rw [List.map_id, List.mem_filterMap]
  constructor
  · rintro ⟨input, member, mounted⟩
    obtain ⟨s, given, read⟩ := Traced.exists_of_forall₂ staged member
    exact ⟨s, given, (text s).mp ((buckets s input read).symm.trans mounted)⟩
  · rintro ⟨s, given, remote⟩
    obtain ⟨input, member, read⟩ := Traced.exists_of_forall₂ staged.flip given
    exact ⟨input, member, (buckets s input read).trans ((text s).mpr remote)⟩

theorem mounts_eq (inputs : List Staged) :
    ((bucketsOf inputs).entries.flatMap fun (bucket, path) =>
        Transfer.mountBucket c.fuseImage bucket path) =
      (mountedBuckets inputs).flatMap fun bucket =>
        Transfer.mountBucket c.fuseImage bucket (bucketPath bucket) := by
  rw [mountedBuckets, List.flatMap_map]
  apply List.flatMap_congr
  intro entry member
  obtain ⟨-, -, -, path⟩ := bucketPath_of_mem member
  rw [← path]

/-- Neither of the steps that mount a bucket copies anything. -/
theorem not_copies_mountBucket {image bucket path : String} {step : Action}
    (mounts : step ∈ Transfer.mountBucket image bucket path) (other : String) (glob : Glob)
    (source destination : List Char) : ¬ Transfer.Copies other glob source destination step := by
  rintro ⟨script, rfl, -⟩
  rcases List.mem_cons.mp mounts with same | mounts
  · exact absurd (congrArg Action.entrypoint same) (Option.some_ne_none _)
  · exact absurd (congrArg Action.entrypoint (List.mem_singleton.mp mounts)) (Option.some_ne_none _)

theorem bucketPath_mem_directories {inputs outputs : List Staged} {bucket : String}
    (mounted : bucket ∈ mountedBuckets inputs) :
    bucketPath bucket ∈ (Plan.ofStaged c inputs outputs).directories := by
  obtain ⟨entry, member, rfl⟩ := List.mem_map.mp mounted
  obtain ⟨-, -, -, path⟩ := bucketPath_of_mem member
  have needed : bucketPath entry.1 ∈ (bucketsOf inputs).entries.map (·.2) :=
    List.mem_map.mpr ⟨entry, member, path⟩
  exact List.mem_append_left _ (List.mem_append_right _ needed)

/-- An input in a bucket is found below the place that the bucket is mounted at. -/
theorem placed_of_object {s : Specifier} {scheme bucket object : List Char}
    (parsed : Path.Object s.base scheme bucket object) : placed inputRoot s =
      bucketPath (String.ofList bucket) ++ String.ofList (Path.below object) := by
  have inside := within_bucketPath (Specifier.bucket?_of_object parsed)
  rw [bucketPath, String.toList_ofList, String.toList_ofList] at inside
  have filled : Path.segments (Path.join [inputRoot, bucket]) ≠ [] := by
    intro empty
    rw [Path.Within, empty] at inside
    exact absurd (List.prefix_nil.mp inside) (by decide)
  rw [placed, bucketPath, String.toList_ofList, ← String.ofList_append]
  exact congrArg String.ofList (parsed.join_eq place_inputRoot filled)

/-- The two steps for a bucket: one mounts it in the background, the other waits until it is
there. -/
def mountSteps (c : Config) (bucket : String) : List Action :=
  [{ imageUri := c.fuseImage,
     commands := ["--implicit-dirs", "--foreground", bucket, bucketPath bucket],
     flags := [.enableFuse, .runInBackground],
     mounts := [{ disk := "google", path := "/mnt/google" }] },
   { imageUri := c.fuseImage, commands := ["wait", bucketPath bucket],
     mounts := [{ disk := "google", path := "/mnt/google" }] }]

/-- How a plan stages inputs where buckets are mounted. -/
structure Mounting (c : Config) (h : Host) (p : Plan) (uploads : List Action)
    (buckets : List String) : Prop where
  localizers_eq : p.localizers = uploads ++ buckets.flatMap (mountSteps c)
  uploads : List.Forall₂ (Uploads c h)
    ((Specifier.parseList "INPUT" c.inputs).filter (·.bucket?.isNone)) uploads
  mem_buckets_iff : ∀ bucket, bucket ∈ buckets ↔
    ∃ s ∈ Specifier.parseList "INPUT" c.inputs, s.bucket? = some bucket.toList
  increasing : buckets.Pairwise fun a b => Text.bytes a < Text.bytes b
  copiesNothing : ∀ step ∈ p.localizers, ∀ image glob source destination,
    ¬ Transfer.Copies image glob source destination step
  required : ∀ bucket ∈ buckets, bucketPath bucket ∈ p.directories
  /-- An input is found in its bucket; its variable says so unless another input or output of the
  same name comes later. -/
  found : ∀ s ∈ Specifier.parseList "INPUT" c.inputs, ∀ scheme bucket object,
    Path.Object s.base scheme bucket object →
      String.ofList bucket ∈ buckets ∧
      placed inputRoot s = bucketPath (String.ofList bucket) ++ String.ofList (Path.below object) ∧
      ((∀ t ∈ Specifier.parseList "OUTPUT" c.outputs, t.name ≠ s.name) →
        LastNamed (Specifier.parseList "INPUT" c.inputs) s.name s →
        p.environment.get? s.name =
          some (bucketPath (String.ofList bucket) ++ String.ofList (Path.below object)))

/-- Where buckets are mounted, the local inputs are sent along first, and then each bucket is
mounted once, in the order of their names; nothing is copied. Each bucket has its directory, and
inputs are found in their buckets. -/
theorem mounting_of_plan (planned : (plan c h).result = .ok p) (mounting : c.fuse = true) :
    ∃ uploads buckets, Mounting c h p uploads buckets := by
  obtain ⟨inputs, outputs, read, -, shape⟩ := parts_of_plan planned
  have staged : List.Forall₂ (StagedInput c h) (Specifier.parseList "INPUT" c.inputs) inputs :=
    read.imp fun s input => stagedInput_of_stageInput
  obtain ⟨steps, uploads, -, only⟩ := uploads_of_staged staged
  have localizers : p.localizers = steps ++ (mountedBuckets inputs).flatMap fun bucket =>
      Transfer.mountBucket c.fuseImage bucket (bucketPath bucket) := by
    rw [shape, ← mounts_eq, ← only mounting]
    rfl
  refine ⟨steps, mountedBuckets inputs, localizers, uploads,
    fun bucket => mem_mountedBuckets mounting staged, increasing_mountedBuckets inputs, ?_, ?_, ?_⟩
  · intro step member image glob source destination
    rw [localizers] at member
    rcases List.mem_append.mp member with uploaded | mounted
    · obtain ⟨s, -, bytes, script, -, rfl, text, -⟩ := Traced.exists_of_forall₂ uploads uploaded
      simp only [List.append_assoc] at text
      exact Transfer.not_copies_of_begins text
    · obtain ⟨bucket, -, mounts⟩ := List.mem_flatMap.mp mounted
      exact not_copies_mountBucket mounts image glob source destination
  · intro bucket mounted
    rw [shape]
    exact bucketPath_mem_directories mounted
  · intro s given scheme bucket object parsed
    have remote := Specifier.bucket?_of_object parsed
    have place := placed_of_object parsed
    refine ⟨(mem_mountedBuckets mounting staged).mpr ⟨s, given, ?_⟩, place, ?_⟩
    · rw [String.toList_ofList]
      exact remote
    · intro noOutput last
      rw [get?_input planned noOutput last, place]

/-- A file is sent along, and two buckets are mounted, one of them for two inputs. -/
theorem mounting_of_plan_shared :
    let c : Config :=
      { fuse := true, inputs := ["gs://b/x", "notes", "s3://a", "DATA=gs://b/y/z/*"] }
    let h : Host := ⟨fun _ => .ok [104, 105], .error .notFound, none⟩
    ∃ p uploads buckets, (plan c h).result = .ok p ∧ Mounting c h p uploads buckets ∧
      "a" ∈ buckets ∧ "b" ∈ buckets ∧ "notes" ∉ buckets ∧
      [{ imageUri := c.fuseImage,
         commands := ["--implicit-dirs", "--foreground", "b", "/mnt/google/.google/input/b"],
         flags := [.enableFuse, .runInBackground],
         mounts := [{ disk := "google", path := "/mnt/google" }] },
       { imageUri := c.fuseImage, commands := ["wait", "/mnt/google/.google/input/b"],
         mounts := [{ disk := "google", path := "/mnt/google" }] }] <:+: p.localizers ∧
      "/mnt/google/.google/input/b" ∈ p.directories ∧
      p.environment.get? "INPUT2" = some "/mnt/google/.google/input/a" ∧
      p.environment.get? "DATA" = some "/mnt/google/.google/input/b/y/z" := by
  intro c h
  have given : Specifier.parseList "INPUT" c.inputs =
      [⟨"INPUT0", "gs://b/x"⟩, ⟨"INPUT1", "notes"⟩, ⟨"INPUT2", "s3://a"⟩,
        ⟨"DATA", "gs://b/y/z/*"⟩] := by decide
  have planned : ∃ p, (plan c h).result = .ok p := ⟨_, rfl⟩
  obtain ⟨p, planned⟩ := planned
  obtain ⟨uploads, buckets, mounted⟩ := mounting_of_plan planned rfl
  have bare : Path.Object (Specifier.base ⟨"INPUT2", "s3://a"⟩) "s3".toList ['a'] [] :=
    ⟨⟨[], .inl rfl, by decide⟩, by decide, by decide, by decide, by decide, .inl rfl⟩
  have nested : Path.Object (Specifier.base ⟨"DATA", "gs://b/y/z/*"⟩) "gs".toList ['b']
      "y/z".toList :=
    ⟨⟨['/'], .inr rfl, by decide⟩, by decide, by decide, by decide, by decide, .inr (by decide)⟩
  obtain ⟨whole, -, bound⟩ := mounted.found _ (by rw [given]; decide) _ _ _ bare
  obtain ⟨shared, -, inside⟩ := mounted.found _ (by rw [given]; decide) _ _ _ nested
  have mount : bucketPath "b" ∈ p.directories := mounted.required _ shared
  have path : bucketPath "b" = "/mnt/google/.google/input/b" := by decide
  refine ⟨p, uploads, buckets, planned, mounted, whole, shared, ?_, ?_, path ▸ mount, ?_, ?_⟩
  · rw [mounted.mem_buckets_iff, given]
    decide
  · have second : "b" ∈ buckets := shared
    have steps : mountSteps c "b" <:+: buckets.flatMap (mountSteps c) := by
      rw [List.flatMap_def]
      exact List.infix_of_mem_flatten (List.mem_map_of_mem second)
    rw [mountSteps, path] at steps
    rw [mounted.localizers_eq]
    exact steps.trans (List.suffix_append uploads _).isInfix
  · have last : LastNamed (Specifier.parseList "INPUT" c.inputs) "INPUT2" ⟨"INPUT2", "s3://a"⟩ :=
      ⟨[⟨"INPUT0", "gs://b/x"⟩, ⟨"INPUT1", "notes"⟩], _, given, rfl, by decide⟩
    exact (bound (by decide) last).trans (by decide)
  · have last : LastNamed (Specifier.parseList "INPUT" c.inputs) "DATA"
        ⟨"DATA", "gs://b/y/z/*"⟩ :=
      ⟨[⟨"INPUT0", "gs://b/x"⟩, ⟨"INPUT1", "notes"⟩, ⟨"INPUT2", "s3://a"⟩], [], given, rfl,
        by decide⟩
    exact (inside (by decide) last).trans (by decide)

end Staging

end BatchJob
