import BatchJob.Proofs.Staging.Faults
import BatchJob.Proofs.Staging.Mounts
import Mathlib.Data.List.Nodup

set_option autoImplicit false

/-!
Plans for the same inputs in another order. Inputs that have names of their own do not depend on
where they stand, so the order of the inputs shows in nothing but the order of the steps that bring
them, and of the directories before they are merged.
-/

namespace BatchJob

namespace Specifier

variable {entries others : List String}

/-- Whether an entry gives a name of its own, before its first equals sign. -/
def Names (entry name : String) : Prop :=
  name ≠ "" ∧ '=' ∉ name.toList ∧ ∃ path, entry = name ++ "=" ++ path

/-- Whether all entries give names of their own, no two of them the same. -/
def NamedApart (entries : List String) : Prop :=
  ∃ names, List.Forall₂ Names entries names ∧ names.Nodup

theorem ofEntry?_of_names (standard : String) {entry name : String} (named : Names entry name) :
    ∃ path, ∀ position, ofEntry? standard position entry = some ⟨name, path⟩ := by
  obtain ⟨filled, plain, path, rfl⟩ := named
  exact ⟨path, fun position => ofEntry?_named filled plain path⟩

theorem NamedApart.exists_names (apart : NamedApart entries) :
    ∀ entry ∈ entries, ∃ name, Names entry name := by
  intro entry member
  obtain ⟨names, named, -⟩ := apart
  obtain ⟨name, -, gives⟩ := Traced.exists_of_forall₂ named.flip member
  exact ⟨name, gives⟩

/-- Entries with names of their own are read without regard to their positions. -/
theorem parseList_of_names (standard : String)
    (named : ∀ entry ∈ entries, ∃ name, Names entry name) :
    parseList standard entries = entries.filterMap fun entry => ofEntry? standard 0 entry := by
  have anywhere : parseList standard entries =
      entries.zipIdx.filterMap fun placed => ofEntry? standard 0 placed.1 := by
    apply List.filterMap_congr
    intro placed member
    obtain ⟨name, gives⟩ := named placed.1 (List.fst_mem_of_mem_zipIdx member)
    obtain ⟨path, read⟩ := ofEntry?_of_names standard gives
    exact (read placed.2).trans (read 0).symm
  calc parseList standard entries
      _ = entries.zipIdx.filterMap fun placed => ofEntry? standard 0 placed.1 := anywhere
      _ = (entries.zipIdx.map Prod.fst).filterMap fun entry => ofEntry? standard 0 entry := by
          rw [List.filterMap_map]
          rfl
      _ = entries.filterMap fun entry => ofEntry? standard 0 entry := by
          rw [List.zipIdx_map_fst]

theorem NamedApart.perm_parseList (standard : String) (apart : NamedApart entries)
    (moved : others.Perm entries) :
    (parseList standard others).Perm (parseList standard entries) := by
  have named : ∀ entry ∈ others, ∃ name, Names entry name :=
    fun entry member => apart.exists_names entry (moved.mem_iff.mp member)
  rw [parseList_of_names standard apart.exists_names, parseList_of_names standard named]
  exact moved.filterMap _

theorem NamedApart.nodup_names (standard : String) (apart : NamedApart entries) :
    ((parseList standard entries).map (·.name)).Nodup := by
  have read := parseList_of_names standard apart.exists_names
  obtain ⟨names, named, distinct⟩ := apart
  have same : (entries.filterMap fun entry => ofEntry? standard 0 entry).map (·.name) = names := by
    clear read distinct
    induction named with
    | nil => rfl
    | cons first later ih =>
        obtain ⟨path, found⟩ := ofEntry?_of_names standard first
        rw [List.filterMap_cons_some (found 0), List.map_cons, ih]
  rw [read, same]
  exact distinct

end Specifier

/-- The same settings for other inputs. -/
def Config.withInputs (c : Config) (inputs : List String) : Config := { c with inputs := inputs }

namespace Staging

open Specifier (NamedApart)

variable {c : Config} {h : Host} {p q : Plan} {inputs : List String}

/-- Whether two plans differ in nothing but the order in which inputs are brought, and in the order
in which directories are listed. -/
structure Plan.Reordered (p q : Plan) : Prop where
  localizers : q.localizers.Perm p.localizers
  directories : q.directories.Perm p.directories
  delocalizers : q.delocalizers = p.delocalizers
  environment : q.environment = p.environment

/-- An input is read or not wherever it stands, so a plan is made in every order or in none. -/
theorem exists_plan_iff_of_perm (apart : NamedApart c.inputs) (moved : inputs.Perm c.inputs) :
    (∃ q, (plan (c.withInputs inputs) h).result = .ok q) ↔
      ∃ p, (plan c h).result = .ok p := by
  have given (s : Specifier) : s ∈ Specifier.parseList "INPUT" inputs ↔
      s ∈ Specifier.parseList "INPUT" c.inputs := (apart.perm_parseList _ moved).mem_iff
  rw [← not_iff_not, ← Traced.exists_eq_error_iff, ← Traced.exists_eq_error_iff]
  simp only [plan_eq_error_iff, exists_refused_iff]
  simp only [Config.withInputs, given]

theorem parts_of_perm (apart : NamedApart c.inputs) (moved : inputs.Perm c.inputs)
    (planned : (plan c h).result = .ok p)
    (again : (plan (c.withInputs inputs) h).result = .ok q) : ∃ staged others outputs,
      List.Forall₂ (StagedInput c h) (Specifier.parseList "INPUT" c.inputs) staged ∧
      others.Perm staged ∧ p = Plan.ofStaged c staged outputs ∧
      q = Plan.ofStaged c others outputs := by
  obtain ⟨staged, outputs, read, collected, rfl⟩ := parts_of_plan planned
  obtain ⟨others, alike, readAgain, collectedAgain, rfl⟩ := parts_of_plan again
  have same : alike = outputs :=
    (Traced.eq_filterMap_of_forall₂ collectedAgain).trans
      (Traced.eq_filterMap_of_forall₂ collected).symm
  have stagedAs := Traced.eq_filterMap_of_forall₂ (f := fun s => (stageInput c h s).result) read
  have stagedAgain :=
    Traced.eq_filterMap_of_forall₂ (f := fun s => (stageInput c h s).result) readAgain
  refine ⟨staged, others, outputs, read.imp fun s input => stagedInput_of_stageInput, ?_, rfl, ?_⟩
  · rw [stagedAs, stagedAgain]
    exact (apart.perm_parseList _ moved).filterMap _
  · rw [same]
    rfl

/-- The buckets to mount do not depend on the order of the inputs in them. -/
theorem bucketsOf_of_perm {staged others : List Staged} (moved : others.Perm staged) :
    bucketsOf others = bucketsOf staged := by
  refine Dict.foldl_insert_of_perm ((moved.filterMap _).map _) ?_ .empty
  intro x first y second same
  obtain ⟨bucket, -, rfl⟩ := List.mem_map.mp first
  obtain ⟨other, -, rfl⟩ := List.mem_map.mp second
  exact congrArg (fun name => (name, bucketPath name)) same

theorem environment_of_perm (apart : NamedApart c.inputs) (moved : inputs.Perm c.inputs)
    (planned : (plan c h).result = .ok p)
    (again : (plan (c.withInputs inputs) h).result = .ok q) : q.environment = p.environment := by
  let assign (s : Specifier) : String × String := (s.name, placed inputRoot s)
  have given : ((Specifier.parseList "INPUT" inputs).map assign).Perm
      ((Specifier.parseList "INPUT" c.inputs).map assign) :=
    (apart.perm_parseList _ moved).map assign
  have single : ∀ x ∈ (Specifier.parseList "INPUT" c.inputs).map assign,
      ∀ y ∈ (Specifier.parseList "INPUT" c.inputs).map assign, x.1 = y.1 → x = y := by
    intro x first y second same
    obtain ⟨s, sGiven, rfl⟩ := List.mem_map.mp first
    obtain ⟨t, tGiven, rfl⟩ := List.mem_map.mp second
    rw [List.inj_on_of_nodup_map (apart.nodup_names _) sGiven tGiven same]
  rw [environment_of_plan planned, environment_of_plan again]
  exact Dict.ofList_of_perm_between [("TMPDIR", String.ofList temporaryRoot)] _ given single

/-- Plans for the same inputs in another order bring the same inputs in another order, and are equal
in all else. -/
theorem reordered_of_perm (apart : NamedApart c.inputs) (moved : inputs.Perm c.inputs)
    (planned : (plan c h).result = .ok p)
    (again : (plan (c.withInputs inputs) h).result = .ok q) : p.Reordered q := by
  have environment := environment_of_perm apart moved planned again
  obtain ⟨staged, others, outputs, -, turned, rfl, rfl⟩ :=
    parts_of_perm apart moved planned again
  have buckets := bucketsOf_of_perm turned
  refine ⟨?_, ?_, rfl, environment⟩
  · simp only [Plan.ofStaged, buckets]
    exact (turned.filterMap _).append_right _
  · simp only [Plan.ofStaged, buckets]
    exact (((turned.filterMap _).cons _).append_right _).append_right _

theorem StagedInput.action?_of_mounted {s : Specifier} {input : Staged}
    (staged : StagedInput c h s input) (mounting : c.fuse = true)
    (remote : s.bucket?.isSome = true) : input.action? = none := by
  cases staged with
  | mounted place fuse => rfl
  | copied place fuse => exact absurd (fuse.symm.trans mounting) Bool.false_ne_true
  | uploaded here read =>
      rw [here] at remote
      cases remote

/-- Where all inputs lie in buckets that are mounted, the steps are those that mount the buckets, in
the order of their names. -/
theorem localizers_of_perm (apart : NamedApart c.inputs) (moved : inputs.Perm c.inputs)
    (planned : (plan c h).result = .ok p)
    (again : (plan (c.withInputs inputs) h).result = .ok q) (mounting : c.fuse = true)
    (remote : ∀ s ∈ Specifier.parseList "INPUT" c.inputs, s.bucket?.isSome = true) :
    q.localizers = p.localizers := by
  obtain ⟨staged, others, outputs, read, turned, rfl, rfl⟩ :=
    parts_of_perm apart moved planned again
  have nothing : staged.filterMap Staged.action? = [] := by
    refine List.filterMap_eq_nil_iff.mpr fun input member => ?_
    obtain ⟨s, given, became⟩ := Traced.exists_of_forall₂ read member
    exact became.action?_of_mounted mounting (remote s given)
  have nothingElse : others.filterMap Staged.action? = [] :=
    List.perm_nil.mp (nothing ▸ turned.filterMap Staged.action?)
  simp only [Plan.ofStaged, bucketsOf_of_perm turned, nothing, nothingElse]

/-- Every step that brings an input works on the working disk, and on no other. -/
theorem mounts_of_localizer (planned : (plan c h).result = .ok p) :
    ∀ a ∈ p.localizers, a.mounts = [.workingRoot] := by
  obtain ⟨staged, outputs, read, -, rfl⟩ := parts_of_plan planned
  intro a member
  rcases List.mem_append.mp member with brought | mounted
  · obtain ⟨input, within, step⟩ := List.mem_filterMap.mp brought
    obtain ⟨s, -, became⟩ := Traced.exists_of_forall₂ read within
    cases stagedInput_of_stageInput became with
    | mounted remote fuse => cases step
    | copied remote fuse =>
        cases step
        unfold Transfer.copy
        cases s.glob <;> rfl
    | uploaded here bytes =>
        cases step
        rfl
  · obtain ⟨entry, -, mounts⟩ := List.mem_flatMap.mp mounted
    rcases List.mem_cons.mp mounts with rfl | mounts
    · rfl
    · rw [List.mem_singleton.mp mounts]

end Staging

end BatchJob
