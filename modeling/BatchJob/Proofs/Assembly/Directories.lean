import BatchJob.Assembly
import BatchJob.Proofs.Staging.Directories
import BatchJob.Proofs.Staging.Plan

set_option autoImplicit false

/-!
Which of the directories that a plan needs are made. A path that is made comes with the directories
above it, but merging goes by the text of paths, and so a directory is lost to another one beside it
whose name only begins with its own.
-/

namespace BatchJob.Assembly

/-- Whether a directory is there once a path is made: it is that path, or lies above it. -/
def Makes (made directory : String) : Prop :=
  Path.segments directory.toList <+: Path.segments made.toList

instance (made directory : String) : Decidable (Makes made directory) :=
  inferInstanceAs (Decidable (_ <+: _))

section

variable {c : Config} {h : Host} {p : Staging.Plan}

/-- Every plan has one step that makes its merged directories. -/
theorem makeDirectories_of_plan (planned : (Staging.plan c h).result = .ok p) :
    makeDirectories c p.directories = [Action.shell c.cloudSdkImage
      ("mkdir -p " ++ " ".intercalate (Directories.merge p.directories))] := by
  obtain ⟨made, kept, -⟩ := Directories.exists_mem_merge (Staging.temporaryRoot_mem planned)
  have filled : (Directories.merge p.directories).isEmpty = false := by
    cases merged : Directories.merge p.directories with
    | nil =>
        rw [merged] at kept
        cases kept
    | cons first rest => rfl
  simp only [makeDirectories, Directories.makeCommand?, filled, Bool.false_eq_true, if_false,
    Option.map_some, Option.toList_some]

/-- A directory below which another one is needed is made, whatever else is merged. -/
theorem makes_of_below {d e : String} (planned : (Staging.plan c h).result = .ok p)
    (outer : d ∈ p.directories) (inner : e ∈ p.directories) (different : e ≠ d)
    (below : Makes e d) : ∃ made ∈ Directories.merge p.directories, Makes made d := by
  have outerForm := Staging.canonical_of_mem_directories planned outer
  have innerForm := Staging.canonical_of_mem_directories planned inner
  have strict : Path.segments d.toList ≠ Path.segments e.toList := by
    intro same
    have texts := outerForm.eq_of_segments innerForm same
    exact different (String.ext texts.symm)
  obtain ⟨made, kept, starts⟩ := Directories.exists_mem_merge inner
  exact ⟨made, kept, innerForm.prefix_segments below strict starts⟩

/-- The step that makes directories makes one of those that are needed exactly if no other one has a
name that begins with its name, or another one lies below it. -/
theorem makes_iff (planned : (Staging.plan c h).result = .ok p) :
    makeDirectories c p.directories = [Action.shell c.cloudSdkImage
      ("mkdir -p " ++ " ".intercalate (Directories.merge p.directories))] ∧
    ∀ d ∈ p.directories, (∃ made ∈ Directories.merge p.directories, Makes made d) ↔
      (∀ e ∈ p.directories, d.toList <+: e.toList → e = d) ∨
        ∃ e ∈ p.directories, e ≠ d ∧ Makes e d := by
  refine ⟨makeDirectories_of_plan planned, fun d needed => ⟨?_, ?_⟩⟩
  · rintro ⟨made, kept, makes⟩
    obtain ⟨member, only⟩ := Directories.mem_merge.mp kept
    by_cases same : made = d
    · left
      rw [← same]
      exact only
    · exact .inr ⟨made, member, same, makes⟩
  · rintro (only | ⟨e, inner, different, below⟩)
    · exact ⟨d, Directories.mem_merge.mpr ⟨needed, only⟩, List.prefix_refl _⟩
    · exact makes_of_below planned needed inner different below

end

theorem makes_nested :
    let c : Config := { inputs := ["gs://a/*", "gs://a/x/**", "gs://b/y"] }
    let h : Host := ⟨fun _ => .error .notFound, .error .notFound, none⟩
    ∃ p, (Staging.plan c h).result = .ok p ∧
      makeDirectories c p.directories = [Action.shell c.cloudSdkImage
        ("mkdir -p " ++ " ".intercalate (Directories.merge p.directories))] ∧
      ∀ d ∈ p.directories, ∃ made ∈ Directories.merge p.directories, Makes made d := by
  intro c h
  have planned : ∃ p, (Staging.plan c h).result = .ok p ∧ ∀ d ∈ p.directories,
      (∀ e ∈ p.directories, d.toList <+: e.toList → e = d) ∨
        ∃ e ∈ p.directories, e ≠ d ∧ Makes e d := ⟨_, rfl, by decide⟩
  obtain ⟨p, planned, all⟩ := planned
  obtain ⟨step, exactly⟩ := makes_iff planned
  exact ⟨p, planned, step, fun d needed => (exactly d needed).mpr (all d needed)⟩

/-- The directory `dir` is not made when `dir2` beside it is needed as well. -/
theorem not_makes_beside :
    let c : Config := { inputs := ["gs://b/dir/*", "gs://b/dir2/*"] }
    let h : Host := ⟨fun _ => .error .notFound, .error .notFound, none⟩
    ∃ p, (Staging.plan c h).result = .ok p ∧ ∃ d ∈ p.directories,
      ∀ made ∈ Directories.merge p.directories, ¬ Makes made d := by
  intro c h
  have planned : ∃ p, (Staging.plan c h).result = .ok p ∧ ∃ d ∈ p.directories,
      ∀ made ∈ p.directories, (∀ q ∈ p.directories, made.toList <+: q.toList → q = made) →
        ¬ Makes made d := ⟨_, rfl, "/mnt/google/.google/input/b/dir", by decide, by decide⟩
  obtain ⟨p, planned, d, needed, all⟩ := planned
  refine ⟨p, planned, d, needed, fun made kept => ?_⟩
  obtain ⟨member, only⟩ := Directories.mem_merge.mp kept
  exact all made member only

end BatchJob.Assembly
