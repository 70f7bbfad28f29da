import BatchJob.Proofs.Staging.Plan
import BatchJob.Proofs.Storage.Climb

set_option autoImplicit false

/-!
Which specifiers are staged inside the staging area. A path may climb with double dots, out of the
directory that it is staged in and of the staging area itself; it stays inside exactly if it comes
back along the same names.
-/

namespace BatchJob

/-- The path that a specifier follows from the place that it is staged in. -/
def Specifier.route (s : Specifier) : List Char := Path.withoutScheme (Path.withoutScheme s.base)

namespace Staging

open BatchJob.Path (Within Below ComesBack Descends Place segments)

/-- Whether the directory that a specifier needs is `outer` or below it, where the specifier is
staged in `place`. A single object needs only the directory above it. -/
def Keeps (outer place : List Char) (s : Specifier) : Prop :=
  if s.glob.isDirectory then ComesBack (segments outer) (segments place) s.route
  else Descends (segments outer) (segments place) s.route

instance (outer place : List Char) : DecidablePred (Keeps outer place) := fun s =>
  inferInstanceAs (Decidable (if s.glob.isDirectory then _ else _))

theorem place_inputRoot : Place inputRoot :=
  ⟨by decide, by decide, by decide, by decide⟩

theorem place_outputRoot : Place outputRoot :=
  ⟨by decide, by decide, by decide, by decide⟩

section

variable {outer place : List Char}

theorem segments_targetUnder (cleaned : Place place) (s : Specifier) :
    segments (s.targetUnder place) = Path.landing (segments place) s.route :=
  Path.segments_join cleaned (Path.withoutScheme s.base)

theorem within_targetUnder_iff (cleaned : Place place) (above : Within outer place)
    (s : Specifier) : Within outer (s.targetUnder place) ↔
      ComesBack (segments outer) (segments place) s.route := by
  rw [Within, segments_targetUnder cleaned]
  exact Path.prefix_landing_iff above

theorem below_targetUnder_iff (cleaned : Place place) (above : Within outer place)
    (s : Specifier) : Below outer (s.targetUnder place) ↔
      Descends (segments outer) (segments place) s.route := by
  rw [Below, segments_targetUnder cleaned]
  exact and_congr (Path.prefix_landing_iff above) (Path.ne_landing_iff above)

theorem within_requiredDirectory_iff (cleaned : Place place) (above : Within outer place)
    (filled : segments outer ≠ []) (s : Specifier) :
    Within outer (requiredDirectory s.glob (s.targetUnder place)) ↔ Keeps outer place s := by
  have canonical : Path.Canonical (s.targetUnder place) :=
    Path.canonical_join cleaned.rooted cleaned.plain _
  rw [requiredDirectory, Keeps]
  split
  · exact within_targetUnder_iff cleaned above s
  · exact (Path.within_parent_iff filled canonical).trans (below_targetUnder_iff cleaned above s)

end

theorem within_temporaryRoot : Within root temporaryRoot := by decide

/-- A bucket is mounted in the staging area whatever its name is: a name without slashes climbs one
level at most, and inputs are staged one level below. -/
theorem within_bucketPath {s : Specifier} {bucket : List Char} (remote : s.bucket? = some bucket) :
    Within root (bucketPath (String.ofList bucket)).toList := by
  have plain := Path.not_mem_of_bucket? remote
  have shallow := Path.climbs_le_of_not_mem plain
  have depths : (segments root).length + 1 = (segments inputRoot).length := by decide
  rw [bucketPath, String.toList_ofList, String.toList_ofList, Within,
    Path.segments_join place_inputRoot, Path.withoutScheme_of_not_mem plain,
    Path.prefix_landing_iff (by decide)]
  exact Path.comesBack_of_le (by omega)

theorem within_inputDirectory_iff (s : Specifier) :
    Within root (inputDirectory s).toList ↔ Keeps root inputRoot s := by
  rw [inputDirectory, String.toList_ofList]
  exact within_requiredDirectory_iff place_inputRoot (by decide) (by decide) s

theorem within_outputDirectory_iff (s : Specifier) :
    Within root (outputDirectory s).toList ↔ Keeps root outputRoot s := by
  rw [outputDirectory, String.toList_ofList]
  exact within_requiredDirectory_iff place_outputRoot (by decide) (by decide) s

section

variable {c : Config} {h : Host} {p : Plan}

/-- The directories of a plan lie in the staging area exactly if no input that takes a step and no
output leads its directory out of it. -/
theorem within_directories_iff (planned : (plan c h).result = .ok p) :
    (∀ d ∈ p.directories, Within root d.toList) ↔
      (∀ s ∈ Specifier.parseList "INPUT" c.inputs, Stepped c s → Keeps root inputRoot s) ∧
      ∀ s ∈ Specifier.parseList "OUTPUT" c.outputs, Keeps root outputRoot s := by
  constructor
  · intro inside
    constructor
    · intro s given stepped
      have needed := inputDirectory_mem planned given stepped
      exact (within_inputDirectory_iff s).mp (inside _ needed)
    · intro s given
      have needed := outputDirectory_mem planned given
      exact (within_outputDirectory_iff s).mp (inside _ needed)
  · rintro ⟨inputs, outputs⟩ d needed
    rcases mem_directories planned needed with
      rfl | ⟨s, given, stepped, rfl⟩ | ⟨s, -, bucket, remote, rfl⟩ | ⟨s, given, rfl⟩
    · rw [String.toList_ofList]
      exact within_temporaryRoot
    · exact (within_inputDirectory_iff s).mpr (inputs s given stepped)
    · exact within_bucketPath remote
    · exact (within_outputDirectory_iff s).mpr (outputs s given)

/-- How far a plan stays inside the staging area: a target lies strictly below the place that it is
staged in, and a directory in the staging area, exactly if its path comes back to it. -/
theorem staysInside_iff (planned : (plan c h).result = .ok p) :
    (∀ s ∈ Specifier.parseList "INPUT" c.inputs, Below inputRoot (s.targetUnder inputRoot) ↔
      Descends (segments inputRoot) (segments inputRoot) s.route) ∧
    (∀ s ∈ Specifier.parseList "OUTPUT" c.outputs, Below outputRoot (s.targetUnder outputRoot) ↔
      Descends (segments outputRoot) (segments outputRoot) s.route) ∧
    ((∀ d ∈ p.directories, Within root d.toList) ↔
      (∀ s ∈ Specifier.parseList "INPUT" c.inputs, Stepped c s → Keeps root inputRoot s) ∧
      ∀ s ∈ Specifier.parseList "OUTPUT" c.outputs, Keeps root outputRoot s) :=
  ⟨fun s _ => below_targetUnder_iff place_inputRoot (List.prefix_refl _) s,
    fun s _ => below_targetUnder_iff place_outputRoot (List.prefix_refl _) s,
    within_directories_iff planned⟩

end

theorem staysInside_around :
    let c : Config := { inputs := ["gs://b/../../input/x", "gs://a/d/**"], outputs := ["gs://b/o"] }
    let h : Host := ⟨fun _ => .error .notFound, .error .notFound, none⟩
    ∃ p, (plan c h).result = .ok p ∧
      (∀ s ∈ Specifier.parseList "INPUT" c.inputs, Below inputRoot (s.targetUnder inputRoot)) ∧
      (∀ s ∈ Specifier.parseList "OUTPUT" c.outputs, Below outputRoot (s.targetUnder outputRoot)) ∧
      ∀ d ∈ p.directories, Within root d.toList := by
  intro c h
  have planned : ∃ p, (plan c h).result = .ok p := ⟨_, rfl⟩
  have inputsDescend : ∀ s ∈ Specifier.parseList "INPUT" c.inputs,
      Descends (segments inputRoot) (segments inputRoot) s.route := by decide
  have outputsDescend : ∀ s ∈ Specifier.parseList "OUTPUT" c.outputs,
      Descends (segments outputRoot) (segments outputRoot) s.route := by decide
  have inputsKept : ∀ s ∈ Specifier.parseList "INPUT" c.inputs, Keeps root inputRoot s := by decide
  have outputsKept : ∀ s ∈ Specifier.parseList "OUTPUT" c.outputs, Keeps root outputRoot s := by
    decide
  obtain ⟨p, planned⟩ := planned
  obtain ⟨inputs, outputs, directories⟩ := staysInside_iff planned
  refine ⟨p, planned, ?_, ?_, ?_⟩
  · exact fun s given => (inputs s given).mpr (inputsDescend s given)
  · exact fun s given => (outputs s given).mpr (outputsDescend s given)
  · exact directories.mpr ⟨fun s given _ => inputsKept s given, outputsKept⟩

/-- An object whose path climbs three levels is staged beside the staging area, and so is the
directory that is made for it. -/
theorem not_staysInside_climbing :
    let c : Config := { inputs := ["gs://b/../../../x/y"] }
    let h : Host := ⟨fun _ => .error .notFound, .error .notFound, none⟩
    ∃ p, (plan c h).result = .ok p ∧
      (∃ s ∈ Specifier.parseList "INPUT" c.inputs, ¬ Below inputRoot (s.targetUnder inputRoot)) ∧
      ∃ d ∈ p.directories, ¬ Within root d.toList := by
  intro c h
  refine ⟨_, rfl, ?_, ?_⟩
  · exact ⟨⟨"INPUT0", "gs://b/../../../x/y"⟩, by decide, by decide⟩
  · exact ⟨"/mnt/google/x", by decide, by decide⟩

end Staging

end BatchJob
