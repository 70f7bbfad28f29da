import BatchJob.Proofs.Staging.Containment
import BatchJob.Proofs.Staging.Copies
import BatchJob.Proofs.Staging.Environment
import BatchJob.Proofs.Storage.Objects

set_option autoImplicit false

/-!
Which inputs are staged at one place. A scheme and a slash at the start of a path do not show in the
place where it is staged, and nothing else is lost of a path that has nothing to work off.
-/

namespace BatchJob

namespace Path

/-- What follows the scheme of an object's path, or the slash that another path starts with. -/
def relative (path : List Char) : List Char :=
  match scheme? path with
  | some (_, rest) => rest
  | none => if path.head? = some '/' then path.tail else path

/-- Whether a path has nothing to work off behind its scheme or the slash that it starts with. -/
def Straight (path : List Char) : Prop := ∀ n ∈ (relative path).splitOn '/', Stays n

instance : DecidablePred Straight := fun path =>
  inferInstanceAs (Decidable (∀ n ∈ (relative path).splitOn '/', Stays n))

/-- Names that follow each other lead down along themselves. -/
theorem landing_of_cleanSegments {path : List Char} {names : List (List Char)}
    (stay : ∀ n ∈ names, Stays n) (cleaned : cleanSegments false path = names)
    (place : List (List Char)) : landing place path = place ++ names := by
  have plain : up ∉ names := fun member => (stay up member).2 rfl
  have level : cleanSegments false path = List.replicate 0 up ++ names := cleaned
  obtain ⟨levels, downward⟩ := climbs_and_descent plain level
  rw [landing, levels, downward, Nat.sub_zero, List.take_length]

theorem cleanSegments_of_stays {path : List Char} (stay : ∀ n ∈ path.splitOn '/', Stays n) :
    cleanSegments false path = path.splitOn '/' := by
  rw [cleanSegments, foldl_pushSegment_names stay, List.append_nil, List.reverse_reverse]

section

variable {path rest : List Char}

theorem relative_of_scheme {scheme : List Char} (found : scheme? path = some (scheme, rest)) :
    relative path = rest ∧ withoutScheme path = rest := by
  rw [relative, withoutScheme, found]
  exact ⟨rfl, rfl⟩

theorem relative_of_rooted (plain : scheme? ('/' :: rest) = none) :
    relative ('/' :: rest) = rest := by
  rw [relative, plain, List.head?_cons, if_pos rfl, List.tail_cons]

theorem relative_of_unrooted (plain : scheme? path = none) (unrooted : path.head? ≠ some '/') :
    relative path = path := by
  rw [relative, plain]
  exact if_neg unrooted

/-- There is no second scheme: it would leave an empty segment between its slashes. -/
theorem Straight.withoutScheme_withoutScheme (straight : Straight path) :
    withoutScheme (withoutScheme path) = withoutScheme path := by
  cases found : scheme? path with
  | none =>
      have whole : withoutScheme path = path := by rw [withoutScheme, found]
      rw [whole, whole]
  | some parts =>
      obtain ⟨behind, once⟩ := relative_of_scheme found
      rw [Straight, behind] at straight
      have tight : [] ∉ (parts.2.splitOn '/').dropLast := fun member =>
        (straight [] (List.dropLast_subset _ member)).1 (.inl rfl)
      rw [once, withoutScheme, scheme?_of_tight tight]

theorem Straight.cleanSegments_eq (straight : Straight path) :
    cleanSegments false (withoutScheme path) = (relative path).splitOn '/' := by
  cases found : scheme? path with
  | some parts =>
      obtain ⟨behind, once⟩ := relative_of_scheme found
      rw [Straight, behind] at straight
      rw [behind, once]
      exact cleanSegments_of_stays straight
  | none =>
      have whole : withoutScheme path = path := by rw [withoutScheme, found]
      rw [whole]
      by_cases rooted : path.head? = some '/'
      · obtain ⟨rest, rfl⟩ := List.head?_eq_some_iff.mp rooted
        rw [Straight, relative_of_rooted found] at straight
        rw [relative_of_rooted found]
        exact cleanSegments_names straight []
      · rw [Straight, relative_of_unrooted found rooted] at straight
        rw [relative_of_unrooted found rooted]
        exact cleanSegments_of_stays straight

/-- A straight path leads down along the names behind its scheme or first slash. -/
theorem Straight.landing_eq (straight : Straight path) (place : List (List Char)) :
    landing place (withoutScheme (withoutScheme path)) = place ++ (relative path).splitOn '/' := by
  rw [straight.withoutScheme_withoutScheme]
  exact landing_of_cleanSegments straight straight.cleanSegments_eq place

end

theorem splitOn_inj {first second : List Char} :
    first.splitOn '/' = second.splitOn '/' ↔ first = second := by
  constructor
  · intro same
    calc
      first = ['/'].intercalate (first.splitOn '/') := (List.intercalate_splitOn '/').symm
      _ = ['/'].intercalate (second.splitOn '/') := by rw [same]
      _ = second := List.intercalate_splitOn '/'
  · rintro rfl
    rfl

end Path

namespace Specifier

/-- Whether a specifier is a single object or file with a straight path. -/
def Direct (s : Specifier) : Prop :=
  s.glob.isDirectory = false ∧ Path.Straight s.path.toList

instance : DecidablePred Direct := fun _ => inferInstanceAs (Decidable (_ ∧ _))

theorem targetUnder_eq_iff {root : List Char} (place : Path.Place root) {s t : Specifier}
    (first : s.Direct) (second : t.Direct) : s.targetUnder root = t.targetUnder root ↔
      Path.relative s.path.toList = Path.relative t.path.toList := by
  have found {s : Specifier} (direct : s.Direct) : Path.segments (s.targetUnder root) =
      Path.segments root ++ (Path.relative s.path.toList).splitOn '/' := by
    rw [Staging.segments_targetUnder place, route,
      base_of_single (Bool.eq_false_iff.mp direct.1), direct.2.landing_eq]
  have canonical (s : Specifier) : Path.Canonical (s.targetUnder root) :=
    Path.canonical_join place.rooted place.plain _
  constructor
  · intro same
    have segments := congrArg Path.segments same
    rwa [found first, found second, List.append_right_inj, Path.splitOn_inj] at segments
  · intro same
    exact (canonical s).eq_of_segments (canonical t) (by rw [found first, found second, same])

end Specifier

namespace Staging

variable {c : Config} {h : Host} {p : Plan}

theorem StagedInput.target_eq {s : Specifier} {input : Staged} (staged : StagedInput c h s input) :
    input.target = placed inputRoot s := by
  cases staged <;> rfl

/-- Inputs are staged at the places of their specifiers. Of two single inputs with straight paths
one is staged at the place of the other exactly if their paths are the same behind a scheme or the
slash that they start with. -/
theorem sameTarget_iff_of_plan (planned : (plan c h).result = .ok p) : ∃ inputs outputs,
    p = Plan.ofStaged c inputs outputs ∧
      List.Forall₂ (fun s input => StagedInput c h s input ∧ input.target = placed inputRoot s)
        (Specifier.parseList "INPUT" c.inputs) inputs ∧
      ∀ s ∈ Specifier.parseList "INPUT" c.inputs, ∀ t ∈ Specifier.parseList "INPUT" c.inputs,
        s.Direct → t.Direct → (placed inputRoot s = placed inputRoot t ↔
          Path.relative s.path.toList = Path.relative t.path.toList) := by
  obtain ⟨inputs, outputs, read, -, shape⟩ := parts_of_plan planned
  refine ⟨inputs, outputs, shape, read.imp fun s input success => ?_, ?_⟩
  · have staged := stagedInput_of_stageInput success
    exact ⟨staged, staged.target_eq⟩
  · intro s _ t _ first second
    rw [placed, placed, String.ofList_inj,
      Specifier.targetUnder_eq_iff place_inputRoot first second]

/-- A file and an object whose bucket is named like its directory share a place; an object in
another bucket has one of its own. -/
theorem sameTarget_iff_of_plan_mixed :
    let c : Config := { inputs := ["gs://b/x", "DATA=/etc/x", "s3://etc/x"] }
    let h : Host := ⟨fun _ => .ok [104, 105], .error .notFound, none⟩
    ∃ p inputs outputs, (plan c h).result = .ok p ∧ p = Plan.ofStaged c inputs outputs ∧
      List.Forall₂ (fun s input => StagedInput c h s input ∧ input.target = placed inputRoot s)
        (Specifier.parseList "INPUT" c.inputs) inputs ∧
      placed inputRoot ⟨"INPUT0", "gs://b/x"⟩ ≠ placed inputRoot ⟨"DATA", "/etc/x"⟩ ∧
      placed inputRoot ⟨"DATA", "/etc/x"⟩ = placed inputRoot ⟨"INPUT2", "s3://etc/x"⟩ := by
  intro c h
  have given : Specifier.parseList "INPUT" c.inputs =
      [⟨"INPUT0", "gs://b/x"⟩, ⟨"DATA", "/etc/x"⟩, ⟨"INPUT2", "s3://etc/x"⟩] := by decide
  have planned : ∃ p, (plan c h).result = .ok p := ⟨_, rfl⟩
  obtain ⟨p, planned⟩ := planned
  obtain ⟨inputs, outputs, shape, staged, compared⟩ := sameTarget_iff_of_plan planned
  refine ⟨p, inputs, outputs, planned, shape, staged, ?_, ?_⟩
  · refine mt (compared _ ?_ _ ?_ (by decide) (by decide)).mp (by decide) <;> rw [given] <;> decide
  · refine (compared _ ?_ _ ?_ (by decide) (by decide)).mpr (by decide) <;> rw [given] <;> decide

/-- An object is overwritten by one of the same name in a bucket of the same name. -/
theorem not_apart_otherScheme :
    let c : Config := { inputs := ["gs://b/x", "s3://b/x"] }
    let h : Host := ⟨fun _ => .error .notFound, .error .notFound, none⟩
    ∃ p, (plan c h).result = .ok p ∧
      ∃ s ∈ Specifier.parseList "INPUT" c.inputs, ∃ t ∈ Specifier.parseList "INPUT" c.inputs,
        s.Direct ∧ t.Direct ∧ s.path ≠ t.path ∧ placed inputRoot s = placed inputRoot t ∧
        p.localizers.map Action.commands =
          [["-c", "gsutil -q cp gs://b/x /mnt/google/.google/input/b/x"],
            ["-c", "gsutil -q cp s3://b/x /mnt/google/.google/input/b/x"]] := by
  intro c h
  have given : Specifier.parseList "INPUT" c.inputs =
      [⟨"INPUT0", "gs://b/x"⟩, ⟨"INPUT1", "s3://b/x"⟩] := by decide
  rw [given]
  exact ⟨_, rfl, ⟨"INPUT0", "gs://b/x"⟩, by decide, ⟨"INPUT1", "s3://b/x"⟩, by decide, by decide,
    by decide, by decide, by decide, by decide⟩

end Staging
end BatchJob
