import BatchJob.Proofs.Storage.Contents

set_option autoImplicit false

/-!
Where the path of an object leads from a place: first to where its bucket alone would lead, and from
there along the names of the object in it.
-/

namespace BatchJob.Path

/-- What stands behind a bucket for an object in it; nothing for the bucket itself. -/
def below (object : List Char) : List Char := if object = [] then [] else '/' :: object

/-- The path of an object by its parts, or of a directory of objects, which may end in a slash.
There is nothing to work off behind the bucket. -/
structure Object (path scheme bucket object : List Char) : Prop where
  whole : ∃ ending, (ending = [] ∨ ending = ['/']) ∧
    path = scheme ++ schemeMark ++ (bucket ++ below object ++ ending)
  named : scheme ≠ []
  plain : scheme.all Char.isAlphanum = true
  filled : bucket ≠ []
  single : '/' ∉ bucket
  stays : object = [] ∨ ∀ n ∈ object.splitOn '/', Stays n

/-- The names along which an object lies in its bucket. -/
def namesOf (object : List Char) : List (List Char) :=
  if object = [] then [] else object.splitOn '/'

theorem splitOn_below {bucket : List Char} (single : '/' ∉ bucket) (object : List Char) :
    (bucket ++ below object).splitOn '/' = bucket :: namesOf object := by
  rw [below, namesOf]
  split
  · rw [List.append_nil, List.splitOn_eq_singleton single]
  · rw [List.splitOn_append_cons_self, List.splitOn_eq_singleton single, List.singleton_append]

theorem splitOn_slash (front : List Char) :
    (front ++ ['/']).splitOn '/' = front.splitOn '/' ++ [[]] :=
  List.splitOn_append_cons_self front []

theorem cleanSegments_slash {rooted : Bool} (front : List Char) :
    cleanSegments rooted (front ++ ['/']) = cleanSegments rooted front := by
  rw [cleanSegments, splitOn_slash, List.foldl_append, cleanSegments]
  rfl

theorem cleanSegments_below {rooted : Bool} {object : List Char}
    (stays : object = [] ∨ ∀ n ∈ object.splitOn '/', Stays n) (front : List Char) :
    cleanSegments rooted (front ++ below object) =
      cleanSegments rooted front ++ namesOf object := by
  rw [below, namesOf]
  split
  · rw [List.append_nil, List.append_nil]
  · rename_i filled
    exact cleanSegments_names (stays.resolve_left filled) front

/-- A path in which an empty segment can only be the last has no scheme: behind that two slashes
stand side by side. -/
theorem scheme?_of_tight {path : List Char} (tight : [] ∉ (path.splitOn '/').dropLast) :
    scheme? path = none := by
  rw [Option.eq_none_iff_forall_ne_some]
  rintro ⟨scheme, rest⟩ found
  apply tight
  have slashes : path = scheme ++ [':'] ++ '/' :: ([] ++ '/' :: rest) := by
    rw [← scheme?_append found, List.append_assoc, List.append_assoc]
    rfl
  have later : ([] : List Char).splitOn '/' ++ rest.splitOn '/' ≠ [] :=
    List.append_ne_nil_of_right_ne_nil _ (List.splitOn_ne_nil '/' rest)
  rw [slashes, List.splitOn_append_cons_self, List.splitOn_append_cons_self,
    List.dropLast_append_of_ne_nil later,
    List.dropLast_append_of_ne_nil (List.splitOn_ne_nil '/' rest)]
  exact List.mem_append_right _ (List.mem_append_left _ List.mem_cons_self)

section

variable {path scheme bucket object : List Char}

theorem Object.parts (parsed : Object path scheme bucket object) : ∃ ending,
    (ending = [] ∨ ending = ['/']) ∧ Parts path scheme (bucket ++ below object ++ ending) := by
  obtain ⟨ending, slash, whole⟩ := parsed.whole
  refine ⟨ending, slash, whole, parsed.named, parsed.plain, ?_⟩
  cases start : bucket with
  | nil => exact absurd start parsed.filled
  | cons c others =>
      refine ⟨c, others ++ below object ++ ending, rfl, ?_⟩
      rintro rfl
      exact parsed.single (start ▸ List.mem_cons_self)

theorem Object.filled_of_mem (parsed : Object path scheme bucket object) {n : List Char}
    (member : n ∈ bucket :: namesOf object) : n ≠ [] := by
  rcases List.mem_cons.mp member with rfl | member
  · exact parsed.filled
  · rw [namesOf] at member
    split at member
    · cases member
    · rename_i filled
      exact fun empty => (parsed.stays.resolve_left filled n member).1 (.inl empty)

/-- Behind the scheme of an object's path there is no other one. -/
theorem Object.withoutScheme_twice (parsed : Object path scheme bucket object) : ∃ ending,
    (ending = [] ∨ ending = ['/']) ∧
      withoutScheme (withoutScheme path) = bucket ++ below object ++ ending := by
  obtain ⟨ending, slash, parts⟩ := parsed.parts
  refine ⟨ending, slash, ?_⟩
  have once : withoutScheme path = bucket ++ below object ++ ending := by
    rw [withoutScheme, scheme?_eq_some_iff.mpr parts]
  have tight : [] ∉ ((bucket ++ below object ++ ending).splitOn '/').dropLast := by
    have pieces := splitOn_below parsed.single object
    rcases slash with rfl | rfl
    · rw [List.append_nil, pieces]
      exact fun member => parsed.filled_of_mem (List.dropLast_subset _ member) rfl
    · rw [splitOn_slash, pieces, List.dropLast_concat]
      exact fun member => parsed.filled_of_mem member rfl
  rw [once, withoutScheme, scheme?_of_tight tight]

/-- An object is found in its bucket: its path leads along its names from where the bucket is. -/
theorem Object.segments_join (parsed : Object path scheme bucket object) {root : List Char}
    (place : Place root) : segments (join [root, withoutScheme path]) =
      segments (join [root, bucket]) ++ namesOf object := by
  obtain ⟨ending, slash, rest⟩ := parsed.withoutScheme_twice
  have ended : cleanSegments true (root ++ '/' :: (bucket ++ below object ++ ending)) =
      cleanSegments true (root ++ '/' :: bucket ++ below object) := by
    have shape : root ++ '/' :: (bucket ++ below object ++ ending) =
        root ++ '/' :: bucket ++ below object ++ ending := by
      simp only [List.append_assoc, List.cons_append]
    rw [shape]
    rcases slash with rfl | rfl
    · rw [List.append_nil]
    · exact cleanSegments_slash _
  rw [Path.segments_join place, rest, Path.segments_join place,
    withoutScheme_of_not_mem parsed.single, ← cleanSegments_append place, ended,
    cleanSegments_below parsed.stays, cleanSegments_append place]

theorem intercalate_append {names others : List (List Char)} (filled : names ≠ [])
    (more : others ≠ []) : ['/'].intercalate (names ++ others) =
      ['/'].intercalate names ++ '/' :: ['/'].intercalate others := by
  induction others using List.reverseRecOn with
  | nil => exact absurd rfl more
  | append_singleton others last ih =>
      rw [← List.append_assoc,
        intercalate_concat (List.append_ne_nil_of_left_ne_nil filled others)]
      by_cases empty : others = []
      · rw [empty, List.append_nil, List.nil_append, List.intercalate_singleton]
      · rw [ih empty, intercalate_concat empty, List.append_assoc, List.cons_append]

theorem absolute_append_namesOf {names : List (List Char)} (filled : names ≠ [])
    (object : List Char) : absolute (names ++ namesOf object) = absolute names ++ below object := by
  rw [namesOf, below]
  split
  · rw [List.append_nil, List.append_nil]
  · rw [absolute, intercalate_append filled (List.splitOn_ne_nil '/' object),
      List.intercalate_splitOn, absolute, List.cons_append]

/-- Where an object is found, as a text: in its bucket, behind a slash. -/
theorem Object.join_eq (parsed : Object path scheme bucket object) {root : List Char}
    (place : Place root) (inside : segments (join [root, bucket]) ≠ []) :
    join [root, withoutScheme path] = join [root, bucket] ++ below object := by
  have found : Canonical (join [root, withoutScheme path]) :=
    canonical_join place.rooted place.plain _
  have mount : Canonical (join [root, bucket]) := canonical_join place.rooted place.plain _
  rw [← found, parsed.segments_join place, absolute_append_namesOf inside, mount]

theorem bucket?_append {rest : List Char} (named : scheme ≠ [])
    (plain : scheme.all Char.isAlphanum = true) (filled : bucket ≠ []) (single : '/' ∉ bucket)
    (ends : rest.head?.all (· == '/') = true) :
    bucket? (scheme ++ schemeMark ++ (bucket ++ rest)) = some bucket := by
  have unmarked : ':' ∉ scheme := fun member =>
    absurd (List.all_eq_true.mp plain ':' member) (by decide)
  have passed : ∀ c ∈ bucket, (c != '/') = true := by
    intro c member
    exact bne_iff_ne.mpr (ne_of_mem_of_not_mem member single)
  have stops : rest.takeWhile (· != '/') = [] := by
    cases rest with
    | nil => rfl
    | cons c rest =>
        have slash : c = '/' := beq_iff_eq.mp ends
        exact List.takeWhile_cons_of_neg (by simp [slash])
  rw [bucket?, cutAt_schemeMark unmarked]
  dsimp only
  rw [List.takeWhile_append_of_pos passed, stops, List.append_nil, plain,
    List.isEmpty_eq_false_iff.mpr named, List.isEmpty_eq_false_iff.mpr filled]
  rfl

end

end BatchJob.Path
