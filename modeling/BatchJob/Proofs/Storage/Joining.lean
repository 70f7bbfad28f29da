import BatchJob.Proofs.Storage.Objects
import Mathlib.Data.List.Basic

set_option autoImplicit false

/-!
Paths can be joined step by step. What has been joined is clean and has the scheme of its first
part, so nothing that is joined to it later sees whether that was done at once or in two steps.
-/

namespace BatchJob.Path

/-- A path that does not start at the root does not start there after it has been cleaned. -/
theorem head_clean_of_unrooted {path : List Char} (unrooted : path.head? ≠ some '/') :
    (clean path).head? ≠ some '/' := by
  intro rooted
  obtain ⟨rest, shape⟩ := List.head?_eq_some_iff.mp rooted
  apply nil_not_mem_splitOn_clean unrooted
  rw [shape, ← List.nil_append ('/' :: rest), List.splitOn_append_cons_self]
  exact List.mem_append_left _ List.mem_cons_self

theorem head_clean (path : List Char) :
    ((clean path).head? == some '/') = (path.head? == some '/') := by
  by_cases rooted : path.head? = some '/'
  · rw [rooted, clean_of_rooted rooted]
    rfl
  · rw [beq_eq_false_iff_ne.mpr rooted, beq_eq_false_iff_ne.mpr (head_clean_of_unrooted rooted)]

/-- Cleaning brings no scheme about: in a cleaned path no two slashes stand side by side. -/
theorem scheme?_clean (path : List Char) : scheme? (clean path) = none := by
  by_cases rooted : path.head? = some '/'
  · exact scheme?_of_rooted (place_clean rooted).rooted
  · exact scheme?_of_tight fun member =>
      nil_not_mem_splitOn_clean rooted (List.dropLast_subset _ member)

/-- The segments that are left of a path are left of them again. -/
theorem cleanSegments_clean {rooted : Bool} {path : List Char}
    (start : (path.head? == some '/') = rooted) :
    cleanSegments rooted (clean path) = cleanSegments rooted path := by
  cases rooted with
  | true =>
      have atRoot : path.head? = some '/' := beq_iff_eq.mp start
      rw [(place_clean atRoot).clean, segments_clean atRoot]
  | false =>
      rw [clean_of_unrooted (beq_eq_false_iff_ne.mp start)]
      split
      · rename_i empty
        rw [empty]
        rfl
      · rename_i filled
        have tidy : Tidy (cleanSegments false path) := fun _ => stays_of_mem_descent
        rw [cleanSegments, splitOn_intercalate_clean filled,
          foldl_pushSegment_of_tidy (fun n none => absurd none List.not_mem_nil) tidy,
          List.append_nil, List.reverse_reverse]

/-- What follows a path is worked off against the segments that are left of it, and so it does not
matter how the path itself was written. -/
theorem cleanSegments_below_congr {rooted : Bool} {path other : List Char}
    (same : cleanSegments rooted path = cleanSegments rooted other) (back : List Char) :
    cleanSegments rooted (path ++ below back) = cleanSegments rooted (other ++ below back) := by
  rw [below]
  split
  · rwa [List.append_nil, List.append_nil]
  · have sameStack := List.reverse_inj.mp same
    rw [cleanSegments, cleanSegments, List.splitOn_append_cons_self,
      List.splitOn_append_cons_self, List.foldl_append, List.foldl_append, sameStack]

theorem clean_congr {rooted : Bool} {path other : List Char}
    (start : (path.head? == some '/') = rooted) (otherStart : (other.head? == some '/') = rooted)
    (same : cleanSegments rooted path = cleanSegments rooted other) : clean path = clean other := by
  simp only [clean, start, otherStart, same]

theorem clean_clean (path : List Char) : clean (clean path) = clean path :=
  clean_congr (head_clean path) rfl (cleanSegments_clean rfl)

/-- What follows a path leads to the same place if the path is cleaned before. -/
theorem clean_clean_below {path : List Char} (filled : path ≠ []) (back : List Char) :
    clean (clean path ++ below back) = clean (path ++ below back) := by
  have start : ((path ++ below back).head? == some '/') = (path.head? == some '/') := by
    rw [List.head?_append_of_ne_nil _ filled]
  have cleanedStart : ((clean path ++ below back).head? == some '/') =
      (path.head? == some '/') := by
    rw [List.head?_append_of_ne_nil _ (clean_ne_nil path), head_clean]
  exact clean_congr cleanedStart start (cleanSegments_below_congr (cleanSegments_clean rfl) back)

/-- Paths without their schemes, with a slash between them; empty ones are left out. -/
def connect (parts : List (List Char)) : List Char :=
  ['/'].intercalate ((parts.map withoutScheme).filter (!·.isEmpty))

theorem intercalate_ne_nil {names : List (List Char)} {name : List Char} (member : name ∈ names)
    (filled : name ≠ []) : ['/'].intercalate names ≠ [] := by
  obtain ⟨c, within⟩ := List.exists_mem_of_ne_nil name filled
  exact List.ne_nil_of_mem (mem_intercalate_of_mem member within)

/-- Behind a scheme there is a bucket, so only an empty path is empty without its scheme. -/
theorem withoutScheme_ne_nil {path : List Char} (filled : path ≠ []) : withoutScheme path ≠ [] := by
  unfold withoutScheme
  split
  · rename_i scheme rest found
    obtain ⟨c, tail, shape, -⟩ := (scheme?_eq_some_iff.mp found).bucket
    rw [shape]
    exact List.cons_ne_nil c tail
  · exact filled

theorem connect_ne_nil {parts : List (List Char)} (filled : ∃ part ∈ parts, part ≠ []) :
    connect parts ≠ [] := by
  obtain ⟨part, member, nonempty⟩ := filled
  have kept := withoutScheme_ne_nil nonempty
  refine intercalate_ne_nil (List.mem_filter.mpr ⟨List.mem_map_of_mem member, ?_⟩) kept
  rw [List.isEmpty_eq_false_iff.mpr kept]
  rfl

theorem connect_append {parts : List (List Char)} (filled : connect parts ≠ [])
    (more : List (List Char)) :
    connect (parts ++ more) = connect parts ++ below (connect more) := by
  have first : (parts.map withoutScheme).filter (!·.isEmpty) ≠ [] := by
    intro none
    rw [connect, none] at filled
    exact filled rfl
  rw [connect, connect, connect, List.map_append, List.filter_append]
  generalize shape : (more.map withoutScheme).filter (!·.isEmpty) = rest
  cases rest with
  | nil =>
      rw [List.append_nil]
      exact (List.append_nil _).symm
  | cons name others =>
      have member : name ∈ (more.map withoutScheme).filter (!·.isEmpty) := by
        rw [shape]
        exact List.mem_cons_self
      have kept : name ≠ [] := by
        rintro rfl
        cases (List.mem_filter.mp member).2
      rw [below, if_neg (intercalate_ne_nil List.mem_cons_self kept),
        intercalate_append first (List.cons_ne_nil name others)]

theorem connect_cons {path : List Char} (filled : path ≠ []) (more : List (List Char)) :
    connect (path :: more) = withoutScheme path ++ below (connect more) := by
  have kept := withoutScheme_ne_nil filled
  have alone : connect [path] = withoutScheme path := by
    rw [connect, List.map_singleton, List.filter_singleton, List.isEmpty_eq_false_iff.mpr kept]
    exact List.intercalate_singleton
  rw [← alone, ← connect_append (by rwa [alone]), List.singleton_append]

def schemeOf? (path : List Char) : Option (List Char) := (scheme? path).map Prod.fst

theorem join_eq (parts : List (List Char)) : join parts =
    match parts.head?.bind schemeOf? with
    | some scheme => scheme ++ schemeMark ++ (clean (connect parts)).dropWhile (· == '/')
    | none => clean (connect parts) := by
  rw [join]
  cases parts with
  | nil => rfl
  | cons first others =>
      simp only [List.head?_cons, Option.bind_some, schemeOf?]
      cases scheme? first <;> rfl

/-- Paths are joined alike if their first scheme is the same, and the text that is cleaned. -/
theorem join_congr {parts others : List (List Char)}
    (schemes : parts.head?.bind schemeOf? = others.head?.bind schemeOf?)
    (texts : clean (connect parts) = clean (connect others)) : join parts = join others := by
  rw [join_eq, join_eq, schemes, texts]

/-- What has been joined has the scheme of its first part, and behind it the cleaned text. -/
theorem parts_of_join (parts : List (List Char)) :
    schemeOf? (join parts) = parts.head?.bind schemeOf? ∧
      withoutScheme (join parts) = clean (connect parts) := by
  rw [join_eq]
  cases named : parts.head?.bind schemeOf? with
  | none =>
      rw [schemeOf?, withoutScheme, scheme?_clean]
      exact ⟨rfl, rfl⟩
  | some scheme =>
      obtain ⟨first, start, named⟩ := Option.bind_eq_some_iff.mp named
      obtain ⟨⟨_, rest⟩, found, rfl⟩ := Option.map_eq_some_iff.mp named
      obtain ⟨others, rfl⟩ := List.head?_eq_some_iff.mp start
      have object := scheme?_eq_some_iff.mp found
      obtain ⟨c, tail, shape, other⟩ := object.bucket
      have filled : first ≠ [] := by
        rw [object.whole]
        exact List.append_ne_nil_of_left_ne_nil (List.append_ne_nil_of_left_ne_nil object.named _) _
      -- The text starts with the bucket, so there is no slash to be dropped in front of it.
      have unrooted : (connect (first :: others)).head? ≠ some '/' := by
        rw [connect_cons filled, withoutScheme, found]
        simpa only [shape, List.cons_append, List.head?_cons, ne_eq, Option.some.injEq] using other
      have cleaned := head_clean_of_unrooted unrooted
      cases text : clean (connect (first :: others)) with
      | nil => exact absurd text (clean_ne_nil _)
      | cons d body =>
          have solid : d ≠ '/' := by
            rintro rfl
            rw [text] at cleaned
            exact cleaned rfl
          have kept : (d :: body).dropWhile (· == '/') = d :: body :=
            List.dropWhile_cons_of_neg (by rwa [beq_iff_eq])
          have whole := scheme?_eq_some_iff.mpr
            (Parts.mk rfl object.named object.plain ⟨d, body, rfl, solid⟩)
          simp only [kept, schemeOf?, withoutScheme, whole, Option.map_some, and_self]

theorem join_join (parts : List (List Char)) : join [join parts] = join parts := by
  obtain ⟨scheme, behind⟩ := parts_of_join parts
  have text : connect [join parts] = clean (connect parts) := by
    rw [connect_cons (join_ne_nil parts), behind]
    exact List.append_nil _
  apply join_congr
  · exact scheme
  · rw [text, clean_clean]

/--
Paths that are joined to what has been joined of others are joined to those. What has been joined
stays as it is when it is joined once more, with the scheme of its first part.
-/
theorem join_append_of_filled {parts : List (List Char)} (filled : ∃ part ∈ parts, part ≠ [])
    (more : List (List Char)) :
    join (parts ++ more) = join ([join parts] ++ more) ∧
      join [join parts] = join parts ∧
      schemeOf? (join parts) = parts.head?.bind schemeOf? := by
  obtain ⟨scheme, behind⟩ := parts_of_join parts
  have nonempty := connect_ne_nil filled
  have first : (parts ++ more).head? = parts.head? := by
    obtain ⟨part, member, -⟩ := filled
    exact List.head?_append_of_ne_nil _ (List.ne_nil_of_mem member)
  refine ⟨join_congr ?_ ?_, join_join parts, scheme⟩
  · rw [first]
    exact scheme.symm
  · calc
      clean (connect (parts ++ more)) = clean (connect parts ++ below (connect more)) := by
        rw [connect_append nonempty]
      _ = clean (clean (connect parts) ++ below (connect more)) :=
        (clean_clean_below nonempty _).symm
      _ = clean (connect ([join parts] ++ more)) := by
        rw [List.singleton_append, connect_cons (join_ne_nil parts), behind]

/-- An object's path that climbs above its bucket, an empty part and a path with another scheme,
followed by a path that climbs further and one that starts at the root. -/
theorem join_append_of_filled_climbing :
    let parts := ["gs://b/../..".toList, [], "s3://c/./d".toList]
    let more := ["../../..".toList, "//e".toList]
    (∃ part ∈ parts, part ≠ []) ∧ join parts = "gs://../c/d".toList ∧
      join ([join parts] ++ more) = "gs://../../e".toList ∧
      join [join parts] = "gs://../c/d".toList ∧ schemeOf? (join parts) = some "gs".toList := by
  intro parts more
  have filled : ∃ part ∈ parts, part ≠ [] := by decide
  have joined : join parts = "gs://../c/d".toList := by decide
  have whole : join (parts ++ more) = "gs://../../e".toList := by decide
  have named : parts.head?.bind schemeOf? = some "gs".toList := by decide
  obtain ⟨steps, again, scheme⟩ := join_append_of_filled filled more
  exact ⟨filled, joined, steps.symm.trans whole, again.trans joined, scheme.trans named⟩

end BatchJob.Path
