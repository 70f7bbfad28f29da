import BatchJob.Proofs.Storage.Climb
import BatchJob.Storage.Specifier

set_option autoImplicit false

/-!
The contents of a directory are named by a star that is joined to its path. The path is cleaned when
they are joined, so the star stands behind the path as it is written exactly if there is nothing in
it to work off.
-/

namespace BatchJob

namespace Path

/-- The path of an object by its parts. What follows the scheme starts with the bucket. -/
structure Parts (path scheme rest : List Char) : Prop where
  whole : path = scheme ++ schemeMark ++ rest
  named : scheme ≠ []
  plain : scheme.all Char.isAlphanum = true
  bucket : ∃ c tail, rest = c :: tail ∧ c ≠ '/'

theorem cutAt_schemeMark {scheme : List Char} (plain : ':' ∉ scheme) (rest : List Char) :
    Text.cutAt schemeMark (scheme ++ schemeMark ++ rest) = some (scheme, rest) := by
  induction scheme with
  | nil => rfl
  | cons c scheme ih =>
      have other : (':' == c) = false := by
        rw [beq_eq_false_iff_ne]
        rintro rfl
        exact plain List.mem_cons_self
      have passes : schemeMark.isPrefixOf (c :: (scheme ++ schemeMark ++ rest)) = false := by
        rw [schemeMark, List.isPrefixOf_cons_cons, other, Bool.false_and]
      rw [List.cons_append, List.cons_append, Text.cutAt, if_neg (Bool.eq_false_iff.mp passes),
        ih fun member => plain (List.mem_cons_of_mem c member), Option.map_some]

theorem scheme?_eq_some_iff {path scheme rest : List Char} :
    scheme? path = some (scheme, rest) ↔ Parts path scheme rest := by
  constructor
  · intro found
    rw [scheme?] at found
    split at found
    · rename_i remote
      rw [bucket?, found] at remote
      dsimp only at remote
      split at remote
      · cases remote
      · rename_i sound
        simp only [Bool.or_eq_true, List.isEmpty_iff, Bool.not_eq_true', not_or,
          Bool.not_eq_false] at sound
        obtain ⟨⟨named, plain⟩, bucket⟩ := sound
        refine ⟨(Text.append_of_cutAt found).symm, named, plain, ?_⟩
        cases rest with
        | nil => exact absurd rfl bucket
        | cons c tail =>
            refine ⟨c, tail, rfl, ?_⟩
            rintro rfl
            exact bucket rfl
    · cases found
  · rintro ⟨rfl, named, plain, c, tail, rfl, other⟩
    have unmarked : ':' ∉ scheme := fun member =>
      absurd (List.all_eq_true.mp plain ':' member) (by decide)
    have found := cutAt_schemeMark unmarked (c :: tail)
    have starts : (c :: tail).takeWhile (· != '/') = c :: tail.takeWhile (· != '/') :=
      List.takeWhile_cons_of_pos (bne_iff_ne.mpr other)
    have remote : bucket? (scheme ++ schemeMark ++ c :: tail) =
        some (c :: tail.takeWhile (· != '/')) := by
      rw [bucket?, found]
      dsimp only
      rw [plain, List.isEmpty_eq_false_iff.mpr named, starts]
      rfl
    rw [scheme?, remote, Option.isSome_some, if_pos rfl, found]

theorem exists_parts {path : List Char} (remote : (bucket? path).isSome = true) :
    ∃ scheme rest, Parts path scheme rest := by
  have found : scheme? path = Text.cutAt schemeMark path := if_pos remote
  cases cut : Text.cutAt schemeMark path with
  | none =>
      rw [bucket?, cut] at remote
      cases remote
  | some parts => exact ⟨parts.1, parts.2, scheme?_eq_some_iff.mp (found.trans cut)⟩

/-- What starts with a scheme does not start at the root. -/
theorem head_append_ne {scheme : List Char} (named : scheme ≠ [])
    (plain : scheme.all Char.isAlphanum = true) (rest : List Char) :
    (scheme ++ rest).head? ≠ some '/' := by
  cases scheme with
  | nil => exact absurd rfl named
  | cons c scheme =>
      intro same
      have slash : c = '/' := Option.some.inj same
      rw [slash] at plain
      cases plain

theorem scheme?_of_rooted {path : List Char} (rooted : path.head? = some '/') :
    scheme? path = none := by
  rw [Option.eq_none_iff_forall_ne_some]
  rintro ⟨scheme, rest⟩ found
  obtain ⟨rfl, named, plain, -⟩ := scheme?_eq_some_iff.mp found
  rw [List.append_assoc] at rooted
  exact head_append_ne named plain _ rooted

theorem scheme?_of_bare {scheme : List Char} (plain : scheme.all Char.isAlphanum = true) :
    scheme? (scheme ++ schemeMark) = none := by
  have unmarked : ':' ∉ scheme := fun member =>
    absurd (List.all_eq_true.mp plain ':' member) (by decide)
  have cut := cutAt_schemeMark unmarked []
  rw [List.append_nil] at cut
  have remote : bucket? (scheme ++ schemeMark) = none := by
    rw [bucket?, cut]
    dsimp only
    rw [List.takeWhile_nil, List.isEmpty_nil, Bool.or_true, if_pos rfl]
  rw [scheme?, remote, Option.isSome_none, if_neg Bool.false_ne_true]

/-- Whether a segment is neither worked off when a path is cleaned nor takes another one away. -/
def Stays (segment : List Char) : Prop := ¬ (segment = [] ∨ segment = ['.']) ∧ segment ≠ up

/-- Whether none of the segments is worked off: double dots come first, and names after them. -/
def Tidy (pieces : List (List Char)) : Prop := ∀ n ∈ pieces.dropWhile (· == up), Stays n

instance : DecidablePred Stays := fun _ => inferInstanceAs (Decidable (_ ∧ _))

instance : DecidablePred Tidy := fun _ => inferInstanceAs (Decidable (∀ n ∈ _, Stays n))

theorem foldl_pushSegment_names {rooted : Bool} {names : List (List Char)}
    (stay : ∀ n ∈ names, Stays n) (stack : List (List Char)) :
    names.foldl (pushSegment rooted) stack = names.reverse ++ stack := by
  induction names generalizing stack with
  | nil => rfl
  | cons n rest ih =>
      obtain ⟨filled, name⟩ := stay n List.mem_cons_self
      rw [List.foldl_cons, pushSegment_name filled name,
        ih fun x member => stay x (List.mem_cons_of_mem n member), List.reverse_cons,
        List.append_assoc, List.singleton_append]

theorem pushSegment_up_of_ups {stack : List (List Char)} (ups : ∀ n ∈ stack, n = up) :
    pushSegment false stack up = up :: stack := by
  cases stack with
  | nil => rfl
  | cons top rest =>
      rw [ups top List.mem_cons_self]
      rfl

theorem foldl_pushSegment_of_tidy {stack pieces : List (List Char)} (ups : ∀ n ∈ stack, n = up)
    (tidy : Tidy pieces) : pieces.foldl (pushSegment false) stack = pieces.reverse ++ stack := by
  -- As long as the path climbs, the stack holds double dots only, and none takes another away.
  induction pieces generalizing stack with
  | nil => rfl
  | cons n rest ih =>
      by_cases climb : n = up
      · subst climb
        have higher : ∀ n ∈ up :: stack, n = up := by
          intro n member
          exact (List.mem_cons.mp member).elim id (ups n)
        have later : Tidy rest := tidy
        rw [List.foldl_cons, pushSegment_up_of_ups ups, ih higher later, List.reverse_cons,
          List.append_assoc, List.singleton_append]
      · rw [Tidy, List.dropWhile_cons_of_neg (by rwa [beq_iff_eq])] at tidy
        exact foldl_pushSegment_names tidy stack

/-- Where a path leads down, nothing is left to work off. -/
theorem stays_of_mem_descent {path n : List Char} (member : n ∈ descent path) : Stays n := by
  have piece : n ∈ cleanSegments false path := (List.dropWhile_sublist _).subset member
  obtain ⟨level, -⟩ := foldl_splitOn List.not_mem_nil path
  exact ⟨(mem_cleanSegments piece).2, ne_of_mem_of_not_mem member level⟩

/-- Cleaning a path changes nothing exactly if none of its segments is worked off. -/
theorem cleanSegments_eq_splitOn_iff {path : List Char} :
    cleanSegments false path = path.splitOn '/' ↔ Tidy (path.splitOn '/') := by
  constructor
  · intro same n member
    rw [← same] at member
    exact stays_of_mem_descent member
  · intro tidy
    rw [cleanSegments, foldl_pushSegment_of_tidy (fun n none => absurd none List.not_mem_nil) tidy,
      List.append_nil, List.reverse_reverse]

theorem splitOn_intercalate_clean {rooted : Bool} {path : List Char}
    (filled : cleanSegments rooted path ≠ []) :
    (['/'].intercalate (cleanSegments rooted path)).splitOn '/' = cleanSegments rooted path :=
  List.splitOn_intercalate '/' (fun n member => (proper_cleanSegments path n member).2) filled

theorem clean_of_unrooted {path : List Char} (unrooted : path.head? ≠ some '/') :
    clean path = if cleanSegments false path = [] then ['.']
      else ['/'].intercalate (cleanSegments false path) := by
  have start : (path.head? == some '/') = false := beq_eq_false_iff_ne.mpr unrooted
  simp only [clean, start, Bool.false_eq_true, if_false]
  by_cases empty : cleanSegments false path = []
  · rw [if_pos empty, empty]
    rfl
  · have body : (['/'].intercalate (cleanSegments false path)).isEmpty = false := by
      rw [List.isEmpty_eq_false_iff]
      intro nothing
      -- Nothing at all would be one empty segment, and cleaning leaves none.
      have pieces := splitOn_intercalate_clean empty
      rw [nothing, List.splitOn_nil] at pieces
      have member : [] ∈ cleanSegments false path := by
        rw [← pieces]
        exact List.mem_singleton_self []
      exact (mem_cleanSegments member).2 (.inl rfl)
    rw [if_neg empty, body, if_neg Bool.false_ne_true]

/-- In a cleaned path that does not start at the root no two slashes stand side by side. -/
theorem nil_not_mem_splitOn_clean {path : List Char} (unrooted : path.head? ≠ some '/') :
    [] ∉ (clean path).splitOn '/' := by
  rw [clean_of_unrooted unrooted]
  split
  · decide
  · rename_i filled
    rw [splitOn_intercalate_clean filled]
    exact fun member => (mem_cleanSegments member).2 (.inl rfl)

def star : List Char := ['*']

/-- Names that follow a path are put behind what is left of it. -/
theorem cleanSegments_names {rooted : Bool} {names : List Char}
    (stay : ∀ n ∈ names.splitOn '/', Stays n) (front : List Char) :
    cleanSegments rooted (front ++ '/' :: names) =
      cleanSegments rooted front ++ names.splitOn '/' := by
  rw [cleanSegments, List.splitOn_append_cons_self, List.foldl_append, foldl_pushSegment_names stay,
    List.reverse_append, List.reverse_reverse, cleanSegments]

theorem cleanSegments_star {rooted : Bool} (front : List Char) :
    cleanSegments rooted (front ++ '/' :: star) = cleanSegments rooted front ++ [star] := by
  have piece : star.splitOn '/' = [star] := by decide
  have stay : ∀ n ∈ star.splitOn '/', Stays n := by decide
  rw [cleanSegments_names stay, piece]

theorem withoutScheme_star : withoutScheme star = star :=
  withoutScheme_of_not_mem (by decide)

theorem splitOn_intercalate_star {names : List (List Char)} (plain : ∀ n ∈ names, '/' ∉ n) :
    (['/'].intercalate (names ++ [star])).splitOn '/' = names ++ [star] := by
  refine List.splitOn_intercalate '/' (fun n member => ?_) (List.concat_ne_nil _ _)
  rcases List.mem_append.mp member with member | last
  · exact plain n member
  · rw [List.mem_singleton.mp last]
    decide

theorem intercalate_star_inj {left right : List (List Char)} (leftPlain : ∀ n ∈ left, '/' ∉ n)
    (rightPlain : ∀ n ∈ right, '/' ∉ n) :
    ['/'].intercalate (left ++ [star]) = ['/'].intercalate (right ++ [star]) ↔ left = right := by
  constructor
  · intro same
    have pieces := congrArg (List.splitOn '/') same
    rw [splitOn_intercalate_star leftPlain, splitOn_intercalate_star rightPlain] at pieces
    exact (List.append_left_inj _).mp pieces
  · rintro rfl
    rfl

/-- Segments that are put together start with the first of them. -/
theorem dropWhile_intercalate {names : List (List Char)} (proper : ∀ n ∈ names, Proper n) :
    (['/'].intercalate names).dropWhile (· == '/') = ['/'].intercalate names := by
  cases names with
  | nil => rfl
  | cons first rest =>
      obtain ⟨filled, plain⟩ := proper first List.mem_cons_self
      cases first with
      | nil => exact absurd rfl filled
      | cons c first =>
          have other : ¬ (c == '/') = true := by
            rw [beq_iff_eq]
            rintro rfl
            exact plain List.mem_cons_self
          cases rest with
          | nil =>
              rw [List.intercalate_singleton]
              exact List.dropWhile_cons_of_neg other
          | cons second rest =>
              rw [List.intercalate_cons_cons]
              exact List.dropWhile_cons_of_neg other

section

variable {base scheme front : List Char}

/-- A star that is joined to a directory of objects stands behind the cleaned path. -/
theorem join_star_of_parts (parts : Parts base scheme (front ++ ['/'])) : join [base, star] =
    scheme ++ schemeMark ++ ['/'].intercalate (cleanSegments false front ++ [star]) := by
  have found := scheme?_eq_some_iff.mpr parts
  have rest : withoutScheme base = front ++ ['/'] := by rw [withoutScheme, found]
  have filled : front ++ ['/'] ≠ [] := List.append_ne_nil_of_right_ne_nil _ (List.cons_ne_nil _ _)
  have unrooted : (front ++ ['/'] ++ '/' :: star).head? ≠ some '/' := by
    obtain ⟨c, tail, shape, other⟩ := parts.bucket
    rw [shape, List.cons_append, List.head?_cons]
    exact fun same => other (Option.some.inj same)
  have segments : cleanSegments false (front ++ ['/'] ++ '/' :: star) =
      cleanSegments false front ++ [star] := by
    rw [cleanSegments_star, cleanSegments, cleanSegments, List.splitOn_append_cons_self,
      List.foldl_append]
    rfl
  have proper : ∀ n ∈ cleanSegments false front ++ [star], Proper n := by
    rw [← segments]
    exact proper_cleanSegments _
  rw [join, List.head?_cons, Option.bind_some, found, List.map_cons, List.map_cons, List.map_nil,
    rest, withoutScheme_star, intercalate_pair filled]
  change scheme ++ schemeMark ++ (clean (front ++ ['/'] ++ '/' :: star)).dropWhile _ = _
  rw [clean_of_unrooted unrooted, segments, if_neg (List.concat_ne_nil _ _),
    dropWhile_intercalate proper]

/-- It stands behind the path as it is written exactly if there was nothing to work off. -/
theorem join_star_of_parts_iff (parts : Parts base scheme (front ++ ['/'])) :
    join [base, star] = base ++ star ↔ Tidy (front.splitOn '/') := by
  have written : base ++ star =
      scheme ++ schemeMark ++ ['/'].intercalate (front.splitOn '/' ++ [star]) := by
    rw [intercalate_concat (List.splitOn_ne_nil '/' front), List.intercalate_splitOn, parts.whole]
    simp only [List.append_assoc, List.singleton_append]
  have cleaned : ∀ n ∈ cleanSegments false front, '/' ∉ n := fun n member =>
    not_mem_of_mem_splitOn (mem_cleanSegments member).1
  have pieces : ∀ n ∈ front.splitOn '/', '/' ∉ n := fun n => not_mem_of_mem_splitOn
  rw [join_star_of_parts parts, written, List.append_right_inj,
    intercalate_star_inj cleaned pieces, cleanSegments_eq_splitOn_iff]

end

/-- Behind a scheme that no bucket follows, two slashes are worked off to one. -/
theorem join_star_of_bare {scheme : List Char} (named : scheme ≠ [])
    (plain : scheme.all Char.isAlphanum = true) :
    join [scheme ++ schemeMark, star] ≠ scheme ++ schemeMark ++ star := by
  have filled : scheme ++ schemeMark ≠ [] := List.append_ne_nil_of_left_ne_nil named _
  have joined : join [scheme ++ schemeMark, star] =
      clean (scheme ++ schemeMark ++ '/' :: star) := by
    rw [join_of_plain filled (scheme?_of_bare plain), withoutScheme_star]
    rfl
  have unrooted : (scheme ++ schemeMark ++ '/' :: star).head? ≠ some '/' := by
    rw [List.append_assoc]
    exact head_append_ne named plain _
  have slashes : scheme ++ schemeMark ++ star = scheme ++ [':'] ++ '/' :: ([] ++ '/' :: star) := by
    rw [List.append_assoc, List.append_assoc]
    rfl
  intro same
  -- Between the two slashes of the scheme stands an empty segment.
  apply nil_not_mem_splitOn_clean unrooted
  rw [← joined, same, slashes, List.splitOn_append_cons_self, List.splitOn_append_cons_self]
  exact List.mem_append_right _ List.mem_cons_self

/-- From the root a path leads down only. -/
theorem cleanSegments_eq_descent (path : List Char) : cleanSegments true path = descent path := by
  obtain ⟨-, placed⟩ := foldl_splitOn List.not_mem_nil path
  rw [cleanSegments, placed, List.drop_nil, List.append_nil, List.reverse_reverse]

theorem stays_of_mem_cleanSegments {path n : List Char} (member : n ∈ cleanSegments true path) :
    Stays n := by
  rw [cleanSegments_eq_descent] at member
  exact stays_of_mem_descent member

/-- What has been cleaned is a place: cleaning it again changes nothing. -/
theorem place_clean {path : List Char} (rooted : path.head? = some '/') : Place (clean path) := by
  have starts : (clean path).head? = some '/' := by
    rw [clean_of_rooted rooted]
    rfl
  refine ⟨starts, scheme?_of_rooted starts, ?_, ?_⟩
  · rw [segments_clean rooted, clean_of_rooted rooted, absolute, ← List.nil_append ('/' :: _),
      cleanSegments, List.splitOn_append_cons_self, List.foldl_append]
    by_cases empty : cleanSegments true path = []
    · rw [empty]
      rfl
    · rw [splitOn_intercalate_clean empty,
        foldl_pushSegment_names fun n => stays_of_mem_cleanSegments, List.reverse_append,
        List.reverse_reverse]
      rfl
  · rw [segments_clean rooted]
    exact fun member => (stays_of_mem_cleanSegments member).2 rfl

/-- What is joined to a place is a place again. -/
theorem place_join {root : List Char} (place : Place root) (path : List Char) :
    Place (join [root, path]) := by
  rw [join_of_plain place.filled place.plain]
  apply place_clean
  cases (withoutScheme path).isEmpty with
  | true => exact place.rooted
  | false =>
      change (root ++ '/' :: withoutScheme path).head? = some '/'
      rw [List.head?_append, place.rooted]
      rfl

/-- A star that is joined to a place stands behind it and a slash, but at the root there is only
one slash. -/
theorem join_star_of_place_iff {root : List Char} (place : Place root)
    (canonical : Canonical root) : join [root, star] = root ++ '/' :: star ↔ root ≠ ['/'] := by
  have inside : landing (segments root) star = segments root ++ [star] := by
    have levels : climbs star = 0 := by decide
    have names : descent star = [star] := by decide
    rw [landing, levels, names, Nat.sub_zero, List.take_length]
  have joined : join [root, star] = absolute (segments root ++ [star]) := by
    rw [← canonical_join place.rooted place.plain star, segments_join place, withoutScheme_star,
      inside]
  rw [joined, absolute_concat]
  by_cases empty : segments root = []
  · have atRoot : root = ['/'] := by
      rw [← canonical, empty]
      rfl
    rw [atRoot]
    decide
  · rw [List.isEmpty_eq_false_iff.mpr empty, if_neg Bool.false_ne_true, canonical]
    refine iff_of_true rfl ?_
    rintro rfl
    exact empty rfl

/-- Whether the path of a directory of objects has a bucket, and behind the scheme no segment that
is worked off. The path ends in a slash, so the last of its segments is empty and does not count. -/
def Neat (path : List Char) : Prop :=
  ∃ parts ∈ scheme? path, Tidy (parts.2.splitOn '/').dropLast

instance : DecidablePred Neat := fun path =>
  inferInstanceAs (Decidable (∃ parts ∈ scheme? path, Tidy (parts.2.splitOn '/').dropLast))

theorem neat_iff_of_parts {base scheme front : List Char}
    (parts : Parts base scheme (front ++ ['/'])) : Neat base ↔ Tidy (front.splitOn '/') := by
  have pieces : (front ++ ['/']).splitOn '/' = front.splitOn '/' ++ [[]] :=
    List.splitOn_append_cons_self front []
  simp only [Neat, scheme?_eq_some_iff.mpr parts, Option.mem_def, Option.some.injEq,
    exists_eq_left', pieces, List.dropLast_concat]

theorem not_neat_of_bare {scheme : List Char} (plain : scheme.all Char.isAlphanum = true) :
    ¬ Neat (scheme ++ schemeMark) := by
  rintro ⟨parts, found, -⟩
  rw [scheme?_of_bare plain] at found
  cases found

end Path

namespace Specifier

open BatchJob.Path (Parts schemeMark star)

variable {s : Specifier}

/-- The path of a directory without its pattern ends in a slash. -/
theorem base_of_isDirectory (directory : s.glob.isDirectory = true) :
    ∃ most, s.base = most ++ ['/'] := by
  have stripped {most stars : List Char} (shape : most ++ ('/' :: stars) = s.path.toList)
      (pattern : stars.all (· == '*') = true) : s.base = most ++ ['/'] := by
    rw [base, if_pos directory, ← shape, List.append_cons,
      Text.dropEndWhile_append (List.all_eq_true.mp pattern), Text.dropEndWhile_concat rfl]
  have ending : s.glob = .ofPath s.path.toList := rfl
  rw [Glob.ofPath] at ending
  split at ending
  · rename_i recursive
    obtain ⟨most, shape⟩ := List.isSuffixOf_iff_suffix.mp recursive
    exact ⟨most, stripped shape rfl⟩
  · split at ending
    · rename_i flat
      obtain ⟨most, shape⟩ := List.isSuffixOf_iff_suffix.mp flat
      exact ⟨most, stripped shape rfl⟩
    · rw [ending] at directory
      cases directory

/-- Without its pattern the path of a directory of objects has the same scheme, and either its
bucket too or nothing behind the scheme. -/
theorem parts_base {scheme rest : List Char} (parts : Parts s.path.toList scheme rest)
    (directory : s.glob.isDirectory = true) :
    s.base = scheme ++ schemeMark ∨ ∃ front, Parts s.base scheme (front ++ ['/']) := by
  obtain ⟨most, ending⟩ := base_of_isDirectory directory
  have stripped : s.base = scheme ++ schemeMark ++ Text.dropEndWhile (· == '*') rest := by
    have mark : scheme ++ schemeMark ++ rest = scheme ++ [':', '/'] ++ '/' :: rest := by
      simp only [schemeMark, List.append_assoc, List.cons_append, List.nil_append]
    rw [base, if_pos directory, parts.whole, mark, Text.dropEndWhile_append_cons rfl]
    simp only [schemeMark, List.append_assoc, List.cons_append, List.nil_append]
  have begins : Text.dropEndWhile (· == '*') rest <+: rest := Text.dropEndWhile_prefix _ rest
  rcases List.eq_nil_or_concat (Text.dropEndWhile (· == '*') rest) with
    nothing | ⟨front, last, kept⟩
  · left
    rw [stripped, nothing, List.append_nil]
  · right
    rw [List.concat_eq_append] at kept
    rw [kept] at stripped begins
    have slash : last = '/' := by
      rw [stripped, ← List.append_assoc] at ending
      exact List.singleton_inj.mp (List.append_inj_right' ending rfl)
    subst slash
    refine ⟨front, stripped, parts.named, parts.plain, ?_⟩
    obtain ⟨c, tail, shape, other⟩ := parts.bucket
    rw [shape] at begins
    cases front with
    | nil => exact absurd (List.cons_prefix_cons.mp begins).1.symm other
    | cons d front => exact ⟨d, front ++ ['/'], rfl, (List.cons_prefix_cons.mp begins).1 ▸ other⟩

/-- The contents of a directory of objects are named by its path as it is written exactly if there
is nothing in it to work off. -/
theorem join_star_base_iff (directory : s.glob.isDirectory = true)
    (remote : s.bucket?.isSome = true) :
    Path.join [s.base, star] = s.base ++ star ↔ Path.Neat s.base := by
  obtain ⟨scheme, rest, parts⟩ := Path.exists_parts remote
  rcases parts_base parts directory with bare | ⟨front, kept⟩
  · rw [bare]
    exact iff_of_false (Path.join_star_of_bare parts.named parts.plain)
      (Path.not_neat_of_bare parts.plain)
  · exact (Path.join_star_of_parts_iff kept).trans (Path.neat_iff_of_parts kept).symm

end Specifier

end BatchJob
