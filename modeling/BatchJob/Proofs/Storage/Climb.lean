import BatchJob.Proofs.Storage.Path
import Mathlib.Data.List.Induction

set_option autoImplicit false

/-!
Where a path leads that is joined to a place. It climbs some levels, as far as the root at most, and
then leads down along names; both can be read off the path alone.
-/

namespace BatchJob.Path

/-- The segment that leads one level up. -/
def up : List Char := ['.', '.']

/-- How many levels a path leads up from where it starts. -/
def climbs (path : List Char) : Nat := ((cleanSegments false path).takeWhile (· == up)).length

/-- The names along which a path leads down after it has climbed. -/
def descent (path : List Char) : List (List Char) := (cleanSegments false path).dropWhile (· == up)

/-- A path without slashes climbs one level at most. -/
theorem climbs_le_of_not_mem {path : List Char} (plain : '/' ∉ path) : climbs path ≤ 1 := by
  have single : path.splitOn '/' = [path] := by
    have split : (['/'].intercalate [path]).splitOn '/' = [path] := by
      apply List.splitOn_intercalate _ _ (List.cons_ne_nil path [])
      intro piece member
      rw [List.mem_singleton.mp member]
      exact plain
    rwa [List.intercalate_singleton] at split
  have short : (cleanSegments false path).length ≤ 1 := by
    rw [cleanSegments, single, List.length_reverse, List.foldl_cons, List.foldl_nil, pushSegment]
    split
    · exact Nat.zero_le 1
    · split <;> exact Nat.le_refl 1
  exact Nat.le_trans (List.takeWhile_prefix _).length_le short

def landing (place : List (List Char)) (path : List Char) : List (List Char) :=
  place.take (place.length - climbs path) ++ descent path

section

variable {rooted : Bool} {stack : List (List Char)} {segment : List Char}

theorem pushSegment_empty (empty : segment = [] ∨ segment = ['.']) :
    pushSegment rooted stack segment = stack := if_pos empty

theorem pushSegment_name (filled : ¬ (segment = [] ∨ segment = ['.'])) (name : segment ≠ up) :
    pushSegment rooted stack segment = segment :: stack :=
  (if_neg filled).trans (if_neg name)

theorem pushSegment_up_cons {top : List Char} (name : top ≠ up) :
    pushSegment rooted (top :: stack) up = stack := if_neg name

end

/-- A path that is followed from a place does there what it does on its own: it takes as many
segments away as it climbs, and puts the same names on top. -/
theorem foldl_pushSegment {stack : List (List Char)} (level : up ∉ stack)
    (pieces : List (List Char)) : ∃ count names, up ∉ names ∧
      pieces.foldl (pushSegment false) [] = names ++ List.replicate count up ∧
      pieces.foldl (pushSegment true) stack = names ++ stack.drop count := by
  induction pieces using List.reverseRecOn with
  | nil => exact ⟨0, [], List.not_mem_nil, rfl, rfl⟩
  | append_singleton pieces segment ih =>
      obtain ⟨count, names, plain, alone, placed⟩ := ih
      rw [List.foldl_append, List.foldl_append, alone, placed]
      by_cases empty : segment = [] ∨ segment = ['.']
      · exact ⟨count, names, plain, pushSegment_empty empty, pushSegment_empty empty⟩
      · by_cases climb : segment = up
        · subst climb
          cases names with
          | cons top names =>
              have name : top ≠ up := fun same => plain (same ▸ List.mem_cons_self)
              exact ⟨count, names, fun member => plain (List.mem_cons_of_mem top member),
                pushSegment_up_cons name, pushSegment_up_cons name⟩
          | nil =>
              refine ⟨count + 1, [], plain, ?_, ?_⟩
              · cases count <;> rfl
              · rw [List.nil_append, List.nil_append, ← List.drop_drop]
                cases rest : stack.drop count with
                | nil => rfl
                | cons top others =>
                    have within : top ∈ stack := by
                      apply List.mem_of_mem_drop
                      rw [rest]
                      exact List.mem_cons_self
                    exact pushSegment_up_cons fun same => level (same ▸ within)
        · refine ⟨count, segment :: names, ?_, pushSegment_name empty climb,
            pushSegment_name empty climb⟩
          intro member
          rcases List.mem_cons.mp member with same | member
          · exact climb same.symm
          · exact plain member

theorem climbs_and_descent {path : List Char} {count : Nat} {names : List (List Char)}
    (plain : up ∉ names) (shape : cleanSegments false path = List.replicate count up ++ names) :
    climbs path = count ∧ descent path = names := by
  have ups : ∀ segment ∈ List.replicate count up, (segment == up) = true := by
    intro segment member
    exact beq_iff_eq.mpr (List.eq_of_mem_replicate member)
  have stops : names.takeWhile (· == up) = [] ∧ names.dropWhile (· == up) = names := by
    cases names with
    | nil => exact ⟨rfl, rfl⟩
    | cons name rest =>
        have other : ¬ (name == up) = true := by
          rw [beq_iff_eq]
          exact fun same => plain (same ▸ List.mem_cons_self)
        exact ⟨List.takeWhile_cons_of_neg other, List.dropWhile_cons_of_neg other⟩
  constructor
  · rw [climbs, shape, List.takeWhile_append_of_pos ups, stops.1, List.append_nil,
      List.length_replicate]
  · rw [descent, shape, List.dropWhile_append_of_pos ups, stops.2]

/-- A path takes as many segments away as it climbs, and puts those on top that it leads down along;
among these is none that leads up. -/
theorem foldl_splitOn {stack : List (List Char)} (level : up ∉ stack) (path : List Char) :
    up ∉ descent path ∧ (path.splitOn '/').foldl (pushSegment true) stack =
      (descent path).reverse ++ stack.drop (climbs path) := by
  obtain ⟨count, names, plain, alone, placed⟩ := foldl_pushSegment level (path.splitOn '/')
  have shape : cleanSegments false path = List.replicate count up ++ names.reverse := by
    rw [cleanSegments, alone, List.reverse_append, List.reverse_replicate]
  have plainly : up ∉ names.reverse := by
    rw [List.mem_reverse]
    exact plain
  obtain ⟨levels, downward⟩ := climbs_and_descent plainly shape
  rw [levels, downward, List.reverse_reverse]
  exact ⟨plainly, placed⟩

/-- A cleaned place: an absolute path in whose segments there is nothing to work off. -/
structure Place (root : List Char) : Prop where
  rooted : root.head? = some '/'
  plain : scheme? root = none
  clean : cleanSegments true root = segments root
  level : up ∉ segments root

theorem Place.filled {root : List Char} (place : Place root) : root ≠ [] := by
  rintro rfl
  cases place.rooted

theorem cleanSegments_append {root : List Char} (place : Place root) (path : List Char) :
    cleanSegments true (root ++ '/' :: path) = landing (segments root) path := by
  have level : up ∉ (segments root).reverse := by
    rw [List.mem_reverse]
    exact place.level
  have front : (root.splitOn '/').foldl (pushSegment true) [] = (segments root).reverse := by
    rw [← place.clean, cleanSegments, List.reverse_reverse]
  obtain ⟨-, placed⟩ := foldl_splitOn level path
  rw [cleanSegments, List.splitOn_append_cons_self, List.foldl_append, front, placed, landing,
    List.reverse_append, List.reverse_reverse, List.drop_reverse, List.reverse_reverse]

/-- What is joined to a place leads where its path leads from there. -/
theorem segments_join {root : List Char} (place : Place root) (path : List Char) :
    segments (join [root, path]) = landing (segments root) (withoutScheme path) := by
  rw [join_of_plain place.filled place.plain]
  cases rest : withoutScheme path with
  | nil =>
      have stays : landing (segments root) [] = segments root := by
        rw [landing]
        exact (List.append_nil _).trans (List.take_length)
      rw [stays, List.isEmpty_nil, if_pos rfl, segments_clean place.rooted, place.clean]
  | cons c others =>
      have rooted : (root ++ '/' :: c :: others).head? = some '/' := by
        rw [List.head?_append, place.rooted]
        rfl
      rw [List.isEmpty_cons, if_neg Bool.false_ne_true, segments_clean rooted,
        cleanSegments_append place]

/-- Whether a path is another one or lies below it. -/
def Within (outer inner : List Char) : Prop := segments outer <+: segments inner

/-- Whether a path lies strictly below another one. -/
def Below (outer inner : List Char) : Prop :=
  segments outer <+: segments inner ∧ segments outer ≠ segments inner

instance (outer inner : List Char) : Decidable (Within outer inner) :=
  inferInstanceAs (Decidable (_ <+: _))

instance (outer inner : List Char) : Decidable (Below outer inner) :=
  inferInstanceAs (Decidable (_ ∧ _))

/-- Whether a path from a place, if it climbs out of `outer`, comes back the same way. -/
def ComesBack (outer place : List (List Char)) (path : List Char) : Prop :=
  outer.drop (place.length - climbs path) <+: descent path

/-- Whether it comes back and ends strictly below `outer`. -/
def Descends (outer place : List (List Char)) (path : List Char) : Prop :=
  ComesBack outer place path ∧ (outer.length < place.length - climbs path ∨
    outer.drop (place.length - climbs path) ≠ descent path)

section

variable {outer place : List (List Char)} {path : List Char}

instance : Decidable (ComesBack outer place path) := inferInstanceAs (Decidable (_ <+: _))

instance : Decidable (Descends outer place path) := inferInstanceAs (Decidable (_ ∧ _))

theorem comesBack_of_le (inside : outer.length ≤ place.length - climbs path) :
    ComesBack outer place path := by
  rw [ComesBack, List.drop_eq_nil_of_le inside]
  exact List.nil_prefix

/-- A path that climbs out of `outer` leaves the beginning of `outer`. -/
theorem landing_of_le (above : outer <+: place)
    (outside : place.length - climbs path ≤ outer.length) :
    landing place path = outer.take (place.length - climbs path) ++ descent path := by
  obtain ⟨inner, rfl⟩ := above
  rw [landing, List.take_append_of_le_length outside]

/-- A path that does not climb as far as `outer` ends strictly below it. -/
theorem landing_of_lt (above : outer <+: place)
    (inside : outer.length < place.length - climbs path) :
    ∃ name rest, landing place path = outer ++ name :: rest := by
  obtain ⟨inner, rfl⟩ := above
  rw [List.length_append] at inside
  cases inner with
  | nil =>
      rw [List.length_nil] at inside
      omega
  | cons name inner =>
      have more : (outer ++ name :: inner).length - climbs path - outer.length =
          (outer ++ name :: inner).length - climbs path - outer.length - 1 + 1 := by
        rw [List.length_append]
        omega
      have whole : outer.length ≤ (outer ++ name :: inner).length - climbs path := by
        rw [List.length_append]
        omega
      rw [landing, List.take_append, List.take_of_length_le whole, more, List.take_succ_cons,
        List.append_assoc, List.cons_append]
      exact ⟨name, _, rfl⟩

theorem prefix_landing_iff (above : outer <+: place) :
    outer <+: landing place path ↔ ComesBack outer place path := by
  rw [ComesBack]
  by_cases inside : outer.length < place.length - climbs path
  · obtain ⟨name, rest, shape⟩ := landing_of_lt above inside
    rw [shape, List.drop_eq_nil_of_le (Nat.le_of_lt inside)]
    exact iff_of_true (List.prefix_append outer _) List.nil_prefix
  · rw [landing_of_le above (by omega)]
    conv => lhs; lhs; rw [← List.take_append_drop (place.length - climbs path) outer]
    exact List.prefix_append_right_inj _

theorem ne_landing_iff (above : outer <+: place) : outer ≠ landing place path ↔
    outer.length < place.length - climbs path ∨
      outer.drop (place.length - climbs path) ≠ descent path := by
  by_cases inside : outer.length < place.length - climbs path
  · obtain ⟨name, rest, shape⟩ := landing_of_lt above inside
    refine iff_of_true ?_ (.inl inside)
    intro same
    have lengths := congrArg List.length (same.trans shape)
    rw [List.length_append, List.length_cons] at lengths
    omega
  · rw [landing_of_le above (by omega), or_iff_right inside]
    conv => lhs; lhs; rw [← List.take_append_drop (place.length - climbs path) outer]
    exact not_congr (List.append_right_inj _)

end

theorem segments_parent {path : List Char} (canonical : Canonical path) :
    segments (parent path) = (segments path).dropLast := by
  have proper : ∀ n ∈ segments path, Proper n := fun n => proper_of_mem_segments
  rcases List.eq_nil_or_concat (segments path) with empty | ⟨init, last, shape⟩
  · rw [← canonical, empty]
    rfl
  · rw [List.concat_eq_append] at shape
    rw [shape] at proper
    have parents : parent path = absolute init := by
      rw [← canonical, shape,
        parent_absolute_concat (proper last (List.mem_append_right init List.mem_cons_self))]
    rw [parents, shape, List.dropLast_concat,
      segments_absolute fun n member => proper n (List.mem_append_left _ member)]

/-- The parent of a path lies in a directory exactly if the path lies strictly below it. -/
theorem within_parent_iff {outer path : List Char} (filled : segments outer ≠ [])
    (canonical : Canonical path) : Within outer (parent path) ↔ Below outer path := by
  rw [Within, Below, segments_parent canonical]
  rcases List.eq_nil_or_concat (segments path) with empty | ⟨init, last, shape⟩
  · rw [empty, List.dropLast_nil]
    exact iff_of_false (fun above => filled (List.prefix_nil.mp above))
      fun above => filled (List.prefix_nil.mp above.1)
  · rw [List.concat_eq_append] at shape
    rw [shape, List.dropLast_concat, List.prefix_concat_iff]
    constructor
    · intro above
      refine ⟨.inr above, ?_⟩
      intro same
      have lengths := above.length_le
      rw [same, List.length_append, List.length_singleton] at lengths
      omega
    · rintro ⟨same | above, different⟩
      · exact absurd same different
      · exact above

end BatchJob.Path
