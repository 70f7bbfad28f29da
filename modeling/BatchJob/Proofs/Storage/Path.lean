import BatchJob.Storage.Path

set_option autoImplicit false

/-!
Cleaned absolute paths. Such a path is written with exactly one slash before each of its segments,
and is known by them.
-/

namespace BatchJob

theorem Text.dropEndWhile_append {α : Type} {p : α → Bool} {tail : List α}
    (all : ∀ a ∈ tail, p a = true) (s : List α) :
    dropEndWhile p (s ++ tail) = dropEndWhile p s := by
  rw [dropEndWhile, List.reverse_append, List.dropWhile_append_of_pos]
  · rfl
  · intro a member
    exact all a (List.mem_reverse.mp member)

theorem Text.dropEndWhile_append_cons {α : Type} {p : α → Bool} {a : α} (kept : p a = false)
    (front back : List α) :
    dropEndWhile p (front ++ a :: back) = front ++ a :: dropEndWhile p back := by
  have stops : (a :: front.reverse).dropWhile p = a :: front.reverse :=
    List.dropWhile_cons_of_neg (Bool.eq_false_iff.mp kept)
  rw [dropEndWhile, List.reverse_append, List.reverse_cons, List.append_assoc,
    List.singleton_append, List.dropWhile_append, dropEndWhile]
  split
  · rename_i all
    rw [stops, List.isEmpty_iff.mp all, List.reverse_cons, List.reverse_reverse, List.reverse_nil]
  · rw [List.reverse_append, List.reverse_cons, List.reverse_reverse, List.append_assoc,
      List.singleton_append]

theorem Text.dropEndWhile_concat {α : Type} {p : α → Bool} {a : α} (kept : p a = false)
    (s : List α) : dropEndWhile p (s ++ [a]) = s ++ [a] :=
  dropEndWhile_append_cons kept s []

theorem Text.dropEndWhile_prefix {α : Type} (p : α → Bool) (s : List α) :
    dropEndWhile p s <+: s := by
  have tail : s.reverse.dropWhile p <:+ s.reverse := List.dropWhile_suffix p
  rwa [← List.reverse_prefix, List.reverse_reverse] at tail

/-- What is cut apart is the whole text. -/
theorem Text.append_of_cutAt {mark s before after : List Char}
    (found : cutAt mark s = some (before, after)) : before ++ mark ++ after = s := by
  induction s generalizing before with
  | nil =>
      rw [cutAt] at found
      split at found
      · rename_i empty
        cases found
        rw [List.isEmpty_iff.mp empty]
        rfl
      · cases found
  | cons c s ih =>
      rw [cutAt] at found
      split at found
      · rename_i starts
        obtain ⟨rest, shape⟩ := List.isPrefixOf_iff_prefix.mp starts
        cases found
        rw [← shape, List.drop_left, List.nil_append]
      · obtain ⟨⟨front, back⟩, later, same⟩ := Option.map_eq_some_iff.mp found
        cases same
        rw [List.cons_append, List.cons_append, ih later]

namespace Path

def segments (path : List Char) : List (List Char) :=
  (path.splitOn '/').filter (!·.isEmpty)

def absolute (names : List (List Char)) : List Char :=
  '/' :: ['/'].intercalate names

/-- What can stand between two slashes as a segment. -/
def Proper (name : List Char) : Prop := name ≠ [] ∧ '/' ∉ name

def Canonical (path : List Char) : Prop := absolute (segments path) = path

instance : DecidablePred Canonical := fun path =>
  inferInstanceAs (Decidable (absolute (segments path) = path))

theorem not_mem_of_mem_splitOn {path name : List Char} (member : name ∈ path.splitOn '/') :
    '/' ∉ name := by
  induction path generalizing name with
  | nil =>
      rw [List.splitOn_nil, List.mem_singleton] at member
      rw [member]
      exact List.not_mem_nil
  | cons c rest ih =>
      rw [List.splitOn_cons_eq_if_modifyHead] at member
      split at member
      · rcases List.mem_cons.mp member with rfl | member
        · exact List.not_mem_nil
        · exact ih member
      · rename_i other
        cases pieces : rest.splitOn '/' with
        | nil => exact absurd pieces (List.splitOn_ne_nil '/' rest)
        | cons first later =>
            rw [pieces] at member
            rcases List.mem_cons.mp member with rfl | member
            · intro slash
              rcases List.mem_cons.mp slash with rfl | slash
              · exact other rfl
              · exact ih (by rw [pieces]; exact List.mem_cons_self) slash
            · exact ih (by rw [pieces]; exact List.mem_cons_of_mem first member)

theorem proper_of_mem_segments {path name : List Char} (member : name ∈ segments path) :
    Proper name := by
  obtain ⟨piece, filled⟩ := List.mem_filter.mp member
  refine ⟨?_, not_mem_of_mem_splitOn piece⟩
  rintro rfl
  cases filled

theorem segments_nil : segments [] = [] := rfl

theorem segments_append_slash (front back : List Char) :
    segments (front ++ '/' :: back) = segments front ++ segments back := by
  rw [segments, List.splitOn_append_cons_self, List.filter_append]
  rfl

theorem filter_proper {names : List (List Char)} (proper : ∀ n ∈ names, Proper n) :
    names.filter (!·.isEmpty) = names := by
  apply List.filter_eq_self.mpr
  intro name member
  have filled := (proper name member).1
  cases name with
  | nil => exact absurd rfl filled
  | cons c rest => rfl

theorem segments_absolute {names : List (List Char)} (proper : ∀ n ∈ names, Proper n) :
    segments (absolute names) = names := by
  rw [absolute, ← List.nil_append ('/' :: _), segments_append_slash, segments_nil, List.nil_append]
  cases names with
  | nil => rfl
  | cons first rest =>
      rw [segments, List.splitOn_intercalate '/' (fun n member => (proper n member).2)
        (List.cons_ne_nil first rest)]
      exact filter_proper proper

theorem canonical_absolute {names : List (List Char)} (proper : ∀ n ∈ names, Proper n) :
    Canonical (absolute names) := by
  rw [Canonical, segments_absolute proper]

theorem Canonical.eq_of_segments {path other : List Char} (left : Canonical path)
    (right : Canonical other) (same : segments path = segments other) : path = other := by
  rw [← left, ← right, same]

theorem intercalate_concat {names : List (List Char)} (filled : names ≠ []) (last : List Char) :
    ['/'].intercalate (names ++ [last]) = ['/'].intercalate names ++ '/' :: last := by
  induction names with
  | nil => exact absurd rfl filled
  | cons first rest ih =>
      cases rest with
      | nil => simp only [List.cons_append, List.nil_append, List.intercalate_cons_cons,
          List.intercalate_singleton, List.append_assoc]
      | cons second rest =>
          have later := ih (List.cons_ne_nil second rest)
          simp only [List.cons_append, List.intercalate_cons_cons] at later ⊢
          rw [later]
          simp only [List.append_assoc, List.cons_append, List.nil_append]

/-- Of two texts that are put together, the second is left out if it is empty. -/
theorem intercalate_pair {first : List Char} (filled : first ≠ []) (second : List Char) :
    ['/'].intercalate ([first, second].filter (!·.isEmpty)) =
      if second.isEmpty then first else first ++ '/' :: second := by
  have kept : (!first.isEmpty) = true := by
    rw [List.isEmpty_eq_false_iff.mpr filled]
    rfl
  rw [List.filter_cons, if_pos kept]
  cases second with
  | nil => exact List.intercalate_singleton ..
  | cons c rest =>
      have two := intercalate_concat (List.cons_ne_nil first []) (c :: rest)
      rwa [List.intercalate_singleton] at two

theorem absolute_concat (names : List (List Char)) (last : List Char) :
    absolute (names ++ [last]) =
      (if names.isEmpty then [] else absolute names) ++ '/' :: last := by
  cases names with
  | nil => simp only [absolute, List.nil_append, List.intercalate_singleton, List.isEmpty_nil,
      if_true]
  | cons first rest =>
      rw [absolute, intercalate_concat (List.cons_ne_nil first rest)]
      rfl

/-- The segments above the last one of a canonical path are above in every path that starts with
its text. -/
theorem Canonical.prefix_segments {path longer : List Char} {names : List (List Char)}
    (canonical : Canonical path) (above : names <+: segments path) (strict : names ≠ segments path)
    (starts : path <+: longer) : names <+: segments longer := by
  obtain ⟨rest, rfl⟩ := starts
  rcases List.eq_nil_or_concat (segments path) with empty | ⟨init, last, shape⟩
  · rw [empty] at above strict
    exact absurd (List.prefix_nil.mp above) strict
  · rw [List.concat_eq_append] at shape
    have proper : ∀ n ∈ init, Proper n := by
      intro n member
      have within : n ∈ segments path := by
        rw [shape]
        exact List.mem_append_left _ member
      exact proper_of_mem_segments within
    rw [shape] at above strict
    have front : segments (if init.isEmpty then [] else absolute init) = init := by
      cases init with
      | nil => rfl
      | cons first others => exact segments_absolute proper
    rw [← canonical, shape, absolute_concat, List.append_assoc, List.cons_append,
      segments_append_slash, front]
    rcases List.prefix_concat_iff.mp above with whole | shorter
    · exact absurd whole strict
    · exact shorter.trans (List.prefix_append init _)

/-- The parent of a path lacks its last segment. -/
theorem parent_absolute_concat {names : List (List Char)} {last : List Char}
    (proper : Proper last) : parent (absolute (names ++ [last])) = absolute names := by
  rw [absolute_concat]
  generalize shape : (if names.isEmpty then [] else absolute names) = front
  rcases List.eq_nil_or_concat last with empty | ⟨most, c, filled⟩
  · exact absurd empty proper.1
  · have solid : (c == '/') = false := by
      rw [beq_eq_false_iff_ne]
      rintro rfl
      apply proper.2
      rw [filled, List.concat_eq_append]
      exact List.mem_append_right most List.mem_cons_self
    have trimmed : Text.dropEndWhile (· == '/') (front ++ '/' :: last) = front ++ '/' :: last := by
      have kept := Text.dropEndWhile_concat (p := (· == '/')) solid (front ++ '/' :: most)
      rw [filled, List.concat_eq_append]
      simpa only [List.append_assoc, List.cons_append] using kept
    have kept : Text.dropEndWhile (· != '/') (front ++ '/' :: last) = front ++ ['/'] := by
      rw [List.append_cons, Text.dropEndWhile_append, Text.dropEndWhile_concat rfl]
      intro x member
      exact bne_iff_ne.mpr fun same => proper.2 (same ▸ member)
    simp only [parent, trimmed, kept, List.dropLast_concat]
    rw [← shape]
    cases names <;> rfl

theorem canonical_parent {path : List Char} (canonical : Canonical path) :
    Canonical (parent path) := by
  have proper : ∀ n ∈ segments path, Proper n := fun n => proper_of_mem_segments
  rw [← canonical]
  rcases List.eq_nil_or_concat (segments path) with empty | ⟨init, last, shape⟩
  · rw [empty]
    rfl
  · rw [List.concat_eq_append] at shape
    rw [shape] at proper ⊢
    rw [parent_absolute_concat (proper last (List.mem_append_right init List.mem_cons_self))]
    exact canonical_absolute fun n member => proper n (List.mem_append_left _ member)

theorem not_mem_of_bucket? {path bucket : List Char} (remote : bucket? path = some bucket) :
    '/' ∉ bucket := by
  unfold bucket? at remote
  split at remote
  · cases remote
  · dsimp only at remote
    split at remote
    · cases remote
    · intro slash
      rw [← Option.some.inj remote] at slash
      have other := List.all_eq_true.mp (List.all_takeWhile (p := (· != '/'))) '/' slash
      exact bne_iff_ne.mp other rfl

theorem withoutScheme_of_not_mem {path : List Char} (plain : '/' ∉ path) :
    withoutScheme path = path := by
  have unmarked : Text.cutAt schemeMark path = none := by
    rw [Option.eq_none_iff_forall_ne_some]
    rintro ⟨before, after⟩ found
    apply plain
    rw [← Text.append_of_cutAt found]
    exact List.mem_append_left _ (List.mem_append_right _ (by decide))
  have none : scheme? path = none := by
    rw [scheme?, unmarked]
    exact ite_self _
  rw [withoutScheme, none]

/-- What is on a stack after a segment was there before, or is that segment. -/
theorem mem_pushSegment {rooted : Bool} {stack : List (List Char)} {segment n : List Char}
    (member : n ∈ pushSegment rooted stack segment) :
    n ∈ stack ∨ n = segment ∧ ¬ (segment = [] ∨ segment = ['.']) := by
  unfold pushSegment at member
  split at member
  · exact .inl member
  · rename_i filled
    split at member
    · cases stack with
      | nil =>
          dsimp only at member
          split at member
          · exact .inl member
          · exact .inr ⟨List.mem_singleton.mp member, filled⟩
      | cons top rest =>
          dsimp only at member
          split at member
          · split at member
            · exact .inl member
            · exact (List.mem_cons.mp member).symm.imp_right fun same => ⟨same, filled⟩
          · exact .inl (List.mem_cons_of_mem top member)
    · exact (List.mem_cons.mp member).symm.imp_right fun same => ⟨same, filled⟩

theorem mem_foldl_pushSegment {rooted : Bool} {stack pieces : List (List Char)} {n : List Char}
    (member : n ∈ pieces.foldl (pushSegment rooted) stack) :
    n ∈ stack ∨ n ∈ pieces ∧ ¬ (n = [] ∨ n = ['.']) := by
  induction pieces generalizing stack with
  | nil => exact .inl member
  | cons s rest ih =>
      rcases ih member with pushed | ⟨later, filled⟩
      · rcases mem_pushSegment pushed with before | ⟨rfl, filled⟩
        · exact .inl before
        · exact .inr ⟨List.mem_cons_self, filled⟩
      · exact .inr ⟨List.mem_cons_of_mem s later, filled⟩

/-- Cleaning makes no segments: those that are left stood in the path, and are not empty. -/
theorem mem_cleanSegments {rooted : Bool} {path n : List Char}
    (member : n ∈ cleanSegments rooted path) :
    n ∈ path.splitOn '/' ∧ ¬ (n = [] ∨ n = ['.']) := by
  rw [cleanSegments, List.mem_reverse] at member
  exact (mem_foldl_pushSegment member).resolve_left List.not_mem_nil

theorem proper_cleanSegments {rooted : Bool} (path : List Char) :
    ∀ n ∈ cleanSegments rooted path, Proper n := by
  intro n member
  obtain ⟨piece, filled⟩ := mem_cleanSegments member
  exact ⟨fun empty => filled (.inl empty), not_mem_of_mem_splitOn piece⟩

theorem clean_of_rooted {path : List Char} (rooted : path.head? = some '/') :
    clean path = absolute (cleanSegments true path) := by
  simp only [clean, rooted, beq_self_eq_true, if_true]
  rfl

theorem canonical_clean {path : List Char} (rooted : path.head? = some '/') :
    Canonical (clean path) := by
  rw [clean_of_rooted rooted]
  exact canonical_absolute (proper_cleanSegments path)

theorem segments_clean {path : List Char} (rooted : path.head? = some '/') :
    segments (clean path) = cleanSegments true path := by
  rw [clean_of_rooted rooted, segments_absolute (proper_cleanSegments path)]

/-- A path without a scheme and what is joined to it are cleaned as one path. -/
theorem join_of_plain {root : List Char} (filled : root ≠ []) (plain : scheme? root = none)
    (rest : List Char) :
    join [root, rest] = clean
      (if (withoutScheme rest).isEmpty then root else root ++ '/' :: withoutScheme rest) := by
  have whole : withoutScheme root = root := by rw [withoutScheme, plain]
  rw [join, List.head?_cons, Option.bind_some, plain]
  refine congrArg clean ?_
  rw [List.map_cons, List.map_cons, List.map_nil, whole]
  exact intercalate_pair filled _

/-- What is joined to an absolute path is a canonical path. -/
theorem canonical_join {root : List Char} (rooted : root.head? = some '/')
    (plain : scheme? root = none) (rest : List Char) : Canonical (join [root, rest]) := by
  have filled : root ≠ [] := by
    rintro rfl
    cases rooted
  rw [join_of_plain filled plain]
  apply canonical_clean
  cases root with
  | nil => cases rooted
  | cons c others => cases (withoutScheme rest).isEmpty <;> exact rooted

theorem clean_ne_nil (path : List Char) : clean path ≠ [] := by
  unfold clean
  dsimp only
  split
  · exact List.cons_ne_nil _ _
  · split
    · exact List.cons_ne_nil _ _
    · rename_i filled
      exact fun empty => filled (List.isEmpty_iff.mpr empty)

theorem join_ne_nil (parts : List (List Char)) : join parts ≠ [] := by
  unfold join
  dsimp only
  split
  · exact List.append_ne_nil_of_left_ne_nil
      (List.append_ne_nil_of_right_ne_nil _ (List.cons_ne_nil _ _)) _
  · exact clean_ne_nil _

theorem mem_intercalate_slash {c : Char} {names : List (List Char)}
    (member : c ∈ ['/'].intercalate names) : c = '/' ∨ ∃ n ∈ names, c ∈ n := by
  induction names with
  | nil => cases member
  | cons first rest ih =>
      cases rest with
      | nil =>
          rw [List.intercalate_singleton] at member
          exact .inr ⟨first, List.mem_cons_self, member⟩
      | cons second rest =>
          rw [List.intercalate_cons_cons, List.append_assoc] at member
          rcases List.mem_append.mp member with member | member
          · exact .inr ⟨first, List.mem_cons_self, member⟩
          · rcases List.mem_cons.mp member with slash | member
            · exact .inl slash
            · rcases ih member with slash | ⟨n, later, within⟩
              · exact .inl slash
              · exact .inr ⟨n, List.mem_cons_of_mem first later, within⟩

theorem mem_intercalate_of_mem {c : Char} {names : List (List Char)} {name : List Char}
    (piece : name ∈ names) (member : c ∈ name) : c ∈ ['/'].intercalate names := by
  induction names with
  | nil => cases piece
  | cons first rest ih =>
      cases rest with
      | nil =>
          rw [List.mem_singleton.mp piece] at member
          rwa [List.intercalate_singleton]
      | cons second rest =>
          rw [List.intercalate_cons_cons]
          rcases List.mem_cons.mp piece with rfl | later
          · exact List.mem_append_left _ (List.mem_append_left _ member)
          · exact List.mem_append_right _ (ih later)

theorem mem_of_mem_splitOn {c : Char} {path name : List Char} (piece : name ∈ path.splitOn '/')
    (member : c ∈ name) : c ∈ path := by
  have within := mem_intercalate_of_mem piece member
  rwa [List.intercalate_splitOn] at within

theorem scheme?_append {path scheme rest : List Char} (found : scheme? path = some (scheme, rest)) :
    scheme ++ schemeMark ++ rest = path := by
  rw [scheme?] at found
  split at found
  · exact Text.append_of_cutAt found
  · cases found

theorem mem_of_mem_withoutScheme {c : Char} {path : List Char} (member : c ∈ withoutScheme path) :
    c ∈ path := by
  rw [withoutScheme] at member
  split at member
  · rename_i scheme rest found
    rw [← scheme?_append found]
    exact List.mem_append_right _ member
  · exact member

theorem mem_parent {c : Char} {path : List Char} (member : c ∈ parent path) :
    c ∈ path ∨ c = '/' := by
  unfold parent at member
  dsimp only at member
  split at member
  · exact .inr (List.mem_singleton.mp member)
  · have kept := (Text.dropEndWhile_prefix _ _).subset (List.dropLast_subset _ member)
    exact .inl ((Text.dropEndWhile_prefix _ _).subset kept)

/-- Cleaning a path brings in no characters but slashes and dots. -/
theorem mem_clean {c : Char} {path : List Char} (member : c ∈ clean path) :
    c ∈ path ∨ c ∈ ['/', '.'] := by
  have body {rooted : Bool} (member : c ∈ ['/'].intercalate (cleanSegments rooted path)) :
      c ∈ path ∨ c ∈ ['/', '.'] := by
    rcases mem_intercalate_slash member with rfl | ⟨n, segment, within⟩
    · exact .inr List.mem_cons_self
    · exact .inl (mem_of_mem_splitOn (mem_cleanSegments segment).1 within)
  unfold clean at member
  dsimp only at member
  split at member
  · rcases List.mem_cons.mp member with rfl | member
    · exact .inr List.mem_cons_self
    · exact body member
  · split at member
    · exact .inr (List.mem_cons_of_mem _ member)
    · exact body member

/-- Joining paths brings in no characters but slashes, dots and the colon behind a scheme. -/
theorem mem_join {c : Char} {parts : List (List Char)} (member : c ∈ join parts) :
    (∃ part ∈ parts, c ∈ part) ∨ c ∈ ['/', '.', ':'] := by
  have body (member : c ∈ clean (['/'].intercalate ((parts.map withoutScheme).filter
      (!·.isEmpty)))) : (∃ part ∈ parts, c ∈ part) ∨ c ∈ ['/', '.', ':'] := by
    rcases mem_clean member with member | added
    · rcases mem_intercalate_slash member with rfl | ⟨n, kept, within⟩
      · exact .inr List.mem_cons_self
      · obtain ⟨part, given, rfl⟩ := List.mem_map.mp (List.mem_filter.mp kept).1
        exact .inl ⟨part, given, mem_of_mem_withoutScheme within⟩
    · exact .inr (List.mem_append_left [':'] added)
  unfold join at member
  dsimp only at member
  split at member
  · rename_i scheme rest found
    obtain ⟨first, start, found⟩ := Option.bind_eq_some_iff.mp found
    rcases List.mem_append.mp member with member | member
    · rcases List.mem_append.mp member with member | mark
      · refine .inl ⟨first, List.mem_of_head? start, ?_⟩
        rw [← scheme?_append found]
        exact List.mem_append_left _ (List.mem_append_left _ member)
      · refine .inr ?_
        rcases List.mem_cons.mp mark with rfl | mark
        · decide
        · rcases List.mem_cons.mp mark with rfl | mark
          · decide
          · rw [List.mem_singleton.mp mark]
            decide
    · exact body ((List.dropWhile_sublist _).subset member)
  · exact body member

end Path

end BatchJob
