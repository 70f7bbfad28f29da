import BatchJob.Text.Words

set_option autoImplicit false

/-!
The lines of a text that goes on behind a line break are those of its two parts.
-/

namespace BatchJob.Text

theorem lines_break (front back : List Char) :
    lines (front ++ '\n' :: back) = (front.splitOn '\n').map chomp ++ lines back := by
  have filled : back.splitOn '\n' ≠ [] := List.splitOn_ne_nil '\n' back
  obtain ⟨pieces, last, shape⟩ := List.eq_nil_or_concat (back.splitOn '\n') |>.resolve_left filled
  rw [List.concat_eq_append] at shape
  simp only [lines, List.splitOn_append_cons_self, shape, ← List.append_assoc, List.dropLast_concat,
    List.getLast?_concat, List.map_append]

theorem lines_ended (front : List Char) :
    lines (front ++ ['\n']) = (front.splitOn '\n').map chomp := by
  rw [lines_break]
  exact List.append_nil _

theorem lines_append {front : List Char} (whole : front = [] ∨ ['\n'] <:+ front)
    (back : List Char) : lines (front ++ back) = lines front ++ lines back := by
  rcases whole with rfl | ⟨text, rfl⟩
  · rfl
  · rw [List.append_assoc, List.singleton_append, lines_break, lines_ended]

theorem lines_cons {line : List Char} (unbroken : '\n' ∉ line) (rest : List Char) :
    lines (line ++ '\n' :: rest) = chomp line :: lines rest := by
  rw [lines_break, List.splitOn_eq_singleton unbroken]
  rfl

theorem lines_single {line : List Char} (unbroken : '\n' ∉ line) (filled : line ≠ []) :
    lines line = [line] := by
  have visible : line.isEmpty = false := List.isEmpty_eq_false_iff.mpr filled
  simp only [lines, List.splitOn_eq_singleton unbroken, List.getLast?_singleton, Option.getD_some,
    visible]
  rfl

/-- A text is taken apart at its first line break as long as it has one. -/
@[elab_as_elim]
theorem lines_induction {motive : List Char → Prop}
    (last : ∀ line, '\n' ∉ line → motive line)
    (more : ∀ line rest, '\n' ∉ line → motive rest → motive (line ++ '\n' :: rest))
    (text : List Char) : motive text := by
  induction size : text.length using Nat.strongRecOn generalizing text with
  | ind n ih =>
      by_cases broken : '\n' ∈ text
      · obtain ⟨line, rest, rfl, unbroken⟩ := List.eq_append_cons_of_mem broken
        have shorter : rest.length < n := by
          rw [← size, List.length_append, List.length_cons]
          omega
        exact more line rest unbroken (ih rest.length shorter rest rfl)
      · exact last text broken

/-- Only a carriage return right before the break belongs to it, so what stands further in front
makes no difference. -/
theorem chomp_append {front : List Char} (bare : front.getLast? ≠ some '\r') (piece : List Char) :
    chomp (front ++ piece) = front ++ chomp piece := by
  rcases List.eq_nil_or_concat piece with rfl | ⟨start, c, rfl⟩
  · rw [List.append_nil, chomp, if_neg (fun carriage => bare (beq_iff_eq.mp carriage))]
    exact (List.append_nil front).symm
  · rw [List.concat_eq_append]
    unfold chomp
    rw [← List.append_assoc, List.getLast?_concat, List.getLast?_concat]
    split
    · rw [List.dropLast_concat, List.dropLast_concat]
    · exact List.append_assoc front start [c]

/-- A text without a break of its own stands before the first line of what follows it. -/
theorem lines_beside {front back : List Char} (unbroken : '\n' ∉ front)
    (bare : front.getLast? ≠ some '\r') (filled : back ≠ []) :
    ∃ first rest, lines back = first :: rest ∧
      lines (front ++ back) = (front ++ first) :: rest := by
  by_cases broken : '\n' ∈ back
  · obtain ⟨line, rest, rfl, whole⟩ := List.eq_append_cons_of_mem broken
    have joined : '\n' ∉ front ++ line := List.not_mem_append unbroken whole
    refine ⟨chomp line, lines rest, lines_cons whole rest, ?_⟩
    rw [← List.append_assoc, lines_cons joined, chomp_append bare]
  · have joined : '\n' ∉ front ++ back := List.not_mem_append unbroken broken
    exact ⟨back, [], lines_single broken filled,
      lines_single joined (List.append_ne_nil_of_right_ne_nil front filled)⟩

theorem suffix_intercalate (mark : List Char) (pieces : List (List Char)) (last : List Char) :
    last <:+ mark.intercalate (pieces ++ [last]) := by
  induction pieces with
  | nil => exact ⟨[], List.intercalate_singleton.symm⟩
  | cons piece rest ih =>
      obtain ⟨next, others, shape⟩ : ∃ next others, rest ++ [last] = next :: others :=
        List.exists_cons_of_ne_nil (List.concat_ne_nil last rest)
      rw [List.cons_append, shape, List.intercalate_cons_cons, ← shape]
      exact ih.trans (List.suffix_append _ _)

theorem suffix_of_splitOn {mark : Char} {text last : List Char}
    (ends : (text.splitOn mark).getLast? = some last) : last <:+ text := by
  obtain ⟨pieces, shape⟩ := List.getLast?_eq_some_iff.mp ends
  have within := suffix_intercalate [mark] pieces last
  rwa [← shape, List.intercalate_splitOn] at within

theorem chomp_eq (piece : List Char) : piece = chomp piece ∨ piece = chomp piece ++ ['\r'] := by
  unfold chomp
  split
  · rename_i carriage
    obtain ⟨line, rfl⟩ := List.getLast?_eq_some_iff.mp (beq_iff_eq.mp carriage)
    exact .inr (by rw [List.dropLast_concat])
  · exact .inl rfl

/-- The last line of a text that ends in a line break stands right before that. -/
theorem suffix_of_lines {text line : List Char} (whole : ['\n'] <:+ text)
    (last : (lines text).getLast? = some line) :
    line ++ ['\n'] <:+ text ∨ line ++ ['\r', '\n'] <:+ text := by
  obtain ⟨front, rfl⟩ := whole
  rw [lines_ended, List.getLast?_map] at last
  obtain ⟨piece, ends, rfl⟩ := Option.map_eq_some_iff.mp last
  obtain ⟨before, rfl⟩ := suffix_of_splitOn ends
  rcases chomp_eq piece with bare | carriage
  · refine .inl ⟨before, ?_⟩
    rw [← bare, List.append_assoc]
  · refine .inr ⟨before, ?_⟩
    have ending : chomp piece ++ ['\r', '\n'] = piece ++ ['\n'] := by
      conv => rhs; rw [carriage]
      rw [List.append_assoc, List.singleton_append]
    rw [ending, List.append_assoc]

end BatchJob.Text
