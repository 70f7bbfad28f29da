import BatchJob.Text.Words
import Mathlib.Data.List.TakeWhile

set_option autoImplicit false

/-!
A text is taken apart at marks and blanks into what it was put together from.
-/

namespace BatchJob.Text

theorem cut_append {mark : Char} {front : List Char} (unmarked : mark ∉ front)
    (back : List Char) : cut mark (front ++ mark :: back) = some (front, back) := by
  have passed : ∀ c ∈ front, (c != mark) = true := by
    intro c member
    exact bne_iff_ne.mpr (ne_of_mem_of_not_mem member unmarked)
  have stops : ¬ (mark != mark) = true := by simp
  have after : (mark :: back).dropWhile (· != mark) = mark :: back :=
    List.dropWhile_cons_of_neg stops
  have before : (mark :: back).takeWhile (· != mark) = [] := List.takeWhile_cons_of_neg stops
  rw [cut, List.dropWhile_append_of_pos passed, List.takeWhile_append_of_pos passed, after, before,
    List.append_nil]

theorem cut_eq_none {mark : Char} {s : List Char} (unmarked : mark ∉ s) : cut mark s = none := by
  have passed : ∀ c ∈ s, (c != mark) = true := by
    intro c member
    exact bne_iff_ne.mpr (ne_of_mem_of_not_mem member unmarked)
  have nothing : s.dropWhile (· != mark) = [] := List.dropWhile_eq_nil_iff.mpr passed
  rw [cut, nothing]

theorem cut_eq_none_iff {mark : Char} {s : List Char} : cut mark s = none ↔ mark ∉ s := by
  refine ⟨fun nowhere member => ?_, cut_eq_none⟩
  unfold cut at nowhere
  cases behind : s.dropWhile (· != mark) with
  | nil => exact absurd (List.dropWhile_eq_nil_iff.mp behind mark member) (by simp)
  | cons c rest =>
      rw [behind] at nowhere
      cases nowhere

theorem cut_eq_some_iff {mark : Char} {s front back : List Char} :
    cut mark s = some (front, back) ↔ s = front ++ mark :: back ∧ mark ∉ front := by
  constructor
  · intro found
    have unmarked : mark ∉ s.takeWhile (· != mark) := fun member =>
      bne_iff_ne.mp (List.all_eq_true.mp (List.all_takeWhile (p := (· != mark))) mark member) rfl
    unfold cut at found
    cases behind : s.dropWhile (· != mark) with
    | nil =>
        rw [behind] at found
        cases found
    | cons c rest =>
        have stop : c = mark := by
          have first := List.head?_dropWhile_not (· != mark) s
          rw [behind] at first
          simpa using first
        have whole := List.takeWhile_append_dropWhile (p := (· != mark)) (l := s)
        rw [behind, stop] at whole
        rw [behind] at found
        cases found
        exact ⟨whole.symm, unmarked⟩
  · rintro ⟨rfl, unmarked⟩
    exact cut_append unmarked back

theorem any_isBlank_eq_false_iff {s : List Char} :
    s.any isBlank = false ↔ ∀ c ∈ s, isBlank c = false := by
  simp only [List.any_eq_false, Bool.not_eq_true]

/-- A word has a character, and none that is blank. -/
def Solid (word : List Char) : Prop :=
  word ≠ [] ∧ word.any isBlank = false

instance (word : List Char) : Decidable (Solid word) :=
  inferInstanceAs (Decidable (_ ∧ _))

/-- A text of some words, with blanks between them and, if one likes, at either end. -/
inductive Spaced : List (List Char) → List Char → Prop where
  | blank (gap : List Char) (blanks : gap.all isBlank = true) : Spaced [] gap
  | word (gap word : List Char) {rest : List Char} {words : List (List Char)}
      (blanks : gap.all isBlank = true) (apart : rest.head?.all isBlank = true)
      (later : Spaced words rest) : Spaced (word :: words) (gap ++ (word ++ rest))

/-- What is neither blank nor in one of the words is not in their text. -/
theorem Spaced.not_mem {c : Char} {ws : List (List Char)} {text : List Char}
    (spaced : Spaced ws text) (visible : isBlank c = false) (absent : ∀ w ∈ ws, c ∉ w) :
    c ∉ text := by
  have outside {gap : List Char} (blanks : gap.all isBlank = true) : c ∉ gap := fun member =>
    Bool.false_ne_true (visible.symm.trans (List.all_eq_true.mp blanks c member))
  induction spaced with
  | blank gap blanks => exact outside blanks
  | word gap word blanks apart later ih =>
      have first := absent word List.mem_cons_self
      have others := ih fun w member => absent w (List.mem_cons_of_mem word member)
      exact List.not_mem_append (outside blanks) (List.not_mem_append first others)

theorem words_cons {c : Char} (blank : isBlank c = true) (rest : List Char) :
    words (c :: rest) = words rest := by
  rw [words, List.splitOnP_cons_eq_if_modifyHead, if_pos blank]
  rfl

theorem words_blanks {gap : List Char} (blanks : gap.all isBlank = true) (rest : List Char) :
    words (gap ++ rest) = words rest := by
  induction gap with
  | nil => rfl
  | cons c gap ih =>
      rw [List.all_cons, Bool.and_eq_true] at blanks
      rw [List.cons_append, words_cons blanks.1, ih blanks.2]

theorem words_solid {word rest : List Char} (solid : Solid word)
    (apart : rest.head?.all isBlank = true) : words (word ++ rest) = word :: words rest := by
  have filled : (!word.isEmpty) = true := by
    rw [List.isEmpty_eq_false_iff.mpr solid.1]
    rfl
  have visible := any_isBlank_eq_false_iff.mp solid.2
  cases rest with
  | nil =>
      rw [List.append_nil, words, List.splitOnP_eq_singleton visible]
      exact List.filter_cons_of_pos filled
  | cons c rest =>
      have blank : isBlank c = true := apart
      rw [words_cons blank, words, List.splitOnP_append_cons_of_forall_mem visible c blank]
      exact List.filter_cons_of_pos filled

/-- The words of a text are those that it was written with. -/
theorem Spaced.words_eq {ws : List (List Char)} {text : List Char} (spaced : Spaced ws text)
    (solid : ∀ w ∈ ws, Solid w) : words text = ws := by
  induction spaced with
  | blank gap blanks =>
      have none := words_blanks blanks []
      rw [List.append_nil] at none
      exact none
  | word gap word blanks apart later ih =>
      have others := ih fun w member => solid w (List.mem_cons_of_mem word member)
      rw [words_blanks blanks, words_solid (solid word List.mem_cons_self) apart, others]

theorem words_unwords {ws : List (List Char)} (solid : ∀ w ∈ ws, Solid w) :
    words (unwords ws) = ws := by
  induction ws with
  | nil => rfl
  | cons word rest ih =>
      have first := solid word List.mem_cons_self
      have others := ih fun w member => solid w (List.mem_cons_of_mem word member)
      rw [unwords] at others ⊢
      cases rest with
      | nil =>
          have alone : words (word ++ []) = word :: words [] := words_solid first rfl
          rw [List.append_nil] at alone
          rw [List.intercalate_singleton, alone]
          rfl
      | cons next rest =>
          rw [List.intercalate_cons_cons, List.append_assoc, words_solid first rfl,
            List.singleton_append, words_cons rfl, others]

end BatchJob.Text
