import Mathlib.Data.List.Infix

set_option autoImplicit false

/-!
Patterns and the order in which the ways are tried to match them: a repetition is tried as long as
it goes first, and alternatives are tried from left to right.
-/

namespace BatchJob.Text

/-- What a piece of text may be required to look like. -/
inductive Pattern where
  | one (kind : Char → Bool)
  | many (kind : Char → Bool)
  | words (choices : List (List Char))
  | sequence (first second : Pattern)
  | either (first second : Pattern)

namespace Pattern

/-- At least one character of a kind. -/
def filled (kind : Char → Bool) : Pattern := sequence (one kind) (many kind)

/-- What a pattern asks for, or nothing. -/
def optional (p : Pattern) : Pattern := either p (words [[]])

def Accepts : Pattern → List Char → Prop
  | one kind, text => ∃ c, kind c = true ∧ text = [c]
  | many kind, text => ∀ c ∈ text, kind c = true
  | words choices, text => text ∈ choices
  | sequence p q, text => ∃ front back, text = front ++ back ∧ p.Accepts front ∧ q.Accepts back
  | either p q, text => p.Accepts text ∨ q.Accepts text

/-- The ways in which a pattern matches the front of a text, in the order in which they are tried,
each with what remains. -/
def ways : Pattern → List Char → List (List Char × List Char)
  | one _, [] => []
  | one kind, c :: s => if kind c then [([c], s)] else []
  | many kind, s => (s.takeWhile kind).inits.reverse.map fun run => (run, s.drop run.length)
  | words choices, s => choices.filterMap fun word =>
      if word.isPrefixOf s then some (word, s.drop word.length) else none
  | sequence p q, s => (p.ways s).flatMap fun front =>
      (q.ways front.2).map fun back => (front.1 ++ back.1, back.2)
  | either p q, s => p.ways s ++ q.ways s

/-- The ways in which two patterns match the front of a text one after the other; what each of them
matches is told apart. -/
def pairs (p q : Pattern) (s : List Char) : List ((List Char × List Char) × List Char) :=
  (p.ways s).flatMap fun front => (q.ways front.2).map fun back => ((front.1, back.1), back.2)

variable {p q : Pattern} {s text rest front back : List Char}

/-- The ways are all those in which the text begins with something that looks as required. -/
theorem mem_ways_iff : (text, rest) ∈ p.ways s ↔ s = text ++ rest ∧ p.Accepts text := by
  induction p generalizing s text rest with
  | one kind =>
      cases s with
      | nil =>
          refine iff_of_false List.not_mem_nil ?_
          rintro ⟨empty, c, -, rfl⟩
          cases empty
      | cons c s =>
          rw [ways, Accepts]
          constructor
          · intro member
            split at member
            · rename_i known
              cases List.mem_singleton.mp member
              exact ⟨rfl, c, known, rfl⟩
            · cases member
          · rintro ⟨same, d, known, rfl⟩
            cases same
            rw [if_pos known]
            exact List.mem_singleton_self _
  | many kind =>
      simp only [ways, Accepts, List.mem_map, List.mem_reverse, List.mem_inits, Prod.mk.injEq]
      constructor
      · rintro ⟨run, within, rfl, rfl⟩
        obtain ⟨behind, rfl⟩ := within.trans (List.takeWhile_prefix kind)
        rw [List.drop_left]
        exact ⟨rfl, fun c member => List.all_eq_true.mp List.all_takeWhile c (within.subset member)⟩
      · rintro ⟨rfl, all⟩
        refine ⟨text, ?_, rfl, List.drop_left⟩
        rw [List.takeWhile_append_of_pos all]
        exact List.prefix_append text _
  | words choices =>
      simp only [ways, Accepts, List.mem_filterMap, Option.ite_none_right_eq_some,
        Option.some.injEq, Prod.mk.injEq, List.isPrefixOf_iff_prefix]
      constructor
      · rintro ⟨word, member, ⟨behind, rfl⟩, rfl, rfl⟩
        rw [List.drop_left]
        exact ⟨rfl, member⟩
      · rintro ⟨rfl, member⟩
        exact ⟨text, member, List.prefix_append text rest, rfl, List.drop_left⟩
  | sequence p q first second =>
      simp only [ways, Accepts, List.mem_flatMap, List.mem_map, Prod.mk.injEq, Prod.exists]
      constructor
      · rintro ⟨front, middle, begins, back, _, goes, rfl, rfl⟩
        obtain ⟨rfl, before⟩ := first.mp begins
        obtain ⟨rfl, after⟩ := second.mp goes
        exact ⟨(List.append_assoc ..).symm, front, back, rfl, before, after⟩
      · rintro ⟨rfl, front, back, rfl, before, after⟩
        exact ⟨front, back ++ rest, first.mpr ⟨List.append_assoc .., before⟩, back, rest,
          second.mpr ⟨rfl, after⟩, rfl, rfl⟩
  | either p q first second =>
      rw [ways, List.mem_append, first, second, Accepts, and_or_left]

theorem mem_pairs_iff : ((front, back), rest) ∈ pairs p q s ↔
    s = front ++ back ++ rest ∧ p.Accepts front ∧ q.Accepts back := by
  simp only [pairs, List.mem_flatMap, List.mem_map, Prod.mk.injEq, Prod.exists, mem_ways_iff]
  constructor
  · rintro ⟨_, _, ⟨rfl, before⟩, _, _, ⟨rfl, after⟩, ⟨rfl, rfl⟩, rfl⟩
    exact ⟨(List.append_assoc ..).symm, before, after⟩
  · rintro ⟨rfl, before, after⟩
    exact ⟨front, back ++ rest, ⟨List.append_assoc .., before⟩, back, rest, ⟨rfl, after⟩,
      ⟨rfl, rfl⟩, rfl⟩

/-- Of two patterns, the way of the first decides where it is the only one that the second can go on
from. -/
theorem head?_pairs_of_only {way : List Char × List Char} (member : way ∈ p.ways s)
    (only : ∀ other ∈ p.ways s, other = way ∨ q.ways other.2 = [])
    (goes : (q.ways way.2).head? = some (back, rest)) :
    (pairs p q s).head? = some ((way.1, back), rest) := by
  rw [pairs]
  generalize p.ways s = tried at member only
  induction tried with
  | nil => cases member
  | cons other tried ih =>
      rw [List.flatMap_cons, List.head?_append]
      rcases only other List.mem_cons_self with rfl | stuck
      · rw [List.head?_map, goes]
        rfl
      · rw [stuck, List.map_nil, List.head?_nil, Option.none_or]
        refine ih ?_ fun x later => only x (List.mem_cons_of_mem other later)
        rcases List.mem_cons.mp member with rfl | later
        · rw [stuck] at goes
          cases goes
        · exact later

end Pattern

end BatchJob.Text
