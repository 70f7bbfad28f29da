import BatchJob.Proofs.Text.Words
import BatchJob.Text.Digits

set_option autoImplicit false

/-!
Decimal numbers: digits with at most one point among them. What is read off the front of a text is
the longest such number.
-/

namespace BatchJob.Text

variable {digit : Char → Bool} {s text whole rest : List Char} {fraction : Option (List Char)}

section

variable {p : Char → Bool} {front : List Char}

theorem takeWhile_append_of_stops (all : ∀ c ∈ front, p c = true)
    (stops : ∀ c ∈ rest.head?, p c = false) : (front ++ rest).takeWhile p = front := by
  rw [List.takeWhile_append_of_pos all]
  cases rest with
  | nil => exact List.append_nil front
  | cons c rest =>
      rw [List.takeWhile_cons_of_neg (Bool.eq_false_iff.mp (stops c rfl)), List.append_nil]

theorem dropWhile_append_of_stops (all : ∀ c ∈ front, p c = true)
    (stops : ∀ c ∈ rest.head?, p c = false) : (front ++ rest).dropWhile p = rest := by
  rw [List.dropWhile_append_of_pos all]
  cases rest with
  | nil => rfl
  | cons c rest => exact List.dropWhile_cons_of_neg (Bool.eq_false_iff.mp (stops c rfl))

theorem stops_dropWhile (s : List Char) : ∀ c ∈ (s.dropWhile p).head?, p c = false := by
  intro c first
  have stops := List.head?_dropWhile_not p s
  rw [Option.mem_def.mp first] at stops
  exact stops

end

/-- Digits of some kind, one of them at least, and one point at most. -/
structure IsNumber (digit : Char → Bool) (text : List Char) : Prop where
  plain : ∀ c ∈ text, digit c = true ∨ c = '.'
  point : text.count '.' ≤ 1
  filled : ∃ c ∈ text, digit c = true

/-- The text of a number by its digits before the point and, if there is one, after it. -/
def numberText (whole : List Char) : Option (List Char) → List Char
  | some places => whole ++ '.' :: places
  | none => whole

structure NumberParts (digit : Char → Bool) (whole : List Char) (fraction : Option (List Char)) :
    Prop where
  front : ∀ c ∈ whole, digit c = true
  back : ∀ c ∈ fraction.getD [], digit c = true
  filled : whole ++ fraction.getD [] ≠ []

theorem count_point {digits : List Char} (point : digit '.' = false)
    (all : ∀ c ∈ digits, digit c = true) : digits.count '.' = 0 :=
  List.count_eq_zero.mpr fun member => Bool.false_ne_true (point.symm.trans (all '.' member))

theorem NumberParts.isNumber (parts : NumberParts digit whole fraction)
    (point : digit '.' = false) : IsNumber digit (numberText whole fraction) := by
  obtain ⟨c, member⟩ := List.exists_mem_of_ne_nil _ parts.filled
  have front := count_point point parts.front
  have back := count_point point parts.back
  cases fraction with
  | none =>
      rw [Option.getD_none, List.append_nil] at member
      refine ⟨fun c member => .inl (parts.front c member), ?_, c, member, parts.front c member⟩
      rw [numberText, front]
      exact Nat.zero_le 1
  | some places =>
      rw [Option.getD_some] at back member
      refine ⟨?_, ?_, c, ?_⟩
      · intro c member
        rcases List.mem_append.mp member with member | member
        · exact .inl (parts.front c member)
        · exact (List.mem_cons.mp member).symm.imp (parts.back c) id
      · rw [numberText, List.count_append, List.count_cons_self, front, back]
      · rcases List.mem_append.mp member with member | member
        · exact ⟨List.mem_append_left _ member, parts.front c member⟩
        · exact ⟨List.mem_append_right _ (List.mem_cons_of_mem _ member), parts.back c member⟩

theorem IsNumber.exists_parts (number : IsNumber digit text) (point : digit '.' = false) :
    ∃ whole fraction, text = numberText whole fraction ∧ NumberParts digit whole fraction := by
  have known {c : Char} (member : c ∈ text) (other : c ≠ '.') : digit c = true :=
    (number.plain c member).resolve_right other
  obtain ⟨d, within, counts⟩ := number.filled
  have other : d ≠ '.' := by
    rintro rfl
    exact Bool.false_ne_true (point.symm.trans counts)
  cases split : cut '.' text with
  | none =>
      have unmarked := cut_eq_none_iff.mp split
      refine ⟨text, none, rfl, ?_, List.forall_mem_nil _, ?_⟩
      · exact fun c member => known member (ne_of_mem_of_not_mem member unmarked)
      · exact List.append_ne_nil_of_left_ne_nil (List.ne_nil_of_mem within) _
  | some parts =>
      obtain ⟨whole, places⟩ := parts
      obtain ⟨rfl, unmarked⟩ := cut_eq_some_iff.mp split
      have single : '.' ∉ places := by
        have count := number.point
        rw [List.count_append, List.count_cons_self] at count
        exact List.count_eq_zero.mp (by omega)
      refine ⟨whole, some places, rfl, ?_, ?_, ?_⟩
      · exact fun c member => known (List.mem_append_left _ member)
          (ne_of_mem_of_not_mem member unmarked)
      · exact fun c member => known (List.mem_append_right _ (List.mem_cons_of_mem _ member))
          (ne_of_mem_of_not_mem member single)
      · refine List.ne_nil_of_mem (a := d) (List.mem_append.mpr ?_)
        exact (List.mem_append.mp within).imp_right fun member =>
          (List.mem_cons.mp member).resolve_left other

theorem isNumber_iff (point : digit '.' = false) : IsNumber digit text ↔
    ∃ whole fraction, text = numberText whole fraction ∧ NumberParts digit whole fraction := by
  refine ⟨fun number => number.exists_parts point, ?_⟩
  rintro ⟨whole, fraction, rfl, parts⟩
  exact parts.isNumber point

/-- What may follow a number that is read as long as it goes: no digit and, where the number has no
point, no point. -/
def Stops (fraction : Option (List Char)) (rest : List Char) : Prop :=
  (∀ c ∈ rest.head?, c.isDigit = false) ∧ (fraction = none → rest.head? ≠ some '.')

theorem stops_nil (fraction : Option (List Char)) : Stops fraction [] := by
  refine ⟨?_, ?_⟩
  · rintro c ⟨⟩
  · rintro - ⟨⟩

theorem parts_of_readNumber? (read : readNumber? s = some (whole, fraction, rest)) :
    s = numberText whole fraction ++ rest ∧ NumberParts Char.isDigit whole fraction ∧
      Stops fraction rest := by
  have digits (s : List Char) : ∀ c ∈ s.takeWhile Char.isDigit, c.isDigit = true :=
    List.all_eq_true.mp List.all_takeWhile
  have shape (s : List Char) := List.takeWhile_append_dropWhile (p := Char.isDigit) (l := s)
  unfold readNumber? at read
  split at read
  · rename_i behind point
    dsimp only at read
    split at read
    · cases read
    · rename_i filled
      simp only [Option.some.injEq, Prod.mk.injEq] at read
      obtain ⟨rfl, rfl, rfl⟩ := read
      refine ⟨?_, ⟨digits s, digits behind, ?_⟩, stops_dropWhile behind, nofun⟩
      · rw [numberText, List.append_assoc, List.cons_append, shape behind, ← point, shape s]
      · simpa [List.append_eq_nil_iff] using filled
  · rename_i point
    dsimp only at read
    split at read
    · cases read
    · rename_i filled
      simp only [Option.some.injEq, Prod.mk.injEq] at read
      obtain ⟨rfl, rfl, rfl⟩ := read
      refine ⟨(shape s).symm, ⟨digits s, List.forall_mem_nil _, ?_⟩, stops_dropWhile s, ?_⟩
      · simpa [List.append_eq_nil_iff] using filled
      · intro _ first
        obtain ⟨behind, same⟩ := List.head?_eq_some_iff.mp first
        exact point behind same

theorem readNumber?_append (parts : NumberParts Char.isDigit whole fraction)
    (stops : Stops fraction rest) :
    readNumber? (numberText whole fraction ++ rest) = some (whole, fraction, rest) := by
  obtain ⟨digits, point⟩ := stops
  cases fraction with
  | none =>
      have filled : whole.isEmpty = false := by
        rw [List.isEmpty_eq_false_iff, ← List.append_nil whole]
        exact parts.filled
      have front := takeWhile_append_of_stops parts.front digits
      have behind := dropWhile_append_of_stops parts.front digits
      unfold readNumber?
      rw [numberText, front, behind]
      split
      · exact absurd rfl (point rfl)
      · dsimp only
        rw [filled, if_neg Bool.false_ne_true]
  | some places =>
      have filled : (whole.isEmpty && places.isEmpty) = false := by
        simpa [List.append_eq_nil_iff] using parts.filled
      have pointed : ∀ c ∈ ('.' :: (places ++ rest)).head?, c.isDigit = false := by
        rintro c ⟨⟩
        rfl
      have front := takeWhile_append_of_stops parts.front pointed
      have behind := dropWhile_append_of_stops parts.front pointed
      have places := takeWhile_append_of_stops parts.back digits
      have last := dropWhile_append_of_stops parts.back digits
      rw [Option.getD_some] at places last
      rw [numberText, List.append_assoc, List.cons_append, readNumber?, behind, front]
      simp only [places, last, filled, Bool.false_eq_true, if_false]

theorem readNumber?_eq_some_iff : readNumber? s = some (whole, fraction, rest) ↔
    s = numberText whole fraction ++ rest ∧ NumberParts Char.isDigit whole fraction ∧
      Stops fraction rest := by
  refine ⟨parts_of_readNumber?, ?_⟩
  rintro ⟨rfl, parts, stops⟩
  exact readNumber?_append parts stops

end BatchJob.Text
