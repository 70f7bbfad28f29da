import BatchJob.Duration
import BatchJob.Proofs.Text.Digits
import Mathlib.Data.Set.List

set_option autoImplicit false

/-!
The notation of spans of time: numbers, each directly followed by a unit. A text is spelled by such
parts in one way at most, and its components are read off it exactly then.
-/

namespace BatchJob.Duration

open Text (IsNumber NumberParts numberText)

def units : List (List Char) :=
  [['n', 's'], ['u', 's'], ['\u00b5', 's'], ['\u03bc', 's'], ['m', 's'], ['s'], ['m'], ['h']]

/-- A text that is spelled by some numbers with their units and has nothing else in it. -/
structure Spells (digit : Char → Bool) (parts : List (List Char × List Char)) (text : List Char) :
    Prop where
  whole : parts.flatMap (fun part => part.1 ++ part.2) = text
  numbers : ∀ part ∈ parts, IsNumber digit part.1
  units : ∀ part ∈ parts, part.2 ∈ units

section

variable {digit : Char → Bool} {s : List Char} {part : List Char × List Char}
  {parts : List (List Char × List Char)}

theorem spells_nil_iff : Spells digit [] s ↔ s = [] := by
  constructor
  · exact fun spelled => spelled.whole.symm
  · rintro rfl
    exact ⟨rfl, List.forall_mem_nil _, List.forall_mem_nil _⟩

theorem spells_cons_iff : Spells digit (part :: parts) s ↔
    IsNumber digit part.1 ∧ part.2 ∈ units ∧
      ∃ rest, s = part.1 ++ part.2 ++ rest ∧ Spells digit parts rest := by
  constructor
  · rintro ⟨rfl, numbers, units⟩
    obtain ⟨number, others⟩ := List.forall_mem_cons.mp numbers
    obtain ⟨unit, more⟩ := List.forall_mem_cons.mp units
    exact ⟨number, unit, _, List.flatMap_cons, rfl, others, more⟩
  · rintro ⟨number, unit, rest, rfl, rfl, others, more⟩
    exact ⟨List.flatMap_cons, List.forall_mem_cons.mpr ⟨number, others⟩,
      List.forall_mem_cons.mpr ⟨unit, more⟩⟩

/-- What is spelled starts with a number. -/
theorem Spells.head (spelled : Spells digit parts s) :
    ∀ c ∈ s.head?, digit c = true ∨ c = '.' := by
  cases parts with
  | nil =>
      rw [spells_nil_iff.mp spelled]
      exact nofun
  | cons part parts =>
      obtain ⟨number, -, rest, rfl, -⟩ := spells_cons_iff.mp spelled
      obtain ⟨d, member, -⟩ := number.filled
      intro c first
      rw [List.append_assoc, List.head?_append,
        List.head?_eq_some_head (List.ne_nil_of_mem member)] at first
      cases first
      exact number.plain _ (List.head_mem _)

end

namespace Symbol

variable {s rest : List Char} {symbol : Symbol}

theorem mem_units_iff {unit : List Char} :
    unit ∈ units ↔ ∃ symbol : Symbol, symbol.text = unit := by
  constructor
  · intro member
    simp only [units, List.mem_cons, List.not_mem_nil, or_false] at member
    rcases member with rfl | rfl | rfl | rfl | rfl | rfl | rfl | rfl
    exacts [⟨ns, rfl⟩, ⟨us, rfl⟩, ⟨microSign, rfl⟩, ⟨greekMu, rfl⟩, ⟨ms, rfl⟩, ⟨.s, rfl⟩, ⟨m, rfl⟩,
      ⟨h, rfl⟩]
  · rintro ⟨symbol, rfl⟩
    cases symbol <;> decide

/-- No number starts or goes on with a letter of a unit. -/
theorem exists_head_text (symbol : Symbol) :
    ∃ c rest, symbol.text = c :: rest ∧ c.isDigit = false ∧ c ≠ '.' := by
  cases symbol <;> exact ⟨_, _, rfl, by decide, by decide⟩

/-- A unit is read exactly where it stands, but the unit `m` only where no `s` follows. -/
theorem read?_eq_some_iff : read? s = some (symbol, rest) ↔
    s = symbol.text ++ rest ∧ (symbol = m → rest.head? ≠ some 's') := by
  constructor
  · intro read
    unfold read? at read
    split at read
    all_goals cases read
    case h_7 behind double =>
      refine ⟨rfl, fun _ first => ?_⟩
      obtain ⟨others, shape⟩ := List.head?_eq_some_iff.mp first
      exact double others shape
    all_goals exact ⟨rfl, nofun⟩
  · rintro ⟨rfl, single⟩
    cases symbol
    case m =>
      change read? ('m' :: rest) = _
      unfold read?
      split
      case h_5 same =>
        cases same
        exact absurd rfl (single rfl)
      case h_7 same =>
        cases same
        rfl
      case h_9 other _ => exact absurd rfl (other rest)
      all_goals
        rename_i same
        cases same
    all_goals rfl

end Symbol

namespace Component

variable {s rest : List Char} {c : Component}

def number (c : Component) : List Char := numberText c.whole c.fraction

def Plain (c : Component) : Prop := NumberParts Char.isDigit c.whole c.fraction

theorem text_eq (c : Component) : c.text = c.number ++ c.symbol.text := by
  rw [text, number]
  cases c.fraction with
  | none => rw [List.append_nil, numberText]
  | some places => rfl

theorem Plain.isNumber (plain : c.Plain) : IsNumber Char.isDigit c.number :=
  NumberParts.isNumber plain rfl

/-- A component is read exactly where it stands, but the unit `m` only where no `s` follows. -/
theorem read?_eq_some_iff : read? s = some (c, rest) ↔
    s = c.text ++ rest ∧ c.Plain ∧ (c.symbol = .m → rest.head? ≠ some 's') := by
  constructor
  · intro read
    simp only [read?, Option.bind_eq_bind, Option.bind_eq_some_iff] at read
    obtain ⟨⟨whole, fraction, behind⟩, number, ⟨symbol, last⟩, unit, same⟩ := read
    cases same
    obtain ⟨rfl, parts, -⟩ := Text.readNumber?_eq_some_iff.mp number
    obtain ⟨rfl, single⟩ := Symbol.read?_eq_some_iff.mp unit
    refine ⟨?_, parts, single⟩
    rw [text_eq, List.append_assoc, Component.number]
  · rintro ⟨rfl, plain, single⟩
    obtain ⟨whole, fraction, symbol⟩ := c
    have stops : Text.Stops fraction (symbol.text ++ rest) := by
      obtain ⟨letter, others, shape, digit, other⟩ := symbol.exists_head_text
      rw [shape, List.cons_append]
      refine ⟨?_, fun _ point => other (Option.some.inj point)⟩
      rintro c ⟨⟩
      exact digit
    have number := Text.readNumber?_append plain stops
    have unit := Symbol.read?_eq_some_iff.mpr ⟨rfl, single⟩
    rw [text_eq, List.append_assoc, Component.number, read?, number]
    simp only [Option.bind_eq_bind, Option.bind_some, unit]

def part (c : Component) : List Char × List Char := (c.number, c.symbol.text)

end Component

section

variable {s : List Char} {c : Component} {cs : List Component}

theorem components?_eq_nil_iff : components? s = some [] ↔ s = [] := by
  rw [components?]
  split
  · rename_i empty
    exact iff_of_true rfl (List.isEmpty_iff.mp empty)
  · rename_i filled
    refine iff_of_false ?_ fun empty => filled (List.isEmpty_iff.mpr empty)
    split
    · rintro ⟨⟩
    · intro read
      obtain ⟨_, -, same⟩ := Option.map_eq_some_iff.mp read
      cases same

theorem components?_eq_cons_iff : components? s = some (c :: cs) ↔
    ∃ rest, Component.read? s = some (c, rest) ∧ components? rest = some cs := by
  rw [components?]
  split
  · rename_i empty
    rw [List.isEmpty_iff.mp empty]
    refine iff_of_false ?_ ?_
    · rintro ⟨⟩
    · rintro ⟨rest, ⟨⟩, -⟩
  · split
    · rename_i failed
      rw [failed]
      refine iff_of_false ?_ ?_
      · rintro ⟨⟩
      · rintro ⟨rest, ⟨⟩, -⟩
    · rename_i first rest read
      rw [read, Option.map_eq_some_iff]
      constructor
      · rintro ⟨others, later, same⟩
        cases same
        exact ⟨rest, rfl, later⟩
      · rintro ⟨_, same, later⟩
        cases same
        exact ⟨cs, later, rfl⟩

theorem spells_flatMap_text (plain : ∀ c ∈ cs, c.Plain) :
    Spells Char.isDigit (cs.map Component.part) (cs.flatMap Component.text) := by
  refine ⟨?_, ?_, ?_⟩
  · simp only [List.flatMap_map, Component.part, ← Component.text_eq]
  · rw [List.forall_mem_map]
    exact fun c member => (plain c member).isNumber
  · rw [List.forall_mem_map]
    exact fun c _ => Symbol.mem_units_iff.mpr ⟨c.symbol, rfl⟩

/-- Components are read off a text exactly if it is nothing but them. -/
theorem components?_eq_some_iff : components? s = some cs ↔
    cs.flatMap Component.text = s ∧ ∀ c ∈ cs, c.Plain := by
  induction cs generalizing s with
  | nil =>
      rw [components?_eq_nil_iff, List.flatMap_nil]
      exact ⟨fun empty => ⟨empty.symm, List.forall_mem_nil _⟩, fun whole => whole.1.symm⟩
  | cons c cs ih =>
      rw [components?_eq_cons_iff, List.flatMap_cons, List.forall_mem_cons]
      constructor
      · rintro ⟨rest, read, later⟩
        obtain ⟨rfl, plain, -⟩ := Component.read?_eq_some_iff.mp read
        obtain ⟨rfl, others⟩ := ih.mp later
        exact ⟨rfl, plain, others⟩
      · rintro ⟨rfl, plain, others⟩
        have single : (cs.flatMap Component.text).head? ≠ some 's' := by
          intro first
          have start := (spells_flatMap_text others).head 's' first
          revert start
          decide
        exact ⟨_, Component.read?_eq_some_iff.mpr ⟨rfl, plain, fun _ => single⟩,
          ih.mpr ⟨rfl, others⟩⟩

theorem spells_of_components? (read : components? s = some cs) :
    Spells Char.isDigit (cs.map Component.part) s := by
  obtain ⟨rfl, plain⟩ := components?_eq_some_iff.mp read
  exact spells_flatMap_text plain

theorem Spells.exists_components? {parts : List (List Char × List Char)}
    (spelled : Spells Char.isDigit parts s) :
    ∃ cs, components? s = some cs ∧ cs.map Component.part = parts := by
  have found : parts ∈ Set.range (List.map fun c : Subtype Component.Plain => c.val.part) := by
    rw [Set.range_list_map]
    intro part member
    obtain ⟨whole, fraction, number, plain⟩ := (spelled.numbers part member).exists_parts rfl
    obtain ⟨symbol, unit⟩ := Symbol.mem_units_iff.mp (spelled.units part member)
    exact ⟨⟨⟨whole, fraction, symbol⟩, plain⟩, Prod.ext number.symm unit⟩
  obtain ⟨cs, rfl⟩ := found
  refine ⟨cs.map Subtype.val, components?_eq_some_iff.mpr ⟨?_, ?_⟩, List.map_map⟩
  · have whole := spelled.whole
    simp only [List.flatMap_map, Component.part, ← Component.text_eq] at whole
    rw [List.flatMap_map, whole]
  · rw [List.forall_mem_map]
    exact fun c _ => c.property

/-- The components of a text are the parts that it is spelled by. -/
theorem spells_iff {parts : List (List Char × List Char)} : Spells Char.isDigit parts s ↔
    ∃ cs, components? s = some cs ∧ cs.map Component.part = parts := by
  refine ⟨Spells.exists_components?, ?_⟩
  rintro ⟨cs, read, rfl⟩
  exact spells_of_components? read

end

end BatchJob.Duration
