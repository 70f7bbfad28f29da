import BatchJob.Decimal
import BatchJob.Proofs.Duration.Spelling
import BatchJob.Proofs.Text.Characters
import BatchJob.Proofs.Text.Pattern

set_option autoImplicit false

/-!
The same notation by patterns, with digits of any script: a text has to match as a whole, then its
components are looked for one after the other, and then their numbers are read. That takes apart the
texts that are spelled in decimal digits, as they are spelled, and no others.
-/

namespace BatchJob.Duration

open Text (IsNumber NumberParts numberText Pattern)

/-- Characters that count as digits: those of ASCII, perhaps others beyond it, but no unit. -/
structure DigitKind (digit : Char → Bool) : Prop where
  ascii : ∀ c : Char, c.toNat < 0x80 → digit c = c.isDigit
  microSign : digit '\u00b5' = false
  greekMu : digit '\u03bc' = false

example : DigitKind Char.isDigit := ⟨fun _ _ => rfl, rfl, rfl⟩

/-- What a number looks like: digits, perhaps with a point and digits behind it, or a point and
digits. -/
def numberPattern (digit : Char → Bool) : Pattern :=
  .either
    (.sequence (.filled digit) (.optional (.sequence (.words [['.']]) (.many digit))))
    (.sequence (.words [['.']]) (.filled digit))

def unitPattern : Pattern := .words units

/-- Whether a text is nothing but components, and at least one. -/
def Matches (digit : Char → Bool) (text : List Char) : Prop :=
  ∃ pieces : List (List Char), pieces ≠ [] ∧ pieces.flatten = text ∧
    ∀ piece ∈ pieces, (Pattern.sequence (numberPattern digit) unitPattern).Accepts piece

def capture? (digit : Char → Bool) (s : List Char) :
    Option ((List Char × List Char) × List Char) :=
  (Pattern.pairs (numberPattern digit) unitPattern s).head?

variable {digit : Char → Bool} {s text number unit rest : List Char}

theorem of_capture? {part : List Char × List Char} (found : capture? digit s = some (part, rest)) :
    s = part.1 ++ part.2 ++ rest ∧ (numberPattern digit).Accepts part.1 ∧ part.2 ∈ units :=
  Pattern.mem_pairs_iff.mp (List.mem_of_head? found)

theorem unit_ne_nil (member : unit ∈ units) : unit ≠ [] := by
  rintro rfl
  revert member
  decide

theorem length_lt_of_capture? {part : List Char × List Char}
    (found : capture? digit s = some (part, rest)) : rest.length < s.length := by
  obtain ⟨rfl, -, unit⟩ := of_capture? found
  have filled := List.length_pos_iff.mpr (unit_ne_nil unit)
  rw [List.length_append, List.length_append]
  omega

/-- The components that are found in a text from the front to the end. Where none is found the
search goes on one character later. -/
def captures (digit : Char → Bool) (s : List Char) : List (List Char × List Char) :=
  match s with
  | [] => []
  | c :: s =>
    match _h : capture? digit (c :: s) with
    | some (part, rest) => part :: captures digit rest
    | none => captures digit s
termination_by s.length
decreasing_by
  · exact length_lt_of_capture? _h
  · exact Nat.lt_succ_self _

theorem accepts_filled_iff : (Pattern.filled digit).Accepts text ↔
    text ≠ [] ∧ ∀ c ∈ text, digit c = true := by
  constructor
  · rintro ⟨_, back, rfl, ⟨c, known, rfl⟩, others⟩
    exact ⟨List.cons_ne_nil c back, List.forall_mem_cons.mpr ⟨known, others⟩⟩
  · rintro ⟨filled, all⟩
    cases text with
    | nil => exact absurd rfl filled
    | cons c rest =>
        obtain ⟨known, others⟩ := List.forall_mem_cons.mp all
        exact ⟨[c], rest, rfl, ⟨c, known, rfl⟩, others⟩

theorem accepts_numberPattern_iff : (numberPattern digit).Accepts text ↔
    ∃ whole fraction, text = numberText whole fraction ∧ NumberParts digit whole fraction := by
  constructor
  · rintro (⟨whole, _, rfl, front, ⟨_, places, rfl, point, back⟩ | nothing⟩ |
      ⟨_, places, rfl, point, back⟩)
    · obtain ⟨filled, all⟩ := accepts_filled_iff.mp front
      cases List.mem_singleton.mp point
      exact ⟨whole, some places, rfl, all, back, List.append_ne_nil_of_left_ne_nil filled _⟩
    · obtain ⟨filled, all⟩ := accepts_filled_iff.mp front
      cases List.mem_singleton.mp nothing
      exact ⟨whole, none, List.append_nil whole, all, List.forall_mem_nil _,
        List.append_ne_nil_of_left_ne_nil filled _⟩
    · obtain ⟨filled, all⟩ := accepts_filled_iff.mp back
      cases List.mem_singleton.mp point
      exact ⟨[], some places, rfl, List.forall_mem_nil _, all, filled⟩
  · rintro ⟨whole, fraction, rfl, parts⟩
    have point : (Pattern.words [['.']]).Accepts ['.'] := List.mem_singleton_self _
    cases fraction with
    | none =>
        have filled : whole ≠ [] := by
          rw [← List.append_nil whole]
          exact parts.filled
        exact .inl ⟨whole, [], (List.append_nil whole).symm,
          accepts_filled_iff.mpr ⟨filled, parts.front⟩, .inr (List.mem_singleton_self _)⟩
    | some places =>
        cases whole with
        | nil =>
            exact .inr ⟨['.'], places, rfl, point,
              accepts_filled_iff.mpr ⟨parts.filled, parts.back⟩⟩
        | cons c whole =>
            exact .inl ⟨c :: whole, '.' :: places, rfl,
              accepts_filled_iff.mpr ⟨List.cons_ne_nil c whole, parts.front⟩,
              .inl ⟨['.'], places, rfl, point, parts.back⟩⟩

theorem DigitKind.point (kind : DigitKind digit) : digit '.' = false :=
  kind.ascii '.' (by decide)

theorem DigitKind.accepts_iff (kind : DigitKind digit) :
    (numberPattern digit).Accepts text ↔ IsNumber digit text :=
  accepts_numberPattern_iff.trans (Text.isNumber_iff kind.point).symm

/-- No number starts or goes on with a letter of a unit. -/
theorem DigitKind.exists_head_unit (kind : DigitKind digit) (member : unit ∈ units) :
    ∃ c rest, unit = c :: rest ∧ digit c = false ∧ c ≠ '.' := by
  have letter {c : Char} (below : c.toNat < 0x80) (plain : c.isDigit = false) : digit c = false :=
    (kind.ascii c below).trans plain
  simp only [units, List.mem_cons, List.not_mem_nil, or_false] at member
  rcases member with rfl | rfl | rfl | rfl | rfl | rfl | rfl | rfl
  case inr.inr.inl => exact ⟨_, _, rfl, kind.microSign, by decide⟩
  case inr.inr.inr.inl => exact ⟨_, _, rfl, kind.greekMu, by decide⟩
  all_goals exact ⟨_, _, rfl, letter (by decide) (by decide), by decide⟩

/-- Of the units, the one that stands there is tried before any other that would fit. -/
theorem head?_ways_unitPattern (member : unit ∈ units) (single : rest.head? ≠ some 's') :
    (unitPattern.ways (unit ++ rest)).head? = some (unit, rest) := by
  simp only [units, List.mem_cons, List.not_mem_nil, or_false] at member
  rcases member with rfl | rfl | rfl | rfl | rfl | rfl | rfl | rfl
  case inr.inr.inr.inr.inr.inr.inl =>
    cases rest with
    | nil => rfl
    | cons c rest =>
        have other : ('s' == c) = false := by
          rw [beq_eq_false_iff_ne]
          rintro rfl
          exact single rfl
        have double : ['m', 's'].isPrefixOf ('m' :: c :: rest) = false := by
          rw [List.isPrefixOf_cons_cons, List.isPrefixOf_cons_cons, other, Bool.false_and,
            Bool.and_false]
        rw [unitPattern, Pattern.ways, List.head?_filterMap, units, List.singleton_append]
        simp only [List.findSome?_cons, double]
        rfl
  all_goals rfl

section

variable (kind : DigitKind digit)

include kind

/-- A number ends where the first letter of its unit stands. -/
theorem DigitKind.takeWhile_number (isNumber : IsNumber digit number) (member : unit ∈ units) :
    (number ++ (unit ++ rest)).takeWhile (fun c => digit c || c == '.') = number := by
  apply Text.takeWhile_append_of_stops
  · intro c within
    rw [Bool.or_eq_true, beq_iff_eq]
    exact isNumber.plain c within
  · obtain ⟨letter, others, rfl, other, unpointed⟩ := kind.exists_head_unit member
    rintro c ⟨⟩
    rw [other, Bool.false_or, beq_eq_false_iff_ne]
    exact unpointed

/-- Where a number and a unit stand they are captured, if what follows is no letter. -/
theorem DigitKind.capture?_append (isNumber : IsNumber digit number) (member : unit ∈ units)
    (behind : ∀ c ∈ rest.head?, digit c = true ∨ c = '.') :
    capture? digit (number ++ unit ++ rest) = some ((number, unit), rest) := by
  rw [List.append_assoc]
  have stands : (number, unit ++ rest) ∈ (numberPattern digit).ways (number ++ (unit ++ rest)) :=
    Pattern.mem_ways_iff.mpr ⟨rfl, kind.accepts_iff.mpr isNumber⟩
  have single : rest.head? ≠ some 's' := by
    intro first
    rcases behind 's' first with known | point
    · exact Bool.false_ne_true ((kind.ascii 's' (by decide)).symm.trans known)
    · exact absurd point (by decide)
  refine Pattern.head?_pairs_of_only stands ?_ (head?_ways_unitPattern member single)
  rintro ⟨front, remains⟩ within
  obtain ⟨same, accepted⟩ := Pattern.mem_ways_iff.mp within
  by_cases stuck : unitPattern.ways remains = []
  · exact .inr stuck
  · obtain ⟨⟨next, last⟩, goes⟩ := List.exists_mem_of_ne_nil _ stuck
    obtain ⟨rfl, letters⟩ := Pattern.mem_ways_iff.mp goes
    have ends := congrArg (List.takeWhile fun c => digit c || c == '.') same
    rw [kind.takeWhile_number isNumber member,
      kind.takeWhile_number (kind.accepts_iff.mp accepted) letters] at ends
    subst ends
    rw [List.append_cancel_left same]
    exact .inl rfl

omit kind in
theorem captures_of_capture? {part : List Char × List Char}
    (found : capture? digit s = some (part, rest)) :
    captures digit s = part :: captures digit rest := by
  cases s with
  | nil => exact absurd (length_lt_of_capture? found) (Nat.not_lt_zero _)
  | cons c s =>
      rw [captures]
      split
      · rename_i same
        rw [found] at same
        cases same
        rfl
      · rename_i failed
        rw [found] at failed
        cases failed

/-- In a text that is spelled the search finds the parts it is spelled by, and skips nothing. -/
theorem DigitKind.captures_of_spells {parts : List (List Char × List Char)}
    (spelled : Spells digit parts s) : captures digit s = parts := by
  induction parts generalizing s with
  | nil =>
      rw [spells_nil_iff.mp spelled, captures]
  | cons part parts ih =>
      obtain ⟨number, unit, rest, rfl, later⟩ := spells_cons_iff.mp spelled
      rw [captures_of_capture? (kind.capture?_append number unit later.head), ih later]

example : captures Char.isDigit "1.h2ms.5m".toList =
    [("1.".toList, ['h']), (['2'], ['m', 's']), (".5".toList, ['m'])] := by
  cbv

theorem DigitKind.matches_iff : Matches digit s ↔ ∃ parts, parts ≠ [] ∧ Spells digit parts s := by
  constructor
  · rintro ⟨pieces, filled, rfl, accepted⟩
    have found : pieces ∈ Set.range (List.map fun part :
        { part : List Char × List Char // IsNumber digit part.1 ∧ part.2 ∈ units } =>
          part.val.1 ++ part.val.2) := by
      rw [Set.range_list_map]
      intro piece member
      obtain ⟨number, unit, rfl, looks, known⟩ := accepted piece member
      exact ⟨⟨(number, unit), kind.accepts_iff.mp looks, known⟩, rfl⟩
    obtain ⟨parts, rfl⟩ := found
    refine ⟨parts.map Subtype.val, ?_, ?_, ?_, ?_⟩
    · rintro nothing
      rw [List.map_eq_nil_iff.mp nothing] at filled
      exact filled rfl
    · rw [List.flatMap_map, List.flatMap_def]
    · rw [List.forall_mem_map]
      exact fun part _ => part.property.1
    · rw [List.forall_mem_map]
      exact fun part _ => part.property.2
  · rintro ⟨parts, filled, rfl, numbers, units⟩
    refine ⟨parts.map fun part => part.1 ++ part.2, ?_, List.flatMap_def.symm, ?_⟩
    · exact fun nothing => filled (List.map_eq_nil_iff.mp nothing)
    · rw [List.forall_mem_map]
      exact fun part member => ⟨part.1, part.2, rfl, kind.accepts_iff.mpr (numbers part member),
        units part member⟩

/-- What stands in a number is no other character of ASCII than a digit or a point. -/
theorem DigitKind.ne_of_known {c d : Char} (known : digit c = true ∨ c = '.')
    (below : d.toNat < 0x80) (plain : d.isDigit = false) (unpointed : d ≠ '.') : c ≠ d := by
  rintro rfl
  rcases known with known | point
  · rw [kind.ascii c below, plain] at known
    cases known
  · exact unpointed point

theorem DigitKind.toLower_of_known {c : Char} (known : digit c = true ∨ c = '.') :
    c.toLower = c := by
  apply dif_neg
  rintro ⟨first, last⟩
  have above : 65 ≤ c.toNat := first
  have below : c.toNat ≤ 90 := last
  refine kind.ne_of_known known (by omega) ?_ ?_ rfl
  · refine Bool.eq_false_iff.mpr fun decimal => ?_
    have bounds := Text.toNat_of_isDigit decimal
    omega
  · rintro rfl
    revert above
    decide

/-- A number has no sign and is none of the words for infinity and for no number. -/
theorem DigitKind.ofText?_eq (isNumber : IsNumber digit number) :
    Decimal.ofText? number = (Decimal.magnitude? number).map (.number false) := by
  obtain ⟨d, member, -⟩ := isNumber.filled
  cases number with
  | nil => cases member
  | cons c others =>
      have known := isNumber.plain c List.mem_cons_self
      have minus : c ≠ '-' := kind.ne_of_known known (by decide) (by decide) (by decide)
      have plus : c ≠ '+' := kind.ne_of_known known (by decide) (by decide) (by decide)
      have infinite : c ≠ 'i' := kind.ne_of_known known (by decide) (by decide) (by decide)
      have nothing : c ≠ 'n' := kind.ne_of_known known (by decide) (by decide) (by decide)
      have word {w : String} (starts : w.toList.head? ≠ some c) :
          String.ofList ((c :: others).map Char.toLower) ≠ w := by
        rintro rfl
        apply starts
        rw [String.toList_ofList, List.map_cons, List.head?_cons, kind.toLower_of_known known]
      have short := word (w := "inf") fun first => infinite (Option.some.inj first).symm
      have long := word (w := "infinity") fun first => infinite (Option.some.inj first).symm
      have nan := word (w := "nan") fun first => nothing (Option.some.inj first).symm
      simp only [Decimal.ofText?, List.head?_cons, Option.some.injEq, minus, plus, decide_false,
        Bool.or_self, Bool.false_eq_true, if_false, short, long, nan]

/-- Of the digits only those of ASCII have a value, so a number is read if it has no others. -/
theorem DigitKind.isSome_ofText?_iff (isNumber : IsNumber digit number) :
    (Decimal.ofText? number).isSome = true ↔ IsNumber Char.isDigit number := by
  rw [kind.ofText?_eq isNumber, Option.isSome_map]
  constructor
  · intro read
    obtain ⟨value, read⟩ := Option.isSome_iff_exists.mp read
    simp only [Decimal.magnitude?, Option.bind_eq_bind, Option.bind_eq_some_iff] at read
    obtain ⟨⟨whole, fraction, behind⟩, digits, power, nothing, -⟩ := read
    obtain ⟨rfl, parts, -⟩ := Text.parts_of_readNumber? digits
    cases behind with
    | nil =>
        rw [List.append_nil]
        exact parts.isNumber rfl
    | cons c others =>
        have known := isNumber.plain c (List.mem_append_right _ List.mem_cons_self)
        have lower : c ≠ 'e' := kind.ne_of_known known (by decide) (by decide) (by decide)
        have upper : c ≠ 'E' := kind.ne_of_known known (by decide) (by decide) (by decide)
        simp only [Decimal.power?, lower, upper, decide_false, Bool.or_self, Bool.false_eq_true,
          if_false, reduceCtorEq] at nothing
  · intro decimal
    obtain ⟨whole, fraction, rfl, parts⟩ := decimal.exists_parts rfl
    have ends : Text.Stops fraction [] := Text.stops_nil fraction
    have digits := Text.readNumber?_append parts ends
    rw [List.append_nil] at digits
    rw [Decimal.magnitude?, digits]
    rfl

end

/-- The parts that are found in a text by the patterns: it matches as a whole, its components are
these, and their numbers can be read. -/
structure Found (digit : Char → Bool) (parts : List (List Char × List Char)) (text : List Char) :
    Prop where
  matched : Matches digit text
  captured : captures digit text = parts
  readable : ∀ part ∈ parts, (Decimal.ofText? part.1).isSome = true

/-- More characters may count as digits. -/
theorem DigitKind.spells_of_decimal (kind : DigitKind digit)
    {parts : List (List Char × List Char)} (spelled : Spells Char.isDigit parts s) :
    Spells digit parts s := by
  have counts {c : Char} (decimal : c.isDigit = true) : digit c = true := by
    have bounds := Text.toNat_of_isDigit decimal
    rw [kind.ascii c (by omega), decimal]
  refine ⟨spelled.whole, fun part member => ?_, spelled.units⟩
  obtain ⟨plain, point, c, within, decimal⟩ := spelled.numbers part member
  exact ⟨fun c within => (plain c within).imp_left counts, point, c, within, counts decimal⟩

/-- By the patterns, whatever counts as a digit, the texts are taken apart that are spelled in
decimal digits, and as they are spelled. -/
theorem DigitKind.found_iff (kind : DigitKind digit) {parts : List (List Char × List Char)} :
    Found digit parts s ↔ parts ≠ [] ∧ Spells Char.isDigit parts s := by
  constructor
  · rintro ⟨matched, captured, readable⟩
    obtain ⟨_, filled, spelled⟩ := kind.matches_iff.mp matched
    rw [kind.captures_of_spells spelled] at captured
    subst captured
    exact ⟨filled, spelled.whole, fun part member =>
      (kind.isSome_ofText?_iff (spelled.numbers part member)).mp (readable part member),
      spelled.units⟩
  · rintro ⟨filled, decimal⟩
    have spelled := kind.spells_of_decimal decimal
    exact ⟨kind.matches_iff.mpr ⟨parts, filled, spelled⟩, kind.captures_of_spells spelled,
      fun part member => (kind.isSome_ofText?_iff (spelled.numbers part member)).mpr
        (decimal.numbers part member)⟩

/-- A text that is taken apart into components: it is spelled by them and by nothing else, and they
are found by the patterns, whatever counts as a digit. -/
structure TakenApart (s : List Char) (cs : List Component) : Prop where
  read : components? s = some cs
  filled : cs ≠ []
  spelled : Spells Char.isDigit (cs.map Component.part) s
  only : ∀ parts, Spells Char.isDigit parts s → parts = cs.map Component.part
  found : ∀ digit, DigitKind digit → Found digit (cs.map Component.part) s

theorem takenApart_of_components? {cs : List Component} (read : components? s = some cs)
    (filled : cs ≠ []) : TakenApart s cs := by
  have spelled := spells_of_components? read
  have nonempty : cs.map Component.part ≠ [] :=
    fun nothing => filled (List.map_eq_nil_iff.mp nothing)
  refine ⟨read, filled, spelled, ?_, fun digit kind => kind.found_iff.mpr ⟨nonempty, spelled⟩⟩
  intro parts other
  obtain ⟨others, again, rfl⟩ := spells_iff.mp other
  rw [read] at again
  cases again
  rfl

/-- How a text without blanks around it is read: as zero if it is the digit zero, as the sum of the
components it is taken apart into, or not at all. -/
inductive Reading (s : List Char) : Except DurationFault Duration → Prop where
  | zero (bare : s = ['0']) : Reading s (.ok .zero)
  | sum {cs : List Component} {d : Duration} (other : s ≠ ['0']) (apart : TakenApart s cs)
      (added : ofComponents? cs = some d) : Reading s (.ok d)
  | outOfRange {cs : List Component} (other : s ≠ ['0']) (apart : TakenApart s cs)
      (beyond : ofComponents? cs = none) : Reading s (.error (.outOfRange s))
  | malformed (other : s ≠ ['0'])
      (unspelled : ∀ parts, parts ≠ [] → ¬ Spells Char.isDigit parts s)
      (unfound : ∀ digit, DigitKind digit → ∀ parts, ¬ Found digit parts s) :
      Reading s (.error (.malformed s))

/-- Every text is read in one of these ways. -/
theorem reading_of_parse (text : List Char) : Reading (Text.trim text) (parse text) := by
  unfold parse
  generalize Text.trim text = s
  dsimp only
  split
  · rename_i bare
    exact .zero bare
  · rename_i other
    have refused (unread : ∀ cs, components? s = some cs → cs = []) :
        Reading s (.error (.malformed s)) := by
      have unspelled : ∀ parts, parts ≠ [] → ¬ Spells Char.isDigit parts s := by
        intro parts filled spelled
        obtain ⟨cs, read, rfl⟩ := spells_iff.mp spelled
        exact filled (List.map_eq_nil_iff.mpr (unread cs read))
      refine .malformed other unspelled fun digit kind parts found => ?_
      obtain ⟨filled, spelled⟩ := kind.found_iff.mp found
      exact unspelled parts filled spelled
    split
    · rename_i unread
      refine refused fun cs read => ?_
      rw [unread] at read
      cases read
    · rename_i nothing
      refine refused fun cs read => ?_
      rw [nothing] at read
      cases read
      rfl
    · rename_i cs filled read
      have apart := takenApart_of_components? read filled
      cases added : ofComponents? cs with
      | none => exact .outOfRange other apart added
      | some d => exact .sum other apart added

end BatchJob.Duration
