import BatchJob.Proofs.Json.Tokens

set_option autoImplicit false

/-!
Trees are read as they were printed, whatever the layout. The proof follows the tree; what carries
it is that a printed value is read with as much fuel as twice its length, and that what follows it
is never taken for a part of it.
-/

namespace BatchJob.Json

/-- A layout that puts nothing but blanks between the parts of a value. -/
structure Layout.Blank (layout : Layout) : Prop where
  lineBreak : ∀ level, (layout.lineBreak level).all isSpace = true
  afterColon : layout.afterColon.all isSpace = true

theorem blank_indented : Layout.indented.Blank where
  lineBreak level := by
    simp only [Layout.indented, List.all_cons, List.all_replicate, isSpace, beq_self_eq_true,
      Bool.or_true, Bool.true_or]
    split <;> rfl
  afterColon := rfl

theorem blank_compact : Layout.compact.Blank := ⟨fun _ => rfl, rfl⟩

/-- A value that is read as it is printed, on any level and before anything that ends a number. -/
def Legible (layout : Layout) (j : Json) : Prop :=
  ∀ level fuel rest, Stops rest → 2 * (print layout level j).length ≤ fuel →
    readValue? fuel (print layout level j ++ rest) = some (j, rest)

theorem stops_blank {blanks : List Char} (blank : blanks.all isSpace = true) {s : List Char}
    (stops : Stops s) : Stops (blanks ++ s) := by
  cases blanks with
  | nil => exact stops
  | cons c rest =>
      rw [List.all_cons, Bool.and_eq_true] at blank
      have space := blank.1
      simp only [isSpace, Bool.or_eq_true, beq_iff_eq] at space
      rcases space with ((rfl | rfl) | rfl) | rfl <;>
        exact stops_cons (by decide) (by decide) (by decide) (by decide) _

/-- Blanks before a value are passed over. -/
theorem readValue?_append {blanks : List Char} (blank : blanks.all isSpace = true) (fuel : Nat)
    (s : List Char) : readValue? fuel (blanks ++ s) = readValue? fuel s := by
  cases fuel with
  | zero => rfl
  | succ fuel => simp only [readValue?, skip_append blank]

theorem readItems?_blank {blanks : List Char} (blank : blanks.all isSpace = true) (fuel : Nat)
    (s : List Char) : readItems? fuel (blanks ++ s) = readItems? fuel s := by
  cases fuel with
  | zero => rfl
  | succ fuel => simp only [readItems?, readValue?_append blank]

theorem readMembers?_blank {blanks : List Char} (blank : blanks.all isSpace = true) (fuel : Nat)
    (s : List Char) : readMembers? fuel (blanks ++ s) = readMembers? fuel s := by
  cases fuel with
  | zero => rfl
  | succ fuel => simp only [readMembers?, skip_append blank]

theorem ne_of_isDigit {c x : Char} (digit : c.isDigit = true) (other : x.isDigit = false) :
    c ≠ x := by
  rintro rfl
  rw [other] at digit
  cases digit

theorem isSpace_of_isDigit {c : Char} (digit : c.isDigit = true) : isSpace c = false := by
  simp only [isSpace, Bool.or_eq_false_iff, beq_eq_false_iff_ne]
  exact ⟨⟨⟨ne_of_isDigit digit rfl, ne_of_isDigit digit rfl⟩, ne_of_isDigit digit rfl⟩,
    ne_of_isDigit digit rfl⟩

/-- A value that starts with a digit is a number. -/
theorem readValue?_of_isDigit {c : Char} (digit : c.isDigit = true) (fuel : Nat) (s : List Char) :
    readValue? (fuel + 1) (c :: s) =
      (readNumeral? false (c :: s)).map fun (n, rest) => (.number n, rest) := by
  have solid : skip (c :: s) = c :: s := skip_cons (isSpace_of_isDigit digit) s
  have other {x : Char} {rest : List Char} (different : x.isDigit = false)
      (same : c :: s = x :: rest) : False :=
    ne_of_isDigit digit different (List.head_eq_of_cons_eq same)
  rw [readValue?, solid]
  split
  · exact (other rfl ‹_›).elim
  · exact (other rfl ‹_›).elim
  · exact (other rfl ‹_›).elim
  · exact (other rfl ‹_›).elim
  · exact (other rfl ‹_›).elim
  · exact (other rfl ‹_›).elim
  · exact (other rfl ‹_›).elim
  · rfl

/-- A printed value starts with neither a blank nor a closing bracket. -/
theorem print_head (layout : Layout) (level : Nat) (j : Json) :
    ∃ c s, print layout level j = c :: s ∧ isSpace c = false ∧ c ≠ ']' := by
  match j with
  | .null => exact ⟨_, _, rfl, rfl, by decide⟩
  | .bool true => exact ⟨_, _, rfl, rfl, by decide⟩
  | .bool false => exact ⟨_, _, rfl, rfl, by decide⟩
  | .number n =>
      rw [print, printNumeral]
      by_cases negative : n.negative = true
      · exact ⟨'-', _, by rw [if_pos negative]; rfl, rfl, by decide⟩
      · rw [if_neg negative, List.nil_append]
        cases digits : Nat.toDigits 10 n.whole with
        | nil => exact absurd digits Nat.toDigits_ne_nil
        | cons c rest =>
            have digit := Text.isDigit_toDigits n.whole c (by rw [digits]; exact List.mem_cons_self)
            exact ⟨c, _, rfl, isSpace_of_isDigit digit, ne_of_isDigit digit rfl⟩
  | .string (some s) => exact ⟨_, _, rfl, rfl, by decide⟩
  | .string none => exact ⟨_, _, rfl, rfl, by decide⟩
  | .array [] => exact ⟨_, _, rfl, rfl, by decide⟩
  | .array (first :: rest) => exact ⟨_, _, rfl, rfl, by decide⟩
  | .object [] => exact ⟨_, _, rfl, rfl, by decide⟩
  | .object ((name, first) :: rest) => exact ⟨_, _, rfl, rfl, by decide⟩

/-- No blank stands before a printed value. -/
theorem skip_print (layout : Layout) (level : Nat) (j : Json) (rest : List Char) :
    skip (print layout level j ++ rest) = print layout level j ++ rest := by
  obtain ⟨c, s, opens, solid, -⟩ := print_head layout level j
  rw [opens, List.cons_append, skip_cons solid]

section

variable {fuel : Nat} {s rest later : List Char} {j : Json}

theorem readValue?_array (filled : (skip s).head? ≠ some ']') :
    readValue? (fuel + 1) ('[' :: s) =
      (readItems? fuel (skip s)).map fun (items, rest) => (.array items, rest) := by
  have opens : skip ('[' :: s) = '[' :: s := skip_cons rfl s
  simp only [readValue?, opens]
  split
  · rename_i rest empty
    rw [empty] at filled
    exact absurd rfl filled
  · rfl

theorem readValue?_object (filled : (skip s).head? ≠ some '\x7d') :
    readValue? (fuel + 1) ('\x7b' :: s) =
      (readMembers? fuel (skip s)).map fun (members, rest) => (.object members, rest) := by
  have opens : skip ('\x7b' :: s) = '\x7b' :: s := skip_cons rfl s
  simp only [readValue?, opens]
  split
  · rename_i rest empty
    rw [empty] at filled
    exact absurd rfl filled
  · rfl

theorem readItems?_last (read : readValue? fuel s = some (j, later))
    (ends : skip later = ']' :: rest) : readItems? (fuel + 1) s = some ([j], rest) := by
  simp only [readItems?, read, ends]

theorem readItems?_more (read : readValue? fuel s = some (j, later))
    (goesOn : skip later = ',' :: rest) :
    readItems? (fuel + 1) s =
      (readItems? fuel rest).map fun (items, rest) => (j :: items, rest) := by
  simp only [readItems?, read, goesOn]

end

section

variable {colon s rest later : List Char} {fuel : Nat} {j : Json}

theorem readMembers?_last (blank : colon.all isSpace = true) (name : Option String)
    (read : readValue? fuel s = some (j, later)) (ends : skip later = '\x7d' :: rest) :
    readMembers? (fuel + 1) (printText name ++ ':' :: (colon ++ s)) = some ([(name, j)], rest) := by
  obtain ⟨inner, opens, named⟩ := readText?_printText name (':' :: (colon ++ s))
  have start : skip ('"' :: (inner ++ ':' :: (colon ++ s))) =
      '"' :: (inner ++ ':' :: (colon ++ s)) := skip_cons rfl _
  have mark : skip (':' :: (colon ++ s)) = ':' :: (colon ++ s) := skip_cons rfl _
  rw [opens, List.cons_append]
  simp only [readMembers?, start, named, mark, readValue?_append blank, read, ends]

theorem readMembers?_more (blank : colon.all isSpace = true) (name : Option String)
    (read : readValue? fuel s = some (j, later)) (goesOn : skip later = ',' :: rest) :
    readMembers? (fuel + 1) (printText name ++ ':' :: (colon ++ s)) =
      (readMembers? fuel rest).map fun (ms, rest) => ((name, j) :: ms, rest) := by
  obtain ⟨inner, opens, named⟩ := readText?_printText name (':' :: (colon ++ s))
  have start : skip ('"' :: (inner ++ ':' :: (colon ++ s))) =
      '"' :: (inner ++ ':' :: (colon ++ s)) := skip_cons rfl _
  have mark : skip (':' :: (colon ++ s)) = ':' :: (colon ++ s) := skip_cons rfl _
  rw [opens, List.cons_append]
  simp only [readMembers?, start, named, mark, readValue?_append blank, read, goesOn]

end

section

variable {layout : Layout}

/-- The items of an array are read as they are printed. -/
theorem readItems?_print (blank : layout.Blank) (level fuel : Nat) (j : Json) (items : List Json)
    (rest : List Char) (all : ∀ i ∈ j :: items, Legible layout i)
    (enough : 2 * ((print layout (level + 1) j).length +
      (printItems layout level items).length) ≤ fuel) :
    readItems? fuel (print layout (level + 1) j ++ printItems layout level items ++ rest) =
      some (j :: items, rest) := by
  induction items generalizing j fuel with
  | nil =>
      have ends : skip (layout.lineBreak level ++ ']' :: rest) = ']' :: rest := by
        rw [skip_append (blank.lineBreak level), skip_cons rfl]
      have stops : Stops (layout.lineBreak level ++ ']' :: rest) :=
        stops_blank (blank.lineBreak level)
          (stops_cons (by decide) (by decide) (by decide) (by decide) rest)
      rw [printItems, List.length_append, List.length_singleton] at enough
      obtain ⟨fuel, rfl⟩ : ∃ f, fuel = f + 1 := ⟨fuel - 1, by omega⟩
      have read := all j List.mem_cons_self (level + 1) fuel _ stops (by omega)
      rw [printItems, List.append_assoc, List.append_assoc]
      exact readItems?_last read ends
  | cons next items ih =>
      have goesOn : skip (',' :: (layout.lineBreak (level + 1) ++ (print layout (level + 1) next ++
          printItems layout level items ++ rest))) = _ := skip_cons rfl _
      have stops : Stops (',' :: (layout.lineBreak (level + 1) ++ (print layout (level + 1) next ++
          printItems layout level items ++ rest))) :=
        stops_cons (by decide) (by decide) (by decide) (by decide) _
      have shape : print layout (level + 1) j ++ printItems layout level (next :: items) ++ rest =
          print layout (level + 1) j ++ ',' :: (layout.lineBreak (level + 1) ++
            (print layout (level + 1) next ++ printItems layout level items ++ rest)) := by
        simp only [printItems, List.append_assoc, List.cons_append]
      simp only [printItems, List.cons_append, List.length_cons, List.length_append] at enough
      obtain ⟨fuel, rfl⟩ : ∃ f, fuel = f + 1 := ⟨fuel - 1, by omega⟩
      have read := all j List.mem_cons_self (level + 1) fuel _ stops (by omega)
      have others := ih fuel next (fun i member => all i (List.mem_cons_of_mem j member)) (by omega)
      rw [shape, readItems?_more read goesOn, readItems?_blank (blank.lineBreak (level + 1)),
        others]
      rfl

theorem legible_null : Legible layout .null := by
  intro level fuel rest _ enough
  cases fuel with
  | zero => cases enough
  | succ fuel => rfl

theorem legible_bool (b : Bool) : Legible layout (.bool b) := by
  intro level fuel rest _ enough
  cases fuel with
  | zero => cases b <;> cases enough
  | succ fuel => cases b <;> rfl

theorem legible_nat (n : Nat) : Legible layout (.nat n) := by
  intro level fuel rest stops enough
  have shape : print layout level (.nat n) = Nat.toDigits 10 n := by
    simp only [print, nat, printNumeral, Numeral.ofNat, Bool.false_eq_true, if_false,
      List.nil_append, List.append_nil]
  have read := readNumeral?_toDigits n stops
  rw [shape] at enough ⊢
  cases digits : Nat.toDigits 10 n with
  | nil => exact absurd digits Nat.toDigits_ne_nil
  | cons c cs =>
      have digit := Text.isDigit_toDigits n c (by rw [digits]; exact List.mem_cons_self)
      rw [digits] at enough read
      cases fuel with
      | zero => cases enough
      | succ fuel =>
          rw [List.cons_append] at read ⊢
          rw [readValue?_of_isDigit digit, read]
          rfl

theorem legible_array (blank : layout.Blank) {items : List Json}
    (all : ∀ j ∈ items, Legible layout j) : Legible layout (.array items) := by
  intro level fuel rest _ enough
  cases items with
  | nil =>
      cases fuel with
      | zero => cases enough
      | succ fuel => rfl
  | cons first items =>
      have start : skip (layout.lineBreak (level + 1) ++ (print layout (level + 1) first ++
          printItems layout level items ++ rest)) =
            print layout (level + 1) first ++ printItems layout level items ++ rest := by
        rw [skip_append (blank.lineBreak (level + 1)), List.append_assoc, skip_print]
      have filled : (skip (layout.lineBreak (level + 1) ++ (print layout (level + 1) first ++
          printItems layout level items ++ rest))).head? ≠ some ']' := by
        obtain ⟨c, s, opens, -, different⟩ := print_head layout (level + 1) first
        rw [start, opens]
        exact fun same => different (Option.some.inj same)
      have shape : print layout level (.array (first :: items)) ++ rest =
          '[' :: (layout.lineBreak (level + 1) ++ (print layout (level + 1) first ++
            printItems layout level items ++ rest)) := by
        simp only [print, List.append_assoc, List.cons_append]
      simp only [print, List.cons_append, List.length_cons, List.length_append] at enough
      obtain ⟨fuel, rfl⟩ : ∃ f, fuel = f + 1 := ⟨fuel - 1, by omega⟩
      have read := readItems?_print blank level fuel first items rest all (by omega)
      rw [shape, readValue?_array filled, start, read]
      rfl

theorem legible_string (text : Option String) : Legible layout (.string text) := by
  intro level fuel rest _ enough
  obtain ⟨inner, opens, read⟩ := readText?_printText text rest
  rw [print, opens] at enough ⊢
  cases fuel with
  | zero => cases enough
  | succ fuel =>
      have start : skip ('"' :: (inner ++ rest)) = '"' :: (inner ++ rest) := skip_cons rfl _
      simp only [List.cons_append, readValue?, start, read, Option.map_some]

/-- The members of an object are read as they are printed. -/
theorem readMembers?_print (blank : layout.Blank) (level fuel : Nat) (name : Option String)
    (j : Json) (members : List (Option String × Json)) (rest : List Char)
    (all : ∀ m ∈ (name, j) :: members, Legible layout m.2)
    (enough : 2 * ((print layout (level + 1) j).length +
      (printMembers layout level members).length) ≤ fuel) :
    readMembers? fuel (printText name ++ ':' :: (layout.afterColon ++
      (print layout (level + 1) j ++ (printMembers layout level members ++ rest)))) =
        some ((name, j) :: members, rest) := by
  induction members generalizing name j fuel with
  | nil =>
      have ends : skip (layout.lineBreak level ++ '\x7d' :: rest) = '\x7d' :: rest := by
        rw [skip_append (blank.lineBreak level), skip_cons rfl]
      have stops : Stops (layout.lineBreak level ++ '\x7d' :: rest) :=
        stops_blank (blank.lineBreak level)
          (stops_cons (by decide) (by decide) (by decide) (by decide) rest)
      rw [printMembers, List.length_append, List.length_singleton] at enough
      obtain ⟨fuel, rfl⟩ : ∃ f, fuel = f + 1 := ⟨fuel - 1, by omega⟩
      have read := (all (name, j) List.mem_cons_self :) (level + 1) fuel _ stops (by grind)
      rw [printMembers, List.append_assoc]
      exact readMembers?_last blank.afterColon name read ends
  | cons next members ih =>
      obtain ⟨nextName, nextValue⟩ := next
      let others := printText nextName ++ ':' :: (layout.afterColon ++
        (print layout (level + 1) nextValue ++ (printMembers layout level members ++ rest)))
      have goesOn : skip (',' :: (layout.lineBreak (level + 1) ++ others)) = _ := skip_cons rfl _
      have stops : Stops (',' :: (layout.lineBreak (level + 1) ++ others)) :=
        stops_cons (by decide) (by decide) (by decide) (by decide) _
      have shape : printMembers layout level ((nextName, nextValue) :: members) ++ rest =
          ',' :: (layout.lineBreak (level + 1) ++ others) := by
        simp only [printMembers, List.append_assoc, List.cons_append, others]
      simp only [printMembers, List.cons_append, List.length_cons, List.length_append] at enough
      obtain ⟨fuel, rfl⟩ : ∃ f, fuel = f + 1 := ⟨fuel - 1, by omega⟩
      have read := (all (name, j) List.mem_cons_self :) (level + 1) fuel _ stops (by grind)
      have later := ih fuel nextName nextValue
        (fun m member => all m (List.mem_cons_of_mem _ member)) (by omega)
      rw [shape, readMembers?_more blank.afterColon name read goesOn,
        readMembers?_blank (blank.lineBreak (level + 1)), later]
      rfl

theorem legible_object (blank : layout.Blank) {members : List (Option String × Json)}
    (all : ∀ m ∈ members, Legible layout m.2) : Legible layout (.object members) := by
  intro level fuel rest _ enough
  cases members with
  | nil =>
      cases fuel with
      | zero => cases enough
      | succ fuel => rfl
  | cons first members =>
      obtain ⟨name, j⟩ := first
      obtain ⟨inner, opens, -⟩ := readText?_printText name []
      let body := printText name ++ ':' :: (layout.afterColon ++
        (print layout (level + 1) j ++ (printMembers layout level members ++ rest)))
      have start : skip (layout.lineBreak (level + 1) ++ body) = body := by
        rw [skip_append (blank.lineBreak (level + 1))]
        simp only [body, opens, List.cons_append]
        exact skip_cons rfl _
      have filled : (skip (layout.lineBreak (level + 1) ++ body)).head? ≠ some '\x7d' := by
        rw [start]
        simp only [body, opens, List.cons_append, List.head?_cons]
        decide
      have shape : print layout level (.object ((name, j) :: members)) ++ rest =
          '\x7b' :: (layout.lineBreak (level + 1) ++ body) := by
        simp only [print, List.append_assoc, List.cons_append, body]
      simp only [print, List.cons_append, List.length_cons, List.length_append] at enough
      obtain ⟨fuel, rfl⟩ : ∃ f, fuel = f + 1 := ⟨fuel - 1, by omega⟩
      have read := readMembers?_print blank level fuel name j members rest all (by omega)
      rw [shape, readValue?_object filled, start, read]
      rfl

end

/-- Every value is read as it was printed, whatever blanks follow it. -/
theorem parse?_append_of_legible {layout : Layout} {j : Json} (legible : Legible layout j)
    {blanks : List Char} (blank : blanks.all isSpace = true) :
    parse? (String.ofList (print layout 0 j ++ blanks)) = some j := by
  have stops : Stops blanks := by
    have ends := stops_blank blank stops_nil
    rwa [List.append_nil] at ends
  have passes : skip blanks = [] := by
    have passed := skip_append blank []
    rwa [List.append_nil] at passed
  have read := legible 0 (2 * (print layout 0 j ++ blanks).length + 1) blanks stops (by
    rw [List.length_append]
    omega)
  simp only [parse?, String.toList_ofList, read, passes, List.isEmpty_nil, if_true]

/-- Every value is read as it was printed. -/
theorem parse?_of_legible {layout : Layout} {j : Json} (legible : Legible layout j) :
    parse? (String.ofList (print layout 0 j)) = some j := by
  have read := @parse?_append_of_legible layout j legible [] rfl
  rwa [List.append_nil] at read

end BatchJob.Json
