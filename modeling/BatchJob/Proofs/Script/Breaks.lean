import BatchJob.Proofs.Script.Lines

set_option autoImplicit false

/-!
A line of a script may be broken anywhere, behind a backslash. The script is read as before, but for
the numbers of the lines behind the break.
-/

namespace BatchJob.Script

theorem continued?_append {front : List Char} (bare : front.getLast? ≠ some '\\')
    (line : List Char) : continued? (front ++ line) = (continued? line).map (front ++ ·) := by
  rcases List.eq_nil_or_concat line with rfl | ⟨start, c, rfl⟩
  · rw [List.append_nil, continued?, if_neg bare]
    rfl
  · rw [List.concat_eq_append]
    unfold continued?
    rw [← List.append_assoc, List.getLast?_concat, List.getLast?_concat]
    split
    · rw [List.dropLast_concat, List.dropLast_concat]
      rfl
    · rfl

theorem continued?_concat (front : List Char) : continued? (front ++ ['\\']) = some front := by
  rw [continued?, List.getLast?_concat, if_pos rfl, List.dropLast_concat]

/-- What is left open may as well stand at the front of the line that goes on with it. -/
theorem logicalLines_pending {front : List Char} (bare : front.getLast? ≠ some '\\') (number : Nat)
    (pending first : List Char) (rest : List (List Char)) :
    logicalLines number (pending ++ front) (first :: rest) =
      logicalLines number pending ((front ++ first) :: rest) := by
  rw [logicalLines, logicalLines, continued?_append bare]
  cases continued? first with
  | none =>
      dsimp only [Option.map_none]
      rw [List.append_assoc]
  | some start =>
      dsimp only [Option.map_some]
      rw [List.append_assoc]

/-- A broken line makes one line more, and nothing else of it. -/
theorem logicalLines_broken_cons {front : List Char} (bare : front.getLast? ≠ some '\\')
    (number : Nat) (pending first : List Char) (rest : List (List Char)) :
    logicalLines number pending ((front ++ ['\\']) :: first :: rest) =
      (logicalLines number pending ((front ++ first) :: rest)).map fun line =>
        (line.1 + 1, line.2) := by
  rw [logicalLines, continued?_concat]
  dsimp only
  rw [logicalLines_add, logicalLines_pending bare]

/-- No logical line is completed before the lines that it is made of. -/
theorem le_of_mem_logicalLines {number n : Nat} {pending text : List Char}
    {lines : List (List Char)} (member : (n, text) ∈ logicalLines number pending lines) :
    number ≤ n := by
  induction lines generalizing number pending with
  | nil =>
      rw [logicalLines] at member
      split at member
      · cases member
      · exact Nat.le_of_eq (congrArg Prod.fst (List.mem_singleton.mp member)).symm
  | cons line rest ih =>
      rcases eq_or_mem_of_mem_cons member with same | ⟨left, within⟩
      · omega
      · exact Nat.le_of_succ_le (ih within)

theorem lt_of_mem_logicalLines {number n : Nat} {pending line text : List Char}
    {lines : List (List Char)} (member : (n, text) ∈ logicalLines number pending (line :: lines)) :
    number < n := by
  rcases eq_or_mem_of_mem_cons member with same | ⟨left, within⟩
  · omega
  · exact le_of_mem_logicalLines within

/-- A break divides the logical lines into those that are completed before it, which stay as they
are, and those that are completed behind it, which come one line later. -/
theorem logicalLines_broken {front back : List Char} (noBackslash : front.getLast? ≠ some '\\')
    (noReturn : front.getLast? ≠ some '\r') (filled : back ≠ []) (number : Nat)
    (pending : List Char) :
    ∃ early late,
      logicalLines number pending (Text.lines (front ++ back)) = early ++ late ∧
      logicalLines number pending (Text.lines (front ++ '\\' :: '\n' :: back)) =
        early ++ late.map (fun line => (line.1 + 1, line.2)) ∧
      (∀ line ∈ early, line.1 ≤ number + front.count '\n') ∧
      ∀ line ∈ late, number + front.count '\n' < line.1 := by
  -- The induction is on the lines that end before the break; the last case is the broken line.
  induction front using Text.lines_induction generalizing number pending with
  | last front unbroken =>
      obtain ⟨first, rest, whole, joined⟩ := Text.lines_beside unbroken noReturn filled
      have visible : '\n' ∉ front ++ ['\\'] := List.not_mem_append unbroken (by decide)
      have parts : Text.lines (front ++ '\\' :: '\n' :: back) =
          (front ++ ['\\']) :: first :: rest := by
        rw [List.append_cons, Text.lines_cons visible, Text.chomp_append noReturn, whole]
        rfl
      refine ⟨[], _, rfl, ?_, fun _ none => absurd none List.not_mem_nil, fun line member => ?_⟩
      · rw [parts, joined, logicalLines_broken_cons noBackslash]
        rfl
      · rw [joined] at member
        rw [List.count_eq_zero_of_not_mem unbroken]
        exact lt_of_mem_logicalLines member
  | more piece front unbroken ih =>
      have ends {c : Char} (other : (piece ++ '\n' :: front).getLast? ≠ some c) :
          front.getLast? ≠ some c := by
        intro last
        rw [List.getLast?_append, List.getLast?_cons, last] at other
        exact other rfl
      have count : number + (piece ++ '\n' :: front).count '\n' =
          number + 1 + front.count '\n' := by
        rw [List.count_append, List.count_eq_zero_of_not_mem unbroken, List.count_cons_self]
        omega
      have lines (text : List Char) : Text.lines (piece ++ '\n' :: front ++ text) =
          Text.chomp piece :: Text.lines (front ++ text) := by
        rw [List.append_assoc, List.cons_append, Text.lines_cons unbroken]
      rw [lines, lines, count, logicalLines, logicalLines]
      cases continued? (Text.chomp piece) with
      | some start => exact ih (ends noBackslash) (ends noReturn) (number + 1) (pending ++ start)
      | none =>
          obtain ⟨early, late, whole, broken, before, behind⟩ :=
            ih (ends noBackslash) (ends noReturn) (number + 1) []
          refine ⟨(number + 1, pending ++ Text.chomp piece) :: early, late, ?_, ?_, ?_, behind⟩
          · dsimp only
            rw [whole, List.cons_append]
          · dsimp only
            rw [broken, List.cons_append]
          · intro line member
            rcases List.mem_cons.mp member with rfl | member
            · exact Nat.le_add_right _ _
            · exact before line member

def ParseError.pastBreak (e : ParseError) (breaks : Nat) : ParseError :=
  { e with line := e.line.map fun number => if number ≤ breaks then number else number + 1 }

theorem parse_broken_eq (images : Images) {front back : List Char}
    (noBackslash : front.getLast? ≠ some '\\') (noReturn : front.getLast? ≠ some '\r')
    (filled : back ≠ []) :
    parse images (front ++ '\\' :: '\n' :: back) =
      (parse images (front ++ back)).mapError (ParseError.pastBreak · (front.count '\n')) := by
  obtain ⟨early, late, whole, broken, before, behind⟩ :=
    logicalLines_broken noBackslash noReturn filled 0 []
  rw [Nat.zero_add] at before behind
  unfold parse
  rw [whole, broken, List.mapM_append, List.mapM_append, mapM_parseNumbered_below]
  cases first : early.mapM (parseNumbered images) with
  | error e =>
      obtain ⟨line, member, failed⟩ := exists_of_mapM_eq_error first
      have same : ParseError.pastBreak e (front.count '\n') = e := by
        obtain ⟨number, fault⟩ := e
        cases line_of_parseNumbered failed
        rw [ParseError.pastBreak, Option.map_some, if_pos (before line member)]
      exact congrArg Except.error same.symm
  | ok actions =>
      cases second : late.mapM (parseNumbered images) with
      | error e =>
          obtain ⟨line, member, failed⟩ := exists_of_mapM_eq_error second
          have moved : ParseError.pastBreak e (front.count '\n') = ParseError.below e 1 := by
            obtain ⟨number, fault⟩ := e
            cases line_of_parseNumbered failed
            rw [ParseError.pastBreak, ParseError.below, Option.map_some, Option.map_some,
              if_neg (Nat.not_le.mpr (behind line member))]
          exact congrArg Except.error moved.symm
      | ok others => rfl

/-- A script with a broken line has the same steps, and fails where it failed before: with the same
words, at the same line if that ends before the break, and one line later otherwise. -/
theorem parse_broken (images : Images) {front back : List Char}
    (noBackslash : front.getLast? ≠ some '\\') (noReturn : front.getLast? ≠ some '\r')
    (filled : back ≠ []) :
    (∀ actions, parse images (front ++ '\\' :: '\n' :: back) = .ok actions ↔
      parse images (front ++ back) = .ok actions) ∧
    ∀ e, parse images (front ++ back) = .error e → ∃ number, e.line = some number ∧
      parse images (front ++ '\\' :: '\n' :: back) =
        .error ⟨some (if number ≤ front.count '\n' then number else number + 1), e.fault⟩ := by
  rw [parse_broken_eq images noBackslash noReturn filled]
  constructor
  · intro actions
    cases parse images (front ++ back) with
    | error e => constructor <;> intro success <;> cases success
    | ok others => rfl
  · intro e failed
    obtain ⟨number, line, -⟩ := line_of_parse failed
    have moved : ParseError.pastBreak e (front.count '\n') =
        ⟨some (if number ≤ front.count '\n' then number else number + 1), e.fault⟩ := by
      rw [ParseError.pastBreak, line]
      rfl
    rw [failed]
    exact ⟨number, line, congrArg Except.error moved⟩

/-- The name of a flag is broken in the second line, and its error found in the third. -/
theorem parse_broken_flag :
    let images : Images := ⟨"bash", "cloud-sdk"⟩
    let front := "echo one\nsleep 5 # of".toList
    let back := "ten\r\ntrue\n".toList
    parse images (front ++ back) = .error ⟨some 2, .unknownFlag "OFTEN".toList⟩ ∧
      parse images (front ++ '\\' :: '\n' :: back) =
        .error ⟨some 3, .unknownFlag "OFTEN".toList⟩ := by
  intro images front back
  have failed : parse images (front ++ back) = .error ⟨some 2, .unknownFlag "OFTEN".toList⟩ := rfl
  obtain ⟨number, line, broken⟩ :=
    (parse_broken images (by decide) (by decide) (List.cons_ne_nil 't' _)).2 _ failed
  cases line
  exact ⟨failed, broken⟩

end BatchJob.Script
