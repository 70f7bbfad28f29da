import BatchJob.Proofs.Text.Lines
import BatchJob.Proofs.Trace
import BatchJob.Script.Document

set_option autoImplicit false

/-!
Scripts are read line by line. Nothing is carried from one logical line into the next, so a script
that is put behind another one is read as it is read alone, but for the numbers of its lines.
-/

namespace BatchJob.Script

/-- What some lines leave open, if an earlier one left `pending` open. -/
def leftOpen (pending : List Char) : List (List Char) → List Char
  | [] => pending
  | line :: rest =>
    match continued? line with
    | some start => leftOpen (pending ++ start) rest
    | none => leftOpen [] rest

theorem leftOpen_concat (pending : List Char) (lines : List (List Char)) {last : List Char}
    (closed : continued? last = none) : leftOpen pending (lines ++ [last]) = [] := by
  induction lines generalizing pending with
  | nil => simp only [List.nil_append, leftOpen, closed]
  | cons line rest ih =>
      rw [List.cons_append, leftOpen]
      cases continued? line with
      | none => exact ih []
      | some start => exact ih (pending ++ start)

/-- Behind lines that leave nothing open, logical lines start anew. -/
theorem logicalLines_append (number : Nat) {pending : List Char} {first : List (List Char)}
    (closed : leftOpen pending first = []) (second : List (List Char)) :
    logicalLines number pending (first ++ second) =
      logicalLines number pending first ++ logicalLines (number + first.length) [] second := by
  induction first generalizing number pending with
  | nil =>
      rw [leftOpen] at closed
      rw [closed]
      rfl
  | cons line rest ih =>
      have count : number + (line :: rest).length = number + 1 + rest.length := by
        rw [List.length_cons]
        omega
      rw [leftOpen] at closed
      rw [List.cons_append, logicalLines, logicalLines, count]
      cases goesOn : continued? line with
      | none =>
          rw [goesOn] at closed
          rw [ih (number + 1) closed, List.cons_append]
      | some start =>
          rw [goesOn] at closed
          exact ih (number + 1) closed

/-- Where the count of the lines starts makes no other difference. -/
theorem logicalLines_add (number more : Nat) (pending : List Char) (lines : List (List Char)) :
    logicalLines (number + more) pending lines =
      (logicalLines number pending lines).map fun line => (line.1 + more, line.2) := by
  induction lines generalizing number pending with
  | nil =>
      rw [logicalLines, logicalLines]
      cases pending.isEmpty <;> rfl
  | cons line rest ih =>
      have count : number + more + 1 = number + 1 + more := by omega
      rw [logicalLines, logicalLines, count]
      cases continued? line with
      | none =>
          rw [ih (number + 1) [], List.map_cons]
      | some start => exact ih (number + 1) (pending ++ start)

/-- A logical line is completed by the first line or by a later one. -/
theorem eq_or_mem_of_mem_cons {number n : Nat} {pending line text : List Char}
    {rest : List (List Char)} (member : (n, text) ∈ logicalLines number pending (line :: rest)) :
    n = number + 1 ∨ ∃ left, (n, text) ∈ logicalLines (number + 1) left rest := by
  rw [logicalLines] at member
  cases goesOn : continued? line with
  | some start =>
      rw [goesOn] at member
      exact .inr ⟨_, member⟩
  | none =>
      rw [goesOn] at member
      rcases List.mem_cons.mp member with here | within
      · exact .inl (congrArg Prod.fst here)
      · exact .inr ⟨[], within⟩

/-- A logical line is completed by one of the lines, unless it was left open before all of them. -/
theorem number_of_mem {number n : Nat} {pending text : List Char} {lines : List (List Char)}
    (begun : pending ≠ [] → 0 < number) (member : (n, text) ∈ logicalLines number pending lines) :
    0 < n ∧ n ≤ number + lines.length := by
  induction lines generalizing number pending with
  | nil =>
      cases pending with
      | nil => cases member
      | cons c others =>
          have last : (n, text) = (number, c :: others) := List.mem_singleton.mp member
          have positive : 0 < number := begun (List.cons_ne_nil c others)
          have same : n = number := congrArg Prod.fst last
          rw [List.length_nil]
          omega
  | cons line rest ih =>
      rw [List.length_cons]
      rcases eq_or_mem_of_mem_cons member with same | ⟨left, within⟩
      · omega
      · have bounds := ih (fun _ => Nat.succ_pos number) within
        omega

def ParseError.below (e : ParseError) (count : Nat) : ParseError :=
  { e with line := e.line.map (· + count) }

theorem parseNumbered_below (images : Images) (line : Nat × List Char) (count : Nat) :
    parseNumbered images (line.1 + count, line.2) =
      (parseNumbered images line).mapError (ParseError.below · count) := by
  unfold parseNumbered
  cases parseLine images line.2 <;> rfl

theorem mapM_parseNumbered_below (images : Images) (lines : List (Nat × List Char)) (count : Nat) :
    (lines.map fun line => (line.1 + count, line.2)).mapM (parseNumbered images) =
      (lines.mapM (parseNumbered images)).mapError (ParseError.below · count) := by
  induction lines with
  | nil => rfl
  | cons line rest ih =>
      rw [List.map_cons, List.mapM_cons, List.mapM_cons, ih, parseNumbered_below]
      cases parseNumbered images line with
      | error e => rfl
      | ok action => cases rest.mapM (parseNumbered images) <;> rfl

/-- An error of a list of lines is that of one of them. -/
theorem exists_of_mapM_eq_error {images : Images} {lines : List (Nat × List Char)} {e : ParseError}
    (failed : lines.mapM (parseNumbered images) = .error e) :
    ∃ line ∈ lines, parseNumbered images line = .error e := by
  obtain ⟨before, line, after, rfl, -, fails⟩ := Traced.mapM_eq_error_iff.mp failed
  exact ⟨line, List.mem_append_cons_self, fails⟩

theorem line_of_parseNumbered {images : Images} {line : Nat × List Char} {e : ParseError}
    (failed : parseNumbered images line = .error e) : e.line = some line.1 := by
  unfold parseNumbered at failed
  cases read : parseLine images line.2 with
  | ok action =>
      rw [read] at failed
      cases failed
  | error fault =>
      rw [read] at failed
      cases failed
      rfl

/-- The error of a script is found at one of its lines. -/
theorem line_of_parse {images : Images} {text : List Char} {e : ParseError}
    (failed : parse images text = .error e) :
    ∃ number, e.line = some number ∧ 1 ≤ number ∧ number ≤ (Text.lines text).length := by
  unfold parse at failed
  cases read : (logicalLines 0 [] (Text.lines text)).mapM (parseNumbered images) with
  | ok actions =>
      rw [read] at failed
      cases failed
  | error other =>
      rw [read] at failed
      cases failed
      obtain ⟨line, member, same⟩ := exists_of_mapM_eq_error read
      have bounds := number_of_mem (fun filled => absurd rfl filled) member
      exact ⟨line.1, line_of_parseNumbered same, by omega, by omega⟩

/-- A script of whole lines, the last of which does not go on behind it. -/
def Closed (text : List Char) : Prop :=
  (text = [] ∨ ['\n'] <:+ text) ∧ ¬ ['\\', '\n'] <:+ text ∧ ¬ ['\\', '\r', '\n'] <:+ text

theorem Closed.leftOpen_lines {text : List Char} (closed : Closed text) :
    leftOpen [] (Text.lines text) = [] := by
  obtain ⟨whole, notBare, notCarriage⟩ := closed
  rcases whole with rfl | whole
  · rfl
  · rcases List.eq_nil_or_concat (Text.lines text) with none | ⟨lines, last, shape⟩
    · rw [none]
      rfl
    · rw [List.concat_eq_append] at shape
      rw [shape]
      apply leftOpen_concat
      unfold continued?
      split
      · rename_i goesOn
        obtain ⟨start, rfl⟩ := List.getLast?_eq_some_iff.mp goesOn
        have ends : (Text.lines text).getLast? = some (start ++ ['\\']) := by
          rw [shape, List.getLast?_concat]
        rcases Text.suffix_of_lines whole ends with bare | carriage
        · rw [List.append_assoc] at bare
          exact absurd ((List.suffix_append start _).trans bare) notBare
        · rw [List.append_assoc] at carriage
          exact absurd ((List.suffix_append start _).trans carriage) notCarriage
      · rfl

theorem parse_behind (images : Images) {front : List Char} (closed : Closed front)
    (back : List Char) :
    parse images (front ++ back) = (do
      let first ← parse images front
      let rest ← (parse images back).mapError (ParseError.below · (Text.lines front).length)
      return first ++ rest) := by
  have split : logicalLines 0 [] (Text.lines (front ++ back)) =
      logicalLines 0 [] (Text.lines front) ++
        (logicalLines 0 [] (Text.lines back)).map fun line =>
          (line.1 + (Text.lines front).length, line.2) := by
    rw [Text.lines_append closed.1, logicalLines_append 0 closed.leftOpen_lines, logicalLines_add]
  unfold parse
  rw [split, List.mapM_append, mapM_parseNumbered_below]
  cases (logicalLines 0 [] (Text.lines front)).mapM (parseNumbered images) with
  | error e => rfl
  | ok first =>
      cases (logicalLines 0 [] (Text.lines back)).mapM (parseNumbered images) with
      | error e => rfl
      | ok rest => exact congrArg Except.ok (List.filterMap_append ..)

/-- A script behind a closed one adds its own steps. The first error decides: that of the first
script as it is, and that of the second with the lines of the first counted. The error of a script
names one of its lines. -/
theorem parse_append (images : Images) {front : List Char} (closed : Closed front)
    (back : List Char) :
    (∀ e, parse images front = .error e → parse images (front ++ back) = .error e) ∧
    (∀ first rest, parse images front = .ok first → parse images back = .ok rest →
      parse images (front ++ back) = .ok (first ++ rest)) ∧
    (∀ first number fault, parse images front = .ok first →
      parse images back = .error ⟨some number, fault⟩ →
      parse images (front ++ back) =
        .error ⟨some (number + (Text.lines front).length), fault⟩) ∧
    ∀ text e, parse images text = .error e →
      ∃ number, e.line = some number ∧ 1 ≤ number ∧ number ≤ (Text.lines text).length := by
  refine ⟨?_, ?_, ?_, fun text e => line_of_parse⟩
  · intro e failed
    rw [parse_behind images closed, failed]
    rfl
  · intro first rest begins ends
    rw [parse_behind images closed, begins, ends]
    rfl
  · intro first number fault begins failed
    rw [parse_behind images closed, begins, failed]
    rfl

theorem parse_append_unknown_flag :
    let images : Images := ⟨"bash", "cloud-sdk"⟩
    let front := "echo one \\\r\n  two\n".toList
    let back := "true\nsleep # often\n".toList
    Closed front ∧ parse images (front ++ back) = .error ⟨some 4, .unknownFlag "OFTEN".toList⟩ := by
  intro images front back
  have closed : Closed front := by
    unfold Closed
    decide
  have begins : ∃ first, parse images front = .ok first := ⟨_, rfl⟩
  have failed : parse images back = .error ⟨some 2, .unknownFlag "OFTEN".toList⟩ := rfl
  obtain ⟨first, begins⟩ := begins
  exact ⟨closed, (parse_append images closed back).2.2.1 first 2 _ begins failed⟩

end BatchJob.Script
