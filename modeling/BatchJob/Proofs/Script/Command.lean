import BatchJob.Proofs.Script.Lines
import BatchJob.Script.Source
import Mathlib.Data.List.Find
import Mathlib.Data.List.TakeWhile

set_option autoImplicit false

/-!
A command is read like a script that has it as its only line. A text that starts with neither a
brace nor a bracket is not taken for JSON, and one without line breaks that does not end in a
backslash is a line as it stands.
-/

namespace BatchJob

namespace Json

def isNested : Json → Bool
  | .array _ | .object _ => true
  | _ => false

theorem isNested_of_map {α : Type} {make : α → Json} {part : Option (α × List Char)} {j : Json}
    {rest : List Char} (flat : ∀ a, (make a).isNested = false)
    (read : part.map (fun (a, rest) => (make a, rest)) = some (j, rest)) : j.isNested = false := by
  obtain ⟨⟨a, behind⟩, -, same⟩ := Option.map_eq_some_iff.mp read
  rw [← (Prod.mk.inj same).1]
  exact flat a

/-- A value that starts with neither a brace nor a bracket holds no others. -/
theorem isNested_of_readValue? {fuel : Nat} {s rest : List Char} {j : Json}
    (noObject : (skip s).head? ≠ some '\x7b') (noArray : (skip s).head? ≠ some '[')
    (read : readValue? fuel s = some (j, rest)) : j.isNested = false := by
  cases fuel with
  | zero => cases read
  | succ fuel =>
      rw [readValue?] at read
      split at read
      · next opens => exact absurd (congrArg List.head? opens) noObject
      · next opens => exact absurd (congrArg List.head? opens) noArray
      · exact isNested_of_map (fun _ => rfl) read
      · cases read
        rfl
      · cases read
        rfl
      · cases read
        rfl
      · exact isNested_of_map (fun _ => rfl) read
      · exact isNested_of_map (fun _ => rfl) read

theorem isNested_of_parse? {text : String} {j : Json}
    (noObject : (skip text.toList).head? ≠ some '\x7b')
    (noArray : (skip text.toList).head? ≠ some '[') (read : parse? text = some j) :
    j.isNested = false := by
  rw [parse?] at read
  split at read
  · next value rest found =>
    have flat := isNested_of_readValue? noObject noArray found
    split at read
    · cases read
      exact flat
    · cases read
  · cases read

/-- Settling a value does not change its kind. -/
theorem isNested_of_settle? {levels : Nat} {j settled : Json}
    (read : j.settle? levels = some settled) : settled.isNested = j.isNested := by
  cases j with
  | null => cases read; rfl
  | bool b => cases read; rfl
  | number n =>
      rw [settle?] at read
      split at read
      · cases read; rfl
      · cases read
  | string text =>
      cases text with
      | none => cases read
      | some s => cases read; rfl
  | array items =>
      rw [settle?] at read
      split at read
      · cases read
      · obtain ⟨settledItems, -, rfl⟩ := Option.map_eq_some_iff.mp read
        rfl
  | object members =>
      rw [settle?] at read
      split at read
      · cases read
      · obtain ⟨settledMembers, -, rfl⟩ := Option.map_eq_some_iff.mp read
        rfl

end Json

namespace Script

variable {images : Images} {text : List Char}

/-- The first character of a line that is not blank. -/
def opening? (line : List Char) : Option Char :=
  line.find? fun c => !(c == ' ' || c == '\t' || c == '\r')

/-- A text that is a line of a script and cannot be taken for anything else. -/
structure SingleLine (text : List Char) : Prop where
  unbroken : '\n' ∉ text
  closed : text.getLast? ≠ some '\\'
  noObject : opening? text ≠ some '\x7b'
  noArray : opening? text ≠ some '['

/-- In a line, the blanks of JSON are spaces, tabs and carriage returns. -/
theorem head?_skip (unbroken : '\n' ∉ text) : (Json.skip text).head? = opening? text := by
  have blank : ∀ c ∈ text, (!Json.isSpace c) = !(c == ' ' || c == '\t' || c == '\r') := by
    intro c member
    have other : (c == '\n') = false :=
      beq_eq_false_iff_ne.mpr fun same => unbroken (same ▸ member)
    rw [Json.isSpace, other, Bool.or_false]
  rw [opening?, ← List.find?_congr blank, List.find?_eq_head?_dropWhile_not]
  simp only [Bool.not_not]
  rfl

theorem SingleLine.readJson?_eq_none {text : String} (line : SingleLine text.toList) :
    readJson? text = none := by
  have first := head?_skip line.unbroken
  unfold readJson?
  cases read : Json.parse? text with
  | none => rfl
  | some j =>
      have flat : j.isNested = false := Json.isNested_of_parse? (first ▸ line.noObject)
        (first ▸ line.noArray) read
      rw [Option.bind_some]
      cases settled : j.settle? maxLevels with
      | none => rfl
      | some value =>
          have plain : value.isNested = false := (Json.isNested_of_settle? settled).trans flat
          cases value with
          | array items => cases plain
          | object members => cases plain
          | _ => rfl

theorem parseLine_nil (images : Images) : parseLine images [] = .ok none := rfl

/-- A script of one line is read as that line is. -/
theorem SingleLine.parse_eq (line : SingleLine text) (images : Images) :
    parse images text = ((parseLine images text).map Option.toList).mapError fun fault =>
      ⟨some 1, fault⟩ := by
  by_cases filled : text = []
  · rw [filled, parseLine_nil]
    rfl
  · have whole : continued? text = none := if_neg line.closed
    have lines : logicalLines 0 [] (Text.lines text) = [(1, text)] := by
      rw [Text.lines_single line.unbroken filled, logicalLines, whole]
      rfl
    rw [parse, lines, List.mapM_cons, List.mapM_nil, parseNumbered]
    cases parseLine images text with
    | error fault => rfl
    | ok action => cases action <;> rfl

/-- What becomes of a command, and of a script that has it as its only line. -/
inductive ReadAlike (images : Images) (line : List Char) :
    Traced JobError Job → Traced JobError Job → Prop where
  /-- Both have the step of the line, or none. -/
  | actions {action : Option Action} (read : parseLine images line = .ok action) :
      ReadAlike images line ⟨.ok (.actions action.toList), []⟩ ⟨.ok (.actions action.toList), []⟩
  /-- The cause is the same; a command says that it is one, and a script names its line. -/
  | fault {fault : ParseFault} (failed : parseLine images line = .error fault) :
      ReadAlike images line ⟨.error (.parse ⟨none, .command fault⟩), []⟩
        ⟨.error (.parse ⟨some 1, fault⟩), []⟩

namespace ReadAlike

variable {command script : Traced JobError Job}

theorem ok_iff (alike : ReadAlike images text command script) (job : Job) :
    command.result = .ok job ↔ script.result = .ok job := by
  cases alike with
  | actions read => exact Iff.rfl
  | fault failed =>
      exact iff_of_false (fun success => nomatch success) fun success => nomatch success

/-- The words of both errors end in the same reason. -/
theorem messages (alike : ReadAlike images text command script) {e : JobError}
    (failed : command.result = .error e) : ∃ reason other, script.result = .error other ∧
      e.message = "creating action from command: " ++ reason ∧
      other.message = "line 1: " ++ reason := by
  cases alike with
  | actions read => cases failed
  | @fault fault bad =>
      cases failed
      have front : "line " ++ toString 1 ++ ": " = "line 1: " := by decide
      exact ⟨fault.message, _, rfl, rfl, congrArg (· ++ fault.message) front⟩

end ReadAlike

theorem read_of_singleLine {line : String} (single : SingleLine line.toList) (images : Images)
    (h : Host) :
    ReadAlike images line.toList (Source.read images h (.command line))
      (Source.read images h (.text line)) := by
  have command : Source.read images h (.command line) =
      .ofExcept ((Source.commandJob images line).mapError .parse) := rfl
  have script : Source.read images h (.text line) =
      .ofExcept ((parseDocument images line).mapError .parse) := rfl
  rw [command, script, Source.commandJob, parseDocument, single.readJson?_eq_none]
  dsimp only
  rw [single.parse_eq]
  cases parsed : parseLine images line.toList with
  | error fault => exact .fault parsed
  | ok action => exact .actions parsed

/-- A line is read alike as a command and as a script. Both succeed or both fail, with the same
steps or for the same reason, which is reported as that of a command or as found at the first line.
-/
theorem readAlike_of_singleLine {line : String} (single : SingleLine line.toList)
    (images : Images) (h : Host) :
    let command := Source.read images h (.command line)
    let script := Source.read images h (.text line)
    ReadAlike images line.toList command script ∧
      (∀ job, command.result = .ok job ↔ script.result = .ok job) ∧
      ∀ e, command.result = .error e → ∃ reason other, script.result = .error other ∧
        e.message = "creating action from command: " ++ reason ∧
        other.message = "line 1: " ++ reason := by
  intro command script
  have alike : ReadAlike images line.toList command script := read_of_singleLine single images h
  exact ⟨alike, alike.ok_iff, fun e => alike.messages⟩

/-- A line may hold brackets further on, and end in a carriage return behind a backslash. -/
theorem readAlike_of_singleLine_flag :
    let images : Images := ⟨"bash", "cloud-sdk"⟩
    let h : Host := ⟨fun _ => .error .notFound, .error .notFound, none⟩
    SingleLine "\tx [ # ports=:1 \\\r".toList ∧ ∃ e other reason,
      (Source.read images h (.command "\tx [ # ports=:1 \\\r")).result = .error e ∧
      (Source.read images h (.text "\tx [ # ports=:1 \\\r")).result = .error other ∧
      e.message = "creating action from command: " ++ reason ∧
      other.message = "line 1: " ++ reason := by
  intro images h
  have single : SingleLine "\tx [ # ports=:1 \\\r".toList :=
    ⟨by decide, by decide, by decide, by decide⟩
  have failed : (Source.read images h (.command "\tx [ # ports=:1 \\\r")).result =
      .error (.parse ⟨none, .command (.unknownFlag ['\\'])⟩) := rfl
  obtain ⟨-, -, messages⟩ := readAlike_of_singleLine single images h
  obtain ⟨reason, other, fails, first, second⟩ := messages _ failed
  exact ⟨single, _, other, reason, failed, fails, first, second⟩

end Script

end BatchJob
