import BatchJob.Request
import BatchJob.Script.Line

set_option autoImplicit false

/-!
Job descriptions: a request or a list of steps in JSON, or else a script.
-/

namespace BatchJob.Script

/-- A line that ends in a backslash goes on in the next one; this is the line without it. -/
def continued? (line : List Char) : Option (List Char) :=
  if line.getLast? = some '\\' then some line.dropLast else none

/--
The logical lines of a script, each with the number of the line that completes it. `pending` is what
earlier lines left open, and `number` counts the lines so far.
-/
def logicalLines (number : Nat) (pending : List Char) :
    List (List Char) → List (Nat × List Char)
  | [] => if pending.isEmpty then [] else [(number, pending)]
  | line :: rest =>
    match continued? line with
    | some start => logicalLines (number + 1) (pending ++ start) rest
    | none => (number + 1, pending ++ line) :: logicalLines (number + 1) [] rest

/-- The step of a logical line. -/
def parseNumbered (images : Images) (line : Nat × List Char) : Except ParseError (Option Action) :=
  (parseLine images line.2).mapError fun fault => ⟨some line.1, fault⟩

def parse (images : Images) (text : List Char) : Except ParseError (List Action) := do
  let actions ← (logicalLines 0 [] (Text.lines text)).mapM (parseNumbered images)
  return actions.filterMap id

inductive Job where
  | request (request : Request)
  | actions (actions : List Action)
  deriving DecidableEq

/-- How deep arrays and objects may stand inside each other in a description. -/
def maxLevels : Nat := 127

/-- A description in JSON: an object that is a request, or an array of steps. -/
def readJson? (text : String) : Option Job :=
  match (Json.parse? text).bind (Json.settle? maxLevels) with
  | some (.object members) => (Request.ofJson? (.object members)).map .request
  | some (.array items) => (Json.list? Action.ofJson? (.array items)).map .actions
  | _ => none

/-- Reads a description. What is not one in JSON is a script. -/
def parseDocument (images : Images) (text : String) : Except ParseError Job :=
  match readJson? text with
  | some job => .ok job
  | none => (parse images text.toList).map .actions

end BatchJob.Script
