import BatchJob.Proofs.Request
import BatchJob.Script.Document

set_option autoImplicit false

/-!
The text of a request is a description of that request, and the text of a list of steps one of those
steps, in any layout of blanks.
-/

namespace BatchJob.Script

open Json (Layout Plain print blank_compact blank_indented plain_array bind_of_some)

variable {layout : Layout}

/-- The text of a plain tree is the text of that general value. -/
theorem settle?_print (blank : layout.Blank) {j : Json} (plain : Plain maxLevels j) :
    (Json.parse? (String.ofList (print layout 0 j))).bind (Json.settle? maxLevels) = some j :=
  bind_of_some (Json.parse?_of_legible (plain.legible blank)) plain.settle?_eq

theorem readJson?_request (blank : layout.Blank) (r : Request) :
    readJson? (String.ofList (print layout 0 r.toJson)) = some (.request r) := by
  rw [readJson?, settle?_print blank (r.plain_toJson 121)]
  exact congrArg (Option.map Job.request) r.ofJson?_toJson

theorem readJson?_actions (blank : layout.Blank) (actions : List Action) :
    readJson? (String.ofList (print layout 0 (.array (actions.map Action.toJson)))) =
      some (.actions actions) := by
  have plain : Plain maxLevels (.array (actions.map Action.toJson)) :=
    plain_array actions fun a => a.plain_toJson 123
  have read : Json.list? Action.ofJson? (.array (actions.map Action.toJson)) = some actions :=
    Json.list?_array fun a _ => a.ofJson?_toJson
  rw [readJson?, settle?_print blank plain]
  exact congrArg (Option.map Job.actions) read

theorem parseDocument_of_readJson? {text : String} {job : Job} (images : Images)
    (read : readJson? text = some job) : parseDocument images text = .ok job := by
  rw [parseDocument, read]

theorem parseDocument_pretty (images : Images) (r : Request) :
    parseDocument images r.pretty = .ok (.request r) :=
  parseDocument_of_readJson? images (readJson?_request blank_indented r)

/-- Requests and lists of steps are read as they were written: the reader's defaults are what the
writer leaves out, and neither format is taken for the other or for a script. -/
theorem parseDocument_written (images : Images) :
    (∀ r : Request, Request.parse? r.pretty = some r ∧
      parseDocument images r.pretty = .ok (.request r)) ∧
    ∀ actions : List Action,
      parseDocument images (Json.array (actions.map Action.toJson)).compact =
        .ok (.actions actions) ∧
      parseDocument images (Json.array (actions.map Action.toJson)).pretty =
        .ok (.actions actions) := by
  refine ⟨fun r => ⟨r.parse?_pretty, parseDocument_pretty images r⟩, fun actions => ⟨?_, ?_⟩⟩
  · exact parseDocument_of_readJson? images (readJson?_actions blank_compact actions)
  · exact parseDocument_of_readJson? images (readJson?_actions blank_indented actions)

end BatchJob.Script
