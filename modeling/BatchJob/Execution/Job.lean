import BatchJob.Assembly
import BatchJob.Execution.Controller

set_option autoImplicit false

/-!
A job from its configuration to its end: the request is assembled and written out, and then it runs.
-/

namespace BatchJob

/-- The output that a request is written to, with the faults that it meets. -/
structure Output where
  writeFault : Option InputFault := none
  flushFault : Option InputFault := none
  deriving DecidableEq

/-- The text that has been written and flushed. -/
def writtenText (steps : List Step) : String :=
  if Step.flush ∈ steps then
    "".intercalate (steps.filterMap fun | .write text => some text | _ => none)
  else ""

namespace Job

def write (o : Output) (request : Request) (r : Run) : Except JobError Unit × Run :=
  match o.writeFault with
  | some fault => (.error (.input fault), r)
  | none =>
    let r := r.record (.write (request.pretty ++ "\n"))
    match o.flushFault with
    | some fault => (.error (.input fault), r)
    | none => (.ok (), r.record .flush)

/-- Runs a request that has been written out, unless it was only to be written. -/
def runWritten (c : Config) (w : World) (request : Request) (r : Run) :
    Except JobError Outcome × Run :=
  let r := r.emit w (.requestBuilt request.pipeline.actions.length
    request.pipeline.resources.projectId)
  if c.isDryRun then (.ok .notSubmitted, r.log .info "Dry run, not submitting")
  else (Controller.ofConfig c).execute w request r

/-- Assembles the job of a configuration, writes the request out, and runs it. -/
def run (c : Config) (h : Host) (w : World) (o : Output) (token : Token Callback) :
    Except JobError Outcome × Run :=
  let compiled := Assembly.compile c h
  let r : Run := { token := token, history := compiled.steps.reverse }
  match compiled.result with
  | .error e => (.error e, r)
  | .ok request =>
    match write o request r with
    | (.error e, r) => (.error e, r)
    | (.ok (), r) => runWritten c w request r

end Job

end BatchJob
