import BatchJob.Client.Exchange
import BatchJob.Client.Operation
import BatchJob.Request

set_option autoImplicit false

/-!
The service that runs pipelines: submitting, cancelling and watching operations.
-/

namespace BatchJob.Client

def operationPath (operation : String) : String := "v2alpha1/" ++ operation

def operationRequest (c : Client) (operation : String) : HttpRequest :=
  c.getRequest (operationPath operation) []

def operation (c : Client) (name : String) (r : Replies) : Exchanged (Except JobError Operation) :=
  exchange (c.operationRequest name) Operation.ofJson? r

/-- The error of a submission that did not go through. -/
def submissionError : JobError → SubmissionError
  | .service e => ⟨e.reason, some e.body⟩
  | e => ⟨e.message, none⟩

/-- Submits a request; the result is the name of the operation. -/
def submit (c : Client) (request : Request) (r : Replies) :
    Exchanged (Except SubmissionError String) :=
  let exchanged :=
    exchange (c.postRequest "v2alpha1/pipelines:run" request.toJson) Operation.ofJson? r
  { exchanged with result := (exchanged.result.mapError submissionError).map (·.name) }

/-- Asks the service to cancel an operation. -/
def cancel (c : Client) (name : String) (r : Replies) : Exchanged (Except JobError Unit) :=
  let exchanged :=
    exchange (c.postRequest (operationPath name ++ ":cancel") (.object [])) (Json.settle? 127) r
  { exchanged with result := exchanged.result.map fun _ => () }

/-- The failure of an operation whose state could not be found out. -/
def pollFailure (name : String) (e : JobError) : ExecutionError :=
  ⟨name, "polling operation: " ++ e.message, false⟩

/-- What a reply about an operation means: nothing as long as it runs, and at last its end. -/
def verdict? (name : String) : Except JobError Operation → Option (Option ExecutionError)
  | .error e => some (some (pollFailure name e))
  | .ok o => if o.done then some (o.failure? name) else none

def pollAll (c : Client) (name : String) (refusal : Refusal) :
    List Reply → Exchanged (Option ExecutionError)
  | [] =>
    let request := c.operationRequest name
    let reply := refusal.reply
    ⟨(Reply.decode request.url Operation.ofJson? reply |> verdict? name).join,
      received request reply, ⟨[], refusal⟩⟩
  | reply :: left =>
    let request := c.operationRequest name
    match verdict? name (Reply.decode request.url Operation.ofJson? reply) with
    | some failure => ⟨failure, received request reply, ⟨left, refusal⟩⟩
    | none =>
      let later := pollAll c name refusal left
      { later with requests := received request reply ++ later.requests }

def wait (c : Client) (name : String) (r : Replies) : Exchanged (Option ExecutionError) :=
  pollAll c name r.refusal r.left

end BatchJob.Client
