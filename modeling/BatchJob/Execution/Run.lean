import BatchJob.Error
import BatchJob.Token
import BatchJob.Trace

set_option autoImplicit false

/-!
The state of a run and the calls it makes. Every call leaves a step behind. What a run cannot know
beforehand, the answers to its calls and the acts of those who watch it, is a `World`.
-/

namespace BatchJob

/-- The answer to a submission. The token may be cancelled while the call is under way. -/
structure SubmitAnswer where
  cancelled : Option String
  result : Except SubmissionError String

/-- The end of a wait. The token may be cancelled while it lasts, several times over. -/
structure WaitAnswer where
  cancelled : List String
  failure : Option ExecutionError

/-- The answers to the calls of a run, counted from zero, and the acts of those who watch it. -/
structure World where
  submit : Nat → Request → SubmitAnswer
  wait : Nat → String → WaitAnswer
  /-- The error with which a cancel call is refused. -/
  cancel : Nat → String → Option JobError
  /-- The reason with which an event, after all steps so far, the latest first, makes somebody
  cancel the token. -/
  onEvent : List Step → Event → Option String

/-- A callback on the token: that of the wait under way, or one of somebody else. -/
inductive Callback where
  | waiter
  | foreign (name : String)
  deriving DecidableEq

def Callback.foreignName? : Callback → Option String
  | waiter => none
  | foreign name => some name

structure Run where
  token : Token Callback
  /-- Whether the wait under way was told of a cancellation and has not reacted yet. -/
  pending : Bool := false
  /-- How often a request was submitted. -/
  submitted : Nat := 0
  /-- How often an operation was waited for. -/
  waited : Nat := 0
  /-- How often an operation was cancelled. -/
  cancelled : Nat := 0
  /-- The callbacks of others that have run, in their order. -/
  called : List String := []
  /-- The steps so far, the latest first. -/
  history : List Step := []
  deriving DecidableEq

namespace Run

/-- The steps so far, in their order. -/
def steps (r : Run) : List Step := r.history.reverse

def record (r : Run) (s : Step) : Run := { r with history := s :: r.history }

def log (r : Run) (level : LogLevel) (message : String) : Run := r.record (.log level message)

def call (r : Run) (callbacks : List Callback) : Run :=
  { r with
    pending := r.pending || callbacks.contains .waiter
    called := r.called ++ callbacks.filterMap Callback.foreignName? }

def cancelToken (r : Run) (reason : String) : Run :=
  let (token, callbacks) := r.token.cancel reason
  { r with token := token }.call callbacks

def emit (w : World) (r : Run) (e : Event) : Run :=
  let heard := r.record (.event e)
  match w.onEvent r.history e with
  | some reason => heard.cancelToken reason
  | none => heard

def submit (w : World) (r : Run) (request : Request) : Except SubmissionError String × Run :=
  let answer := w.submit r.submitted request
  let r := { r with submitted := r.submitted + 1 }.record (.submit request)
  match answer.cancelled with
  | some reason => (answer.result, r.cancelToken reason)
  | none => (answer.result, r)

/-- Asks the service to cancel an operation; a refusal is only reported. -/
def cancelOperation (w : World) (r : Run) (operation : String) : Run :=
  let r := (r.log .info "Cancelling operation...").emit w (.cancelRequested operation)
  let refusal := w.cancel r.cancelled operation
  let r := { r with cancelled := r.cancelled + 1 }.record (.cancel operation)
  match refusal with
  | none => r
  | some e =>
    (r.log .warn "Failed to cancel operation").emit w (.cancelFailed operation e.message)

/-- Reacts to a cancellation of the token, unless there is none or it was reacted to before. -/
def react (w : World) (operation : String) (sent : Bool) (r : Run) : Bool × Run :=
  if r.pending && !sent then (true, { r with pending := false }.cancelOperation w operation)
  else (sent, r)

/-- Waits for an operation, and cancels it once when the token is cancelled. -/
def waitFor (w : World) (r : Run) (operation : String) : Option ExecutionError × Run :=
  let number := r.token.next
  let (token, callbacks) := r.token.register .waiter
  let answer := w.wait r.waited operation
  let r := { r with token := token, pending := false, waited := r.waited + 1 }
  let r := (r.call callbacks).record (.wait operation token.registered)
  let (_, r) := answer.cancelled.foldl
    (fun (sent, r) reason => react w operation sent (r.cancelToken reason))
    (react w operation false r)
  (answer.failure, { r with token := r.token.drop number })

end Run

end BatchJob
