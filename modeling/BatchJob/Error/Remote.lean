import BatchJob.Text.Quoted

set_option autoImplicit false

/-!
Failures that the remote services report.
-/

namespace BatchJob

/-- The service refused to start a pipeline. -/
structure SubmissionError where
  reason : String
  body : Option String
  deriving DecidableEq

/-- An operation ended without success. -/
structure ExecutionError where
  operation : String
  reason : String
  /-- Whether another attempt may succeed. -/
  retriable : Bool
  deriving DecidableEq

structure ServiceError where
  status : Nat
  reason : String
  body : String
  deriving DecidableEq

/-- An exchange with a service that gave no usable answer. -/
inductive TransportFault where
  | unreachable (url : String)
  | undecodable
  deriving DecidableEq

def SubmissionError.message (e : SubmissionError) : String :=
  "starting pipeline: " ++ Text.quoted e.reason ++
    (match e.body with | some body => ": " ++ Text.quoted body | none => "")

def ExecutionError.message (e : ExecutionError) : String :=
  "operation " ++ Text.quoted e.operation ++ " failed: " ++ e.reason

/-- The final error of a run whose last allowed attempt failed. -/
def ExecutionError.exhausted (e : ExecutionError) (attempts : Nat) : ExecutionError :=
  { e with
    reason := e.reason ++ " (attempt budget of " ++ toString attempts ++ " exhausted)"
    retriable := false }

/-- The same failure, with no other attempt to follow. -/
def ExecutionError.final (e : ExecutionError) : ExecutionError :=
  { e with retriable := false }

def ServiceError.message (e : ServiceError) : String :=
  "API error (" ++ toString e.status ++ "): " ++ e.reason

def TransportFault.message : TransportFault → String
  | unreachable url => "HTTP error: error sending request for url (" ++ url ++ ")"
  | undecodable => "HTTP error: error decoding response body"

end BatchJob
