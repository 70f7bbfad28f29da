import BatchJob.Error.Config
import BatchJob.Error.Parse
import BatchJob.Error.Remote
import BatchJob.Json.Record

set_option autoImplicit false

/-!
Every way in which a job can fail, in words and as a record.
-/

namespace BatchJob

/-- Every way in which a job can fail. -/
inductive JobError where
  | parse (error : ParseError)
  | config (error : ConfigError)
  | submission (error : SubmissionError)
  | execution (error : ExecutionError)
  | serialization
  | input (fault : InputFault)
  | transport (fault : TransportFault)
  | service (error : ServiceError)
  deriving DecidableEq

namespace JobError

def message : JobError → String
  | parse e => e.message
  | config e => e.message
  | submission e => e.message
  | execution e => e.message
  | serialization => "Serialization error"
  | input fault => "IO error: " ++ fault.message
  | transport fault => fault.message
  | service e => e.message

def kind : JobError → String
  | parse _ => "ParseError"
  | config _ => "ConfigError"
  | submission _ => "SubmissionError"
  | execution e => if e.retriable then "RetriableExecutionError" else "FatalExecutionError"
  | serialization => "SerializationError"
  | input _ => "IoError"
  | transport _ => "HttpError"
  | service _ => "ApiError"

/-- What an error says beyond its kind and its words. -/
def details : JobError → List (String × Option Json)
  | parse e => [("reason", some (.text e.fault.message)), ("line", e.line.map .nat)]
  | config (.specifier path fault) =>
    [("specifier", some (.text path)), ("reason", some (.text fault.message))]
  | config (.lookup what reason) =>
    [("what", some (.text what)), ("reason", some (.text reason))]
  | config (.invalid fault) => [("reason", some (.text fault.message))]
  | config _ => []
  | submission e => [("reason", some (.text e.reason)), ("body", e.body.map .text)]
  | execution e =>
    [("operation", some (.text e.operation)), ("reason", some (.text e.reason))]
  | service e => [("status", some (.nat e.status)), ("body", some (.text e.body))]
  | serialization | input _ | transport _ => []

def toJson (e : JobError) : Json :=
  .ofFields ([("type", some (.text e.kind)), ("message", some (.text e.message))] ++ e.details)

end JobError

end BatchJob
