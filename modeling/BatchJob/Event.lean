import BatchJob.Json.Record

set_option autoImplicit false

/-!
Events in the life of a run, with their names and their records.
-/

namespace BatchJob

inductive Event where
  /-- The request was assembled and written out. -/
  | requestBuilt (actions : Nat) (project : String)
  /-- The service accepted an attempt. -/
  | attemptSubmitted (operation : String) (attempt : Nat) (preemptible : Bool)
  /-- The operation of an attempt failed. -/
  | attemptFailed (operation : String) (attempt : Nat) (retriable : Bool) (reason : String)
  /-- Another attempt follows. -/
  | attemptRetrying (attempt : Nat) (preemptible : Bool)
  /-- The run ended well. -/
  | runSucceeded (operation : String) (attempt : Nat) (preemptible : Bool)
  /-- The run failed. -/
  | runFailed (attempt : Nat) (message : String)
  /-- The service was asked to cancel an operation. -/
  | cancelRequested (operation : String)
  /-- The service refused to cancel an operation. -/
  | cancelFailed (operation : String) (message : String)
  deriving DecidableEq

namespace Event

def name : Event → String
  | requestBuilt .. => "run.request_built"
  | attemptSubmitted .. => "attempt.submitted"
  | attemptFailed .. => "attempt.failed"
  | attemptRetrying .. => "attempt.retrying"
  | runSucceeded .. => "run.succeeded"
  | runFailed .. => "run.failed"
  | cancelRequested .. => "operation.cancel_requested"
  | cancelFailed .. => "operation.cancel_failed"

def payload : Event → Json
  | requestBuilt actions project =>
    .record [("actions", .nat actions), ("project", .text project)]
  | attemptSubmitted operation attempt preemptible
  | runSucceeded operation attempt preemptible =>
    .record [("operation", .text operation), ("attempt", .nat attempt),
      ("preemptible", .bool preemptible)]
  | attemptFailed operation attempt retriable reason =>
    .record [("operation", .text operation), ("attempt", .nat attempt),
      ("retriable", .bool retriable), ("message", .text reason)]
  | attemptRetrying attempt preemptible =>
    .record [("attempt", .nat attempt), ("preemptible", .bool preemptible)]
  | runFailed attempt message =>
    .record [("attempt", .nat attempt), ("message", .text message)]
  | cancelRequested operation => .record [("operation", .text operation)]
  | cancelFailed operation message =>
    .record [("operation", .text operation), ("message", .text message)]

end Event

end BatchJob
