import BatchJob.Error.Remote
import BatchJob.Json.Reader
import BatchJob.Json.Record

set_option autoImplicit false

/-!
Long-running operations, as the service reports them.
-/

namespace BatchJob

structure OperationStatus where
  code : Int := 0
  message : String := ""
  deriving DecidableEq

structure Operation where
  name : String := ""
  done : Bool := false
  error : Option OperationStatus := none
  deriving DecidableEq

namespace OperationStatus

/-- The codes of failures that another attempt may not meet: aborted, and unavailable. -/
def retriableCodes : List Int := [10, 14]

def isRetriable (s : OperationStatus) : Bool := retriableCodes.contains s.code

def ofJson? (j : Json) : Option OperationStatus := do
  let f ← j.fields? ["code", "message"]
  some {
    code := ← f.optional "code" 0 Json.int32?
    message := ← f.optional "message" "" Json.text? }

end OperationStatus

namespace Operation

def ofJson? (j : Json) : Option Operation := do
  let f ← j.fields? ["name", "done", "error"]
  some {
    name := ← f.optional "name" "" Json.text?
    done := ← f.optional "done" false Json.bool?
    error := ← f.optional "error" none (Json.nullable? OperationStatus.ofJson?) }

def parse? (text : String) : Option Operation := (Json.parse? text).bind ofJson?

/-- The failure of a finished operation, under the name by which it was asked for. -/
def failure? (o : Operation) (asked : String) : Option ExecutionError :=
  o.error.map fun status => ⟨asked, status.message, status.isRetriable⟩

end Operation

end BatchJob
