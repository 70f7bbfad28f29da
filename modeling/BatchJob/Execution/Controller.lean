import BatchJob.Attempt
import BatchJob.Execution.Run

set_option autoImplicit false

/-!
The course of a run: attempts follow each other until one succeeds, one fails for good, the budget
is spent, or the token is cancelled.
-/

namespace BatchJob

inductive Outcome where
  | notSubmitted
  | submitted (operation : String) (attempt : UInt32)
  | succeeded (operation : String) (attempt : UInt32)
  deriving DecidableEq

structure Controller where
  budget : AttemptBudget := ⟨1, 0⟩
  /-- Whether operations are waited for. -/
  wait : Bool := true
  /-- Where the log of the pipeline is copied to. -/
  output : Option String := none
  deriving DecidableEq

namespace Controller

def ofConfig (c : Config) : Controller := ⟨.ofConfig c, c.wait, c.output⟩

def announce (c : Controller) (operation : String) (s : AttemptState) (r : Run) : Run :=
  let r := r.log .info ("Pipeline running as " ++ Text.quoted operation ++ " (attempt: " ++
    toString s.attempt ++ ", preemptible: " ++ toString s.isPreemptible ++ ")")
  match c.output with
  | some output => r.log .info ("Output will be written to " ++ Text.quoted output)
  | none => r

def fail (w : World) (s : AttemptState) (r : Run) (e : JobError) : Except JobError Outcome × Run :=
  (.error e, r.emit w (.runFailed s.attempt.toNat e.message))

/-- Makes an attempt and all that follow it. -/
def attempt (w : World) (c : Controller) (request : Request) (s : AttemptState) (r : Run) :
    Except JobError Outcome × Run :=
  let number := s.attempt.toNat
  match r.submit w (request.setPreemptible s.isPreemptible) with
  | (.error e, r) => fail w s r (.submission e)
  | (.ok operation, r) =>
    let r := (c.announce operation s r).emit w
      (.attemptSubmitted operation number s.isPreemptible)
    if !c.wait then
      (.ok (.submitted operation s.attempt),
        r.emit w (.runSucceeded operation number s.isPreemptible))
    else
      match r.waitFor w operation with
      | (none, r) =>
        (.ok (.succeeded operation s.attempt),
          r.emit w (.runSucceeded operation number s.isPreemptible))
      | (some e, r) =>
        let r := r.emit w (.attemptFailed operation number e.retriable e.reason)
        match _h : s.afterFailure e.retriable with
        | (.fail, _) => fail w s r (.execution e)
        | (.exhausted, _) => fail w s r (.execution (e.exhausted c.budget.total.toNat))
        | (.retry, next) =>
          if r.token.isCancelled then
            fail w s (r.log .info "Run cancelled, not retrying") (.execution e.final)
          else
            attempt w c request next ((r.log .warn ("Execution failed: " ++ e.message)).emit w
              (.attemptRetrying next.attempt.toNat next.isPreemptible))
termination_by s.remaining
decreasing_by exact AttemptState.remaining_lt_of_retry _h

def execute (w : World) (c : Controller) (request : Request) (r : Run) :
    Except JobError Outcome × Run :=
  if c.budget.isEmpty then
    (.ok .notSubmitted, r.log .info "Attempt budget is zero, not submitting")
  else attempt w c request (.start c.budget) r

end Controller

end BatchJob
