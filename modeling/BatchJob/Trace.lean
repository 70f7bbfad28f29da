import BatchJob.Event
import BatchJob.Request

set_option autoImplicit false

/-!
What a job does to the outside, step by step, beside the result it comes to.
-/

namespace BatchJob

inductive LogLevel where
  | trace | debug | info | warn | error
  deriving DecidableEq

def LogLevel.name : LogLevel → String
  | trace => "TRACE"
  | debug => "DEBUG"
  | info => "INFO"
  | warn => "WARN"
  | error => "ERROR"

/-- One thing that a job does to the outside. -/
inductive Step where
  /-- A file is read. -/
  | read (path : String)
  /-- The standard input is read. -/
  | readInput
  /-- The locations of a kind are listed. -/
  | list (project : String) (kind : LocationKind)
  /-- The request is written out. -/
  | write (text : String)
  /-- The output is flushed. -/
  | flush
  /-- A request is submitted. -/
  | submit (request : Request)
  /-- An operation is waited for, while so many callbacks are registered. -/
  | wait (operation : String) (registered : Nat)
  /-- An operation is cancelled. -/
  | cancel (operation : String)
  /-- An event is reported. -/
  | event (event : Event)
  /-- A line goes to the log. -/
  | log (level : LogLevel) (message : String)
  deriving DecidableEq

/-- A result, and the steps on the way to it. -/
structure Traced (ε α : Type) where
  result : Except ε α
  steps : List Step

namespace Traced

variable {ε ε' α β : Type}

def ofExcept (r : Except ε α) : Traced ε α := ⟨r, []⟩

/-- Goes on after a success; the steps of both parts follow each other. -/
def bind (first : Traced ε α) (next : α → Traced ε β) : Traced ε β :=
  match first.result with
  | .error e => ⟨.error e, first.steps⟩
  | .ok a => ⟨(next a).result, first.steps ++ (next a).steps⟩

instance : Monad (Traced ε) where
  pure a := ⟨.ok a, []⟩
  bind := bind

instance : MonadLift (Except ε) (Traced ε) := ⟨ofExcept⟩

def step (s : Step) : Traced ε Unit := ⟨.ok (), [s]⟩

def mapError (f : ε → ε') (t : Traced ε α) : Traced ε' α := ⟨t.result.mapError f, t.steps⟩

theorem steps_bind_of_ok (first : Traced ε α) (next : α → Traced ε β) (a : α)
    (success : first.result = .ok a) :
    (first >>= next).steps = first.steps ++ (next a).steps := by
  change (bind first next).steps = _
  simp only [bind, success]

theorem result_bind_of_ok (first : Traced ε α) (next : α → Traced ε β) (a : α)
    (success : first.result = .ok a) : (first >>= next).result = (next a).result := by
  change (bind first next).result = _
  simp only [bind, success]

theorem bind_of_error (first : Traced ε α) (next : α → Traced ε β) (e : ε)
    (failed : first.result = .error e) : first >>= next = ⟨.error e, first.steps⟩ := by
  change bind first next = _
  simp only [bind, failed]

end Traced

end BatchJob
