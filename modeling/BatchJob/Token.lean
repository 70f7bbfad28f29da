set_option autoImplicit false

/-!
Tokens of cooperative cancellation. The first reason counts; the callbacks that are registered then
run once, and a later registration runs its callback at once. A panic of a callback is caught.
-/

namespace BatchJob

/-- The state of a token whose callbacks are of type `κ`. -/
structure Token (κ : Type) where
  reason : Option String := none
  /-- The registered callbacks with their numbers, in the order of registration. -/
  callbacks : List (Nat × κ) := []
  /-- The number of the next registration; numbers have 64 bits. -/
  next : Nat := 0
  deriving DecidableEq

namespace Token

variable {κ : Type}

def isCancelled (t : Token κ) : Bool := t.reason.isSome

def registered (t : Token κ) : Nat := t.callbacks.length

/-- Cancels the token; also the callbacks that run, in their order. -/
def cancel (t : Token κ) (reason : String) : Token κ × List κ :=
  if t.isCancelled then (t, [])
  else ({ t with reason := some reason }, t.callbacks.map (·.2))

/-- Registers a callback under the next number; also the callbacks that run at once. -/
def register (t : Token κ) (callback : κ) : Token κ × List κ :=
  let next := (t.next + 1) % UInt64.size
  if t.isCancelled then ({ t with next := next }, [callback])
  else ({ t with callbacks := t.callbacks ++ [(t.next, callback)], next := next }, [])

def drop (t : Token κ) (number : Nat) : Token κ :=
  { t with callbacks := t.callbacks.filter (·.1 ≠ number) }

/-- What running callbacks leaves behind. -/
inductive Effect (κ : Type) where
  /-- A callback runs. -/
  | ran (callback : κ)
  /-- A warning goes to the log. -/
  | warned (message : String)
  deriving DecidableEq

inductive Panic where
  | panicked
  deriving DecidableEq

/-- Running callbacks, which may end in a panic. What was left behind before stays. -/
abbrev Calls (κ α : Type) : Type := ExceptT Panic (StateM (List (Effect κ))) α

def leave (effect : Effect κ) : Calls κ Unit := modify (· ++ [effect])

/-- Runs a callback; `panics` tells which callbacks panic. -/
def call (panics : κ → Bool) (callback : κ) : Calls κ Unit := do
  leave (.ran callback)
  if panics callback then throw .panicked

def invoke (panics : κ → Bool) (callback : κ) : Calls κ Unit :=
  tryCatch (call panics callback) fun _ =>
    leave (.warned "Cancellation callback panicked: Any \x7b .. \x7d")

/-- Runs callbacks one after the other, as long as none of them lets a panic out. -/
def invokeAll (panics : κ → Bool) (callbacks : List κ) : Calls κ Unit :=
  callbacks.forM (invoke panics)

end Token

end BatchJob
