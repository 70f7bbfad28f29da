import BatchJob.Config

set_option autoImplicit false

/-!
The attempts of a run: first those on preemptible machines, then those on machines that stay.
-/

namespace BatchJob

/-- How many attempts of each kind a run may make. -/
structure AttemptBudget where
  preemptible : UInt32
  standard : UInt32
  deriving DecidableEq

inductive AttemptDecision where
  | retry
  | fail
  | exhausted
  deriving DecidableEq

/-- The attempt that a run has come to, counted from one. -/
structure AttemptState where
  budget : AttemptBudget
  attempt : UInt32
  deriving DecidableEq

namespace AttemptBudget

def ofConfig (c : Config) : AttemptBudget := ⟨c.pvmAttempts, c.attempts⟩

def total (b : AttemptBudget) : UInt32 := saturatingAdd b.preemptible b.standard

def isEmpty (b : AttemptBudget) : Bool := b.total == 0

def ofJson? (j : Json) : Option AttemptBudget := do
  let f ← j.fields? ["preemptible", "standard"]
  some {
    preemptible := ← f.required "preemptible" Json.word32?
    standard := ← f.required "standard" Json.word32? }

end AttemptBudget

namespace AttemptState

def start (b : AttemptBudget) : AttemptState := ⟨b, 1⟩

/-- Whether the attempt asks for a preemptible machine. -/
def isPreemptible (s : AttemptState) : Bool := s.attempt ≤ s.budget.preemptible

/-- The attempts that may still follow. -/
def remaining (s : AttemptState) : Nat := s.budget.total.toNat - s.attempt.toNat

/-- What follows a failure; a retry is the next attempt. -/
def afterFailure (s : AttemptState) (retriable : Bool) : AttemptDecision × AttemptState :=
  if !retriable then (.fail, s)
  else if s.attempt < s.budget.total then (.retry, { s with attempt := s.attempt + 1 })
  else (.exhausted, s)

/-- A retry uses up one of the remaining attempts. -/
theorem remaining_lt_of_retry {s next : AttemptState} {retriable : Bool}
    (h : s.afterFailure retriable = (.retry, next)) : next.remaining < s.remaining := by
  unfold afterFailure at h
  split at h
  · simp at h
  · split at h
    · next lt =>
      simp only [Prod.mk.injEq, true_and] at h
      subst h
      have lt : s.attempt.toNat < s.budget.total.toNat := UInt32.lt_iff_toNat_lt.1 lt
      have bound := s.budget.total.toNat_lt
      simp only [remaining, UInt32.toNat_add, UInt32.toNat_one]
      omega
    · simp at h

end AttemptState

end BatchJob
