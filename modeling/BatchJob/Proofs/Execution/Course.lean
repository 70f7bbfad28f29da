import BatchJob.Proofs.Attempt
import BatchJob.Proofs.Execution.Moment

set_option autoImplicit false

/-!
The course of a run, step by step: which steps an attempt may consist of, under which answers, and
what follows it. Every execution takes such a course, so what is proved by induction over courses
holds of every execution.
-/

namespace BatchJob

namespace Controller

def attemptRequest (request : Request) (s : AttemptState) : Request :=
  request.setPreemptible s.isPreemptible

def failureReport (s : AttemptState) (operation : String) (e : ExecutionError) : Step :=
  .event (.attemptFailed operation s.attempt.toNat e.retriable e.reason)

def endReport (s : AttemptState) (e : JobError) : Step :=
  .event (.runFailed s.attempt.toNat e.message)

def successReport (s : AttemptState) (operation : String) : Step :=
  .event (.runSucceeded operation s.attempt.toNat s.isPreemptible)

section

variable (w : World) (c : Controller) (request : Request) (s : AttemptState) (m : Moment)

/-- The first steps of an attempt that the service accepts. -/
inductive Accepted (operation : String) : List Step → Prop where
  | intro {logs : List Step} (quiet : Steps.Logs logs)
      (answer : (w.submit m.submits (attemptRequest request s)).result = .ok operation) :
      Accepted operation (.submit (attemptRequest request s) :: logs ++
        [.event (.attemptSubmitted operation s.attempt.toNat s.isPreemptible)])

/-- The steps of an attempt up to the end of the wait for its operation. -/
inductive Waited (operation : String) : Option ExecutionError → List Step → Prop where
  | intro {first reaction : List Step} {registered : Nat} (waits : c.wait = true)
      (accepted : Accepted w request s m operation first)
      (reacts : Reaction w (m.after w (first ++ [.wait operation registered])) operation reaction) :
      Waited operation (w.wait m.waits operation).failure
        (first ++ .wait operation registered :: reaction)

/-- The steps and the result of an attempt that no other follows. -/
inductive Final : List Step → Except JobError Outcome → Prop where
  | rejected {e : SubmissionError}
      (answer : (w.submit m.submits (attemptRequest request s)).result = .error e) :
      Final [.submit (attemptRequest request s), endReport s (.submission e)]
        (.error (.submission e))
  | left {operation : String} {first : List Step}
      (accepted : Accepted w request s m operation first) (leaves : c.wait = false) :
      Final (first ++ [successReport s operation]) (.ok (.submitted operation s.attempt))
  | succeeded {operation : String} {steps : List Step}
      (waited : Waited w c request s m operation none steps) :
      Final (steps ++ [successReport s operation]) (.ok (.succeeded operation s.attempt))
  | fatal {operation : String} {e : ExecutionError} {steps : List Step}
      (waited : Waited w c request s m operation (some e) steps) (fatal : e.retriable = false) :
      Final (steps ++ [failureReport s operation e, endReport s (.execution e)])
        (.error (.execution e))
  | exhausted {operation : String} {e : ExecutionError} {steps : List Step}
      (waited : Waited w c request s m operation (some e) steps) (retriable : e.retriable = true)
      (spent : s.budget.total ≤ s.attempt) :
      Final (steps ++ [failureReport s operation e,
          endReport s (.execution (e.exhausted c.budget.total.toNat))])
        (.error (.execution (e.exhausted c.budget.total.toNat)))
  | interrupted {operation : String} {e : ExecutionError} {steps logs : List Step}
      (waited : Waited w c request s m operation (some e) steps) (retriable : e.retriable = true)
      (remains : s.attempt < s.budget.total) (quiet : Steps.Logs logs)
      (cancelled : (m.after w (steps ++ [failureReport s operation e])).isCancelled = true) :
      Final (steps ++ failureReport s operation e :: logs ++ [endReport s (.execution e.final)])
        (.error (.execution e.final))

/-- The steps of an attempt that another one follows. -/
inductive Repeated : List Step → Prop where
  | intro {operation : String} {e : ExecutionError} {steps logs : List Step}
      (waited : Waited w c request s m operation (some e) steps) (retriable : e.retriable = true)
      (remains : s.attempt < s.budget.total) (quiet : Steps.Logs logs)
      (calm : (m.after w (steps ++ [failureReport s operation e])).isCancelled = false) :
      Repeated (steps ++ failureReport s operation e :: logs ++
        [.event (.attemptRetrying (s.attempt + 1).toNat
          { s with attempt := s.attempt + 1 }.isPreemptible)])

end

/-- The steps and the result of an attempt and all that follow it. -/
inductive Course (w : World) (c : Controller) (request : Request) :
    AttemptState → Moment → List Step → Except JobError Outcome → Prop where
  | last {s : AttemptState} {m : Moment} {steps : List Step} {result : Except JobError Outcome}
      (final : Final w c request s m steps result) : Course w c request s m steps result
  | again {s : AttemptState} {m : Moment} {steps rest : List Step}
      {result : Except JobError Outcome} (repeated : Repeated w c request s m steps)
      (follows : Course w c request { s with attempt := s.attempt + 1 } (m.after w steps) rest
        result) : Course w c request s m (steps ++ rest) result

section

variable {w : World} {c : Controller} {request : Request} {s : AttemptState} {m : Moment}
  {operation : String} {failure : Option ExecutionError} {first steps : List Step}

theorem Accepted.result_eq (accepted : Accepted w request s m operation first) :
    (w.submit m.submits (attemptRequest request s)).result = .ok operation := by
  obtain ⟨-, answer⟩ := accepted
  exact answer

theorem Accepted.submissions_eq (accepted : Accepted w request s m operation first) :
    Steps.submissions first = [attemptRequest request s] := by
  obtain ⟨quiet, -⟩ := accepted
  simp only [Steps.submissions_append, Steps.submissions_cons, quiet.submissions_eq]
  rfl

theorem Accepted.waits_eq (accepted : Accepted w request s m operation first) :
    Steps.waits first = [] := by
  obtain ⟨quiet, -⟩ := accepted
  simp only [Steps.waits_append, Steps.waits_cons, quiet.waits_eq]
  rfl

theorem Waited.waiting (waited : Waited w c request s m operation failure steps) :
    c.wait = true := by
  obtain ⟨waits, -, -⟩ := waited
  exact waits

theorem Waited.failure_eq (waited : Waited w c request s m operation failure steps) :
    (w.wait m.waits operation).failure = failure := by
  obtain ⟨-, -, -⟩ := waited
  rfl

theorem Waited.result_eq (waited : Waited w c request s m operation failure steps) :
    (w.submit m.submits (attemptRequest request s)).result = .ok operation := by
  obtain ⟨-, accepted, -⟩ := waited
  exact accepted.result_eq

theorem Waited.submissions_eq (waited : Waited w c request s m operation failure steps) :
    Steps.submissions steps = [attemptRequest request s] := by
  obtain ⟨-, accepted, reacts⟩ := waited
  simp only [Steps.submissions_append, Steps.submissions_cons, accepted.submissions_eq,
    reacts.submissions_eq]
  rfl

theorem Waited.waits_eq (waited : Waited w c request s m operation failure steps) :
    Steps.waits steps = [operation] := by
  obtain ⟨-, accepted, reacts⟩ := waited
  simp only [Steps.waits_append, Steps.waits_cons, accepted.waits_eq, reacts.waits_eq]
  rfl

theorem Final.submissions_eq {result : Except JobError Outcome}
    (final : Final w c request s m steps result) :
    Steps.submissions steps = [attemptRequest request s] := by
  cases final with
  | rejected answer => rfl
  | left accepted leaves =>
      rw [Steps.submissions_append, accepted.submissions_eq]
      rfl
  | succeeded waited =>
      rw [Steps.submissions_append, waited.submissions_eq]
      rfl
  | fatal waited fatal =>
      rw [Steps.submissions_append, waited.submissions_eq]
      rfl
  | exhausted waited retriable spent =>
      rw [Steps.submissions_append, waited.submissions_eq]
      rfl
  | interrupted waited retriable remains quiet cancelled =>
      simp only [Steps.submissions_append, Steps.submissions_cons, waited.submissions_eq,
        quiet.submissions_eq]
      rfl

theorem Repeated.submissions_eq (repeated : Repeated w c request s m steps) :
    Steps.submissions steps = [attemptRequest request s] := by
  obtain ⟨waited, -, -, quiet, -⟩ := repeated
  simp only [Steps.submissions_append, Steps.submissions_cons, waited.submissions_eq,
    quiet.submissions_eq]
  rfl

end

section

variable {w : World} {c : Controller} {request : Request} {s : AttemptState} {r : Run}

theorem moment_announce (c : Controller) (operation : String) (s : AttemptState) (r : Run) :
    ∃ logs, Steps.Logs logs ∧ (c.announce operation s r).moment = r.moment.after w logs := by
  unfold announce
  cases c.output with
  | none => exact ⟨[_], Run.logs_singleton _ _, rfl⟩
  | some output =>
      exact ⟨[_] ++ [_], (Run.logs_singleton _ _).append (Run.logs_singleton _ _), rfl⟩

/-- An accepted submission, announced and reported. -/
theorem accepted_of_submit {operation : String} {submitted : Run}
    (answer : r.submit w (attemptRequest request s) = (.ok operation, submitted)) :
    ∃ first, Accepted w request s r.moment operation first ∧
      ((c.announce operation s submitted).emit w
        (.attemptSubmitted operation s.attempt.toNat s.isPreemptible)).moment =
        r.moment.after w first := by
  have result := Run.fst_submit w r (attemptRequest request s)
  have reached := Run.moment_submit w r (attemptRequest request s)
  rw [answer] at result reached
  obtain ⟨logs, quiet, announced⟩ := moment_announce (w := w) c operation s submitted
  refine ⟨_, .intro quiet result.symm, ?_⟩
  rw [Run.moment_emit, announced, reached, Moment.after_append]
  rfl

/-- An accepted submission whose operation is waited for, up to the end of the wait. -/
theorem waited_of_waitFor {operation : String} {submitted ended : Run}
    {failure : Option ExecutionError}
    (answer : r.submit w (attemptRequest request s) = (.ok operation, submitted))
    (waits : ¬(!c.wait) = true)
    (ends : ((c.announce operation s submitted).emit w
      (.attemptSubmitted operation s.attempt.toNat s.isPreemptible)).waitFor w operation =
        (failure, ended)) :
    ∃ steps, Waited w c request s r.moment operation failure steps ∧
      ended.moment = r.moment.after w steps := by
  obtain ⟨first, accepted, reached⟩ := accepted_of_submit (c := c) answer
  obtain ⟨reaction, reacts, finished⟩ := Run.moment_waitFor w
    ((c.announce operation s submitted).emit w
      (.attemptSubmitted operation s.attempt.toNat s.isPreemptible)) operation
  have result := Run.fst_waitFor w
    ((c.announce operation s submitted).emit w
      (.attemptSubmitted operation s.attempt.toNat s.isPreemptible)) operation
  have count := congrArg Moment.waits reached
  rw [ends] at result finished
  rw [reached] at reacts finished
  have waited := Waited.intro (by simpa using waits) accepted
    (by simpa only [Moment.after_append, Moment.after_cons, Moment.after_nil] using reacts)
  have same : failure = (w.wait r.moment.waits operation).failure := by
    rw [Moment.waits_after, accepted.waits_eq] at count
    exact result.trans (congrArg (fun n => (w.wait n operation).failure) count)
  refine ⟨_, same ▸ waited, ?_⟩
  rw [Moment.after_append]
  exact finished

theorem moment_fail (s : AttemptState) (r : Run) (e : JobError) :
    (fail w s r e).2.moment = r.moment.next w (endReport s e) :=
  Run.moment_emit w r _

theorem moment_failed (operation : String) (e : ExecutionError) {ended : Run} {steps : List Step}
    (finished : ended.moment = r.moment.after w steps) :
    (ended.emit w (.attemptFailed operation s.attempt.toNat e.retriable e.reason)).moment =
      r.moment.after w (steps ++ [failureReport s operation e]) := by
  rw [Run.moment_emit, finished, Moment.after_append]
  rfl

/-- Every attempt takes a course, and leaves the run at the moment to which its steps lead. -/
theorem attempt_course (w : World) (c : Controller) (request : Request) (s : AttemptState)
    (r : Run) :
    ∃ steps, Course w c request s r.moment steps (attempt w c request s r).1 ∧
      (attempt w c request s r).2.moment = r.moment.after w steps := by
  fun_induction attempt w c request s r with
  | case1 s r e submitted answer =>
      have result := Run.fst_submit w r (attemptRequest request s)
      have reached := Run.moment_submit w r (attemptRequest request s)
      rw [attemptRequest, answer] at result reached
      refine ⟨_, .last (.rejected result.symm), ?_⟩
      rw [moment_fail, reached]
      rfl
  | case2 s r number operation submitted answer reported leaves =>
      obtain ⟨first, accepted, reached⟩ := accepted_of_submit (c := c) answer
      refine ⟨_, .last (.left accepted (by simpa using leaves)), ?_⟩
      rw [Run.moment_emit, reached, Moment.after_append]
      rfl
  | case3 s r number operation submitted answer reported waits ended success =>
      obtain ⟨steps, waited, finished⟩ := waited_of_waitFor answer waits success
      refine ⟨_, .last (.succeeded waited), ?_⟩
      rw [Run.moment_emit, finished, Moment.after_append]
      rfl
  | case4 s r number operation submitted answer reported waits e ended failure failed next
      decision =>
      obtain ⟨steps, waited, finished⟩ := waited_of_waitFor answer waits failure
      refine ⟨_, .last (.fatal waited (AttemptState.retriable_of_fail decision)), ?_⟩
      rw [moment_fail, moment_failed operation e finished, Moment.after_append, Moment.after_append]
      rfl
  | case5 s r number operation submitted answer reported waits e ended failure failed next
      decision =>
      obtain ⟨steps, waited, finished⟩ := waited_of_waitFor answer waits failure
      obtain ⟨retriable, spent⟩ := AttemptState.spent_of_exhausted decision
      refine ⟨_, .last (.exhausted waited retriable spent), ?_⟩
      rw [moment_fail, moment_failed operation e finished, Moment.after_append, Moment.after_append]
      rfl
  | case6 s r number operation submitted answer reported waits e ended failure failed next
      decision cancelled =>
      obtain ⟨steps, waited, finished⟩ := waited_of_waitFor answer waits failure
      obtain ⟨retriable, remains, -⟩ := AttemptState.next_of_retry decision
      have atFailure := moment_failed (s := s) operation e finished
      refine ⟨_, .last (.interrupted waited retriable remains
        (Run.logs_singleton .info "Run cancelled, not retrying")
        ((congrArg Moment.isCancelled atFailure).symm.trans cancelled)), ?_⟩
      rw [moment_fail, Run.moment_log w, atFailure]
      simp only [List.append_assoc, List.cons_append, List.nil_append, Moment.after_append,
        Moment.after_cons, Moment.after_nil]
  | case7 s r number operation submitted answer reported waits e ended failure failed next
      decision calm ih =>
      obtain ⟨steps, waited, finished⟩ := waited_of_waitFor answer waits failure
      obtain ⟨retriable, remains, rfl⟩ := AttemptState.next_of_retry decision
      obtain ⟨rest, course, reached⟩ := ih
      have atFailure := moment_failed (s := s) operation e finished
      have fresh := (congrArg Moment.isCancelled atFailure).symm.trans (Bool.eq_false_iff.mpr calm)
      have repeated := Repeated.intro waited retriable remains
        (Run.logs_singleton .warn ("Execution failed: " ++ e.message)) fresh
      rw [Run.moment_emit, Run.moment_log w, atFailure] at course reached
      refine ⟨_ ++ rest, .again repeated ?_, ?_⟩
      · simpa only [Moment.after_append, Moment.after_cons, Moment.after_nil] using course
      · simpa only [Moment.after_append, Moment.after_cons, Moment.after_nil] using reached

end

/-- The steps that an execution adds to those of the run before. -/
def trace (w : World) (c : Controller) (request : Request) (r : Run) : List Step :=
  (c.execute w request r).2.steps.drop r.steps.length

section

variable (w : World) (c : Controller) (request : Request) (r : Run)

theorem trace_of_moment {steps : List Step}
    (reached : (c.execute w request r).2.moment = r.moment.after w steps) :
    c.trace w request r = steps := by
  have history : (c.execute w request r).2.history = steps.reverse ++ r.history := by
    have same := congrArg Moment.history reached
    rwa [Moment.history_after] at same
  simp only [trace, Run.steps, history, List.reverse_append, List.reverse_reverse,
    List.drop_left]

/-- Without a budget nothing is done. -/
theorem execute_of_isEmpty (empty : c.budget.isEmpty = true) :
    (c.execute w request r).1 = .ok .notSubmitted ∧ Steps.Logs (c.trace w request r) := by
  have unfolded : c.execute w request r =
      (.ok .notSubmitted, r.log .info "Attempt budget is zero, not submitting") := by
    simp only [execute, empty, if_true]
  have reached : (c.execute w request r).2.moment =
      r.moment.after w [.log .info "Attempt budget is zero, not submitting"] := by
    rw [unfolded]
    rfl
  rw [trace_of_moment w c request r reached, unfolded]
  exact ⟨rfl, Run.logs_singleton _ _⟩

/-- With a budget the run takes a course that starts with the first attempt. -/
theorem execute_course (allowed : c.budget.isEmpty = false) :
    Course w c request (.start c.budget) r.moment (c.trace w request r)
      (c.execute w request r).1 := by
  have unfolded : c.execute w request r = c.attempt w request (.start c.budget) r := by
    simp only [execute, allowed, Bool.false_eq_true, if_false]
  obtain ⟨steps, course, reached⟩ := attempt_course w c request (.start c.budget) r
  rw [← unfolded] at course reached
  rw [trace_of_moment w c request r reached]
  exact course

/-- An execution ends at the moment to which its steps lead. -/
theorem moment_execute :
    (c.execute w request r).2.moment = r.moment.after w (c.trace w request r) := by
  have reached : ∃ steps, (c.execute w request r).2.moment = r.moment.after w steps := by
    unfold execute
    split
    · exact ⟨[.log .info "Attempt budget is zero, not submitting"], rfl⟩
    · obtain ⟨steps, -, reached⟩ := attempt_course w c request (.start c.budget) r
      exact ⟨steps, reached⟩
  obtain ⟨steps, reached⟩ := reached
  rw [trace_of_moment w c request r reached]
  exact reached

/-- The steps of an execution follow those of the run before. -/
theorem steps_execute : (c.execute w request r).2.steps = r.steps ++ c.trace w request r := by
  have history := congrArg Moment.history (moment_execute w c request r)
  rw [Moment.history_after] at history
  change (c.execute w request r).2.history = _ at history
  simp only [Run.steps, history, List.reverse_append, List.reverse_reverse]
  rfl

end

end Controller

end BatchJob
