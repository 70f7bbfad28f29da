import BatchJob.Proofs.Execution.Submissions

set_option autoImplicit false

/-!
The events of a run: those of one attempt after the other, numbered like the submissions, with the
end of the run as the last of them.
-/

namespace BatchJob

def Step.event? : Step → Option Event
  | event e => some e
  | _ => none

structure Call where
  request : Request
  answer : Except SubmissionError String

namespace Steps

def events (steps : List Step) : List Event := steps.filterMap Step.event?

/-- The submissions with their answers, after so many earlier ones. -/
def calls (w : World) (earlier : Nat) (steps : List Step) : List Call :=
  (submissions steps).mapIdx fun n q => ⟨q, (w.submit (earlier + n) q).result⟩

@[simp] theorem events_append (first second : List Step) :
    events (first ++ second) = events first ++ events second :=
  List.filterMap_append

@[simp] theorem events_cons (s : Step) (steps : List Step) :
    events (s :: steps) = s.event?.toList ++ events steps := by
  cases s <;> rfl

theorem Logs.events_eq {logs : List Step} (quiet : Logs logs) : events logs = [] :=
  quiet.filterMap_eq _ fun _ _ => rfl

theorem calls_of_submissions (w : World) (earlier : Nat) {steps : List Step} {q : Request}
    (one : submissions steps = [q]) :
    calls w earlier steps = [⟨q, (w.submit earlier q).result⟩] := by
  rw [calls, one]
  rfl

theorem calls_append (w : World) (earlier : Nat) {first : List Step} {q : Request}
    (one : submissions first = [q]) (second : List Step) :
    calls w earlier (first ++ second) =
      ⟨q, (w.submit earlier q).result⟩ :: calls w (earlier + 1) second := by
  rw [calls, submissions_append, one, List.singleton_append, List.mapIdx_cons, calls]
  simp only [Nat.add_zero, Nat.add_assoc, Nat.add_comm 1]

end Steps

/-- What is reported of the cancellation of an operation: nothing, the call, or the call and its
refusal. -/
inductive CancelReport (operation : String) : List Event → Prop where
  | none : CancelReport operation []
  | requested : CancelReport operation [.cancelRequested operation]
  | refused (message : String) :
      CancelReport operation [.cancelRequested operation, .cancelFailed operation message]

/--
The events of a run from the attempt of a given number on, with the calls that it makes and the
result that it comes to. There is one constructor for each way in which an attempt may end.
-/
inductive Account (waits : Bool) :
    Nat → List Call → List Event → Except JobError Outcome → Prop where
  | rejected {k : Nat} {q : Request} {e : SubmissionError} :
      Account waits k [⟨q, .error e⟩] [.runFailed k (JobError.submission e).message]
        (.error (.submission e))
  | left {k : Nat} {q : Request} {operation : String} {attempt : UInt32}
      (leaves : waits = false) (number : attempt.toNat = k) :
      Account waits k [⟨q, .ok operation⟩]
        [.attemptSubmitted operation k q.isPreemptible,
          .runSucceeded operation k q.isPreemptible]
        (.ok (.submitted operation attempt))
  | succeeded {k : Nat} {q : Request} {operation : String} {attempt : UInt32}
      {cancel : List Event} (waiting : waits = true) (report : CancelReport operation cancel)
      (number : attempt.toNat = k) :
      Account waits k [⟨q, .ok operation⟩]
        (.attemptSubmitted operation k q.isPreemptible :: cancel ++
          [.runSucceeded operation k q.isPreemptible])
        (.ok (.succeeded operation attempt))
  | failed {k : Nat} {q : Request} {operation reason : String} {retriable : Bool}
      {cancel : List Event} {e : ExecutionError} (waiting : waits = true)
      (report : CancelReport operation cancel) :
      Account waits k [⟨q, .ok operation⟩]
        (.attemptSubmitted operation k q.isPreemptible :: cancel ++
          [.attemptFailed operation k retriable reason,
            .runFailed k (JobError.execution e).message])
        (.error (.execution e))
  | retried {k : Nat} {q : Request} {operation reason : String} {cancel events : List Event}
      {next : Call} {calls : List Call} {result : Except JobError Outcome}
      (waiting : waits = true) (report : CancelReport operation cancel)
      (follows : Account waits (k + 1) (next :: calls) events result) :
      Account waits k (⟨q, .ok operation⟩ :: next :: calls)
        (.attemptSubmitted operation k q.isPreemptible :: cancel ++
          .attemptFailed operation k true reason ::
            .attemptRetrying (k + 1) next.request.isPreemptible :: events)
        result

def Event.endsRun : Event → Bool
  | runSucceeded .. | runFailed .. => true
  | _ => false

theorem Event.endsRun_eq (e : Event) :
    e.endsRun = (e.name == "run.succeeded" || e.name == "run.failed") := by
  cases e <;> rfl

theorem CancelReport.endsRun_eq {operation : String} {events : List Event}
    (report : CancelReport operation events) : ∀ e ∈ events, e.endsRun = false := by
  cases report with
  | none => exact fun _ member => absurd member List.not_mem_nil
  | requested =>
      simp only [List.mem_singleton, forall_eq]
      rfl
  | refused message =>
      simp only [List.mem_cons, List.not_mem_nil, or_false, forall_eq_or_imp, forall_eq]
      exact ⟨rfl, rfl⟩

/-- The last event of a run tells how it ended, and no other one does. -/
theorem Account.ends {waits : Bool} {k : Nat} {calls : List Call} {events : List Event}
    {result : Except JobError Outcome} (account : Account waits k calls events result) :
    ∃ earlier last, events = earlier ++ [last] ∧ (∀ e ∈ earlier, e.endsRun = false) ∧
      last.name = if result.isOk then "run.succeeded" else "run.failed" := by
  induction account with
  | rejected => exact ⟨[], _, rfl, fun _ member => absurd member List.not_mem_nil, rfl⟩
  | left leaves number =>
      refine ⟨[_], _, rfl, ?_, rfl⟩
      simp only [List.mem_singleton, forall_eq]
      rfl
  | succeeded waiting report number =>
      refine ⟨_ :: _, _, rfl, ?_, rfl⟩
      simp only [List.mem_cons, forall_eq_or_imp]
      exact ⟨rfl, report.endsRun_eq⟩
  | @failed k q operation reason retriable cancel e waiting report =>
      refine ⟨.attemptSubmitted operation k q.isPreemptible :: cancel ++
        [.attemptFailed operation k retriable reason], _, by rw [List.append_assoc]; rfl, ?_, rfl⟩
      simp only [List.mem_append, List.mem_cons, List.not_mem_nil, or_false, or_imp, forall_and,
        forall_eq]
      exact ⟨⟨rfl, report.endsRun_eq⟩, rfl⟩
  | @retried k q operation reason cancel events next calls result waiting report follows ih =>
      obtain ⟨earlier, last, split, others, named⟩ := ih
      refine ⟨.attemptSubmitted operation k q.isPreemptible :: cancel ++
        .attemptFailed operation k true reason ::
          .attemptRetrying (k + 1) next.request.isPreemptible :: earlier, last, ?_, ?_, named⟩
      · rw [split]
        simp only [List.cons_append, List.append_assoc]
      · simp only [List.mem_append, List.mem_cons, or_imp, forall_and, forall_eq]
        exact ⟨⟨rfl, report.endsRun_eq⟩, rfl, rfl, others⟩

section

variable {w : World} {m : Moment} {number : Nat} {operation : String} {steps : List Step}

theorem CancelCall.report (call : CancelCall w number operation steps) :
    CancelReport operation (Steps.events steps) := by
  cases call with
  | accepted quiet answer =>
      simp only [Steps.events_append, Steps.events_cons, quiet.events_eq]
      exact .requested
  | refused quiet answer quietLater =>
      simp only [Steps.events_append, Steps.events_cons, quiet.events_eq, quietLater.events_eq]
      exact .refused _

theorem Reaction.report (reacts : Reaction w m operation steps) :
    CancelReport operation (Steps.events steps) := by
  unfold Reaction at reacts
  split at reacts
  · exact reacts.report
  · rw [reacts]
    exact .none

end

namespace Controller

section

variable {w : World} {c : Controller} {request : Request} {s : AttemptState} {m : Moment}
  {operation : String} {failure : Option ExecutionError} {steps : List Step}
  {result : Except JobError Outcome}

theorem Accepted.events_eq (accepted : Accepted w request s m operation steps) :
    Steps.events steps = [.attemptSubmitted operation s.attempt.toNat
      (attemptRequest request s).isPreemptible] := by
  obtain ⟨quiet, -⟩ := accepted
  simp only [Steps.events_append, Steps.events_cons, quiet.events_eq]
  rfl

/-- Up to the end of a wait the submission is reported, and the cancellation if there was one. -/
theorem Waited.report (waited : Waited w c request s m operation failure steps) :
    ∃ cancel, CancelReport operation cancel ∧ Steps.events steps =
      .attemptSubmitted operation s.attempt.toNat (attemptRequest request s).isPreemptible ::
        cancel := by
  obtain ⟨-, accepted, reacts⟩ := waited
  refine ⟨_, reacts.report, ?_⟩
  rw [Steps.events_append, Steps.events_cons, accepted.events_eq]
  rfl

theorem Final.account (final : Final w c request s m steps result) :
    Account c.wait s.attempt.toNat (Steps.calls w m.submits steps) (Steps.events steps) result := by
  rw [Steps.calls_of_submissions w m.submits final.submissions_eq]
  cases final with
  | rejected answer =>
      rw [answer]
      exact .rejected
  | left accepted leaves =>
      rw [accepted.result_eq, Steps.events_append, accepted.events_eq]
      exact .left leaves rfl
  | succeeded waited =>
      obtain ⟨cancel, report, events⟩ := waited.report
      rw [waited.result_eq, Steps.events_append, events]
      exact .succeeded waited.waiting report rfl
  | fatal waited fatal =>
      obtain ⟨cancel, report, events⟩ := waited.report
      rw [waited.result_eq, Steps.events_append, events]
      exact .failed waited.waiting report
  | exhausted waited retriable spent =>
      obtain ⟨cancel, report, events⟩ := waited.report
      rw [waited.result_eq, Steps.events_append, events]
      exact .failed waited.waiting report
  | interrupted waited retriable remains quiet cancelled =>
      obtain ⟨cancel, report, events⟩ := waited.report
      rw [waited.result_eq, List.append_assoc, List.cons_append]
      simp only [Steps.events_append, Steps.events_cons, events, quiet.events_eq]
      exact .failed waited.waiting report

/-- What is reported of an attempt that another one follows. -/
theorem Repeated.report (repeated : Repeated w c request s m steps) :
    c.wait = true ∧ ∃ operation cancel reason, CancelReport operation cancel ∧
      (w.submit m.submits (attemptRequest request s)).result = .ok operation ∧
      Steps.events steps =
        .attemptSubmitted operation s.attempt.toNat (attemptRequest request s).isPreemptible ::
          cancel ++ [.attemptFailed operation s.attempt.toNat true reason,
            .attemptRetrying (s.attempt.toNat + 1)
              (attemptRequest request { s with attempt := s.attempt + 1 }).isPreemptible] := by
  have next := AttemptState.toNat_next repeated.remains
  cases repeated with
  | @intro operation e steps logs waited retriable remains quiet calm =>
      obtain ⟨cancel, report, events⟩ := waited.report
      refine ⟨waited.waiting, operation, cancel, e.reason, report, waited.result_eq, ?_⟩
      rw [List.append_assoc, List.cons_append, failureReport, retriable, next]
      simp only [Steps.events_append, Steps.events_cons, events, quiet.events_eq]
      rfl

/-- The first call of a course is that of its attempt. -/
theorem Course.calls_eq (course : Course w c request s m steps result) :
    ∃ answer rest, Steps.calls w m.submits steps = ⟨attemptRequest request s, answer⟩ :: rest := by
  cases course with
  | last final =>
      exact ⟨_, [], Steps.calls_of_submissions w m.submits final.submissions_eq⟩
  | again repeated follows =>
      exact ⟨_, _, Steps.calls_append w m.submits repeated.submissions_eq _⟩

theorem Course.account (course : Course w c request s m steps result) :
    Account c.wait s.attempt.toNat (Steps.calls w m.submits steps) (Steps.events steps) result := by
  induction course with
  | last final => exact final.account
  | @again s m steps rest result repeated follows ih =>
      obtain ⟨waiting, operation, cancel, reason, report, answer, events⟩ := repeated.report
      obtain ⟨first, others, calls⟩ := follows.calls_eq
      dsimp only at ih
      rw [AttemptState.toNat_next repeated.remains, repeated.submits_after] at ih
      rw [repeated.submits_after] at calls
      rw [calls] at ih
      rw [Steps.calls_append w m.submits repeated.submissions_eq, calls, answer,
        Steps.events_append, events, List.append_assoc]
      exact .retried waiting report ih

end

/--
What a run reports. With an empty budget it reports nothing. Otherwise its events are those of one
attempt after the other, under the numbers, operations and kinds of machine of the submissions that
it makes, up to the result that it comes to; its end is reported once, by the last event.
-/
theorem events_of_execute (w : World) (c : Controller) (request : Request) (r : Run) :
    let steps := c.trace w request r
    let result := (c.execute w request r).1
    (c.budget.preemptible = 0 ∧ c.budget.standard = 0 → Steps.events steps = []) ∧
    (¬(c.budget.preemptible = 0 ∧ c.budget.standard = 0) →
      Account c.wait 1 (Steps.calls w r.submitted steps) (Steps.events steps) result ∧
      ∃ earlier last, Steps.events steps = earlier ++ [last] ∧
        (∀ e ∈ earlier, e.name ≠ "run.succeeded" ∧ e.name ≠ "run.failed") ∧
        last.name = if result.isOk then "run.succeeded" else "run.failed") := by
  intro steps result
  rw [← c.budget.isEmpty_iff]
  refine ⟨fun empty => (execute_of_isEmpty w c request r empty).2.events_eq, fun filled => ?_⟩
  have account := (execute_course w c request r (Bool.eq_false_iff.mpr filled)).account
  obtain ⟨earlier, last, split, quiet, named⟩ := account.ends
  refine ⟨account, earlier, last, split, fun e member => ?_, named⟩
  have other := quiet e member
  rw [Event.endsRun_eq, Bool.or_eq_false_iff] at other
  exact ⟨ne_of_beq_false other.1, ne_of_beq_false other.2⟩

end Controller

end BatchJob
