import BatchJob.Proofs.Execution.Events

set_option autoImplicit false

/-!
The error of a run. It is that of the last attempt: the refusal of its submission as it is, or the
failure of its wait, from which nothing is taken but that another attempt may succeed, and to which
nothing is added but that the budget is spent.
-/

namespace BatchJob

structure Ending where
  operation : String
  failure : Option ExecutionError

namespace Steps

/-- The waits with their ends, after so many earlier ones. -/
def endings (w : World) (earlier : Nat) (steps : List Step) : List Ending :=
  (waits steps).mapIdx fun n operation => ⟨operation, (w.wait (earlier + n) operation).failure⟩

theorem endings_of_unwaited (w : World) (earlier : Nat) {steps : List Step}
    (none : waits steps = []) : endings w earlier steps = [] := by
  rw [endings, none]
  rfl

theorem endings_of_waits (w : World) (earlier : Nat) {steps : List Step} {operation : String}
    (one : waits steps = [operation]) :
    endings w earlier steps = [⟨operation, (w.wait earlier operation).failure⟩] := by
  rw [endings, one]
  rfl

theorem endings_append (w : World) (earlier : Nat) {first : List Step} {operation : String}
    (one : waits first = [operation]) (second : List Step) :
    endings w earlier (first ++ second) =
      ⟨operation, (w.wait earlier operation).failure⟩ :: endings w (earlier + 1) second := by
  rw [endings, waits_append, one, List.singleton_append, List.mapIdx_cons, endings]
  simp only [Nat.add_zero, Nat.add_assoc, Nat.add_comm 1]

end Steps

/-- The last submission of some steps was accepted, and the wait for it, which is the last one as
well, ended with an error. -/
def LastFailure (w : World) (m : Moment) (steps : List Step) (operation : String)
    (e : ExecutionError) : Prop :=
  (∃ q, (Steps.calls w m.submits steps).getLast? = some ⟨q, .ok operation⟩) ∧
    (Steps.endings w m.waits steps).getLast? = some ⟨operation, some e⟩ ∧
    (Steps.endings w m.waits steps).length = (Steps.calls w m.submits steps).length

/--
How a run ends by its last attempt, where some attempts were made before those of the given steps.
There is one constructor for each way in which an attempt is the last.
-/
inductive Verdict (w : World) (limit earlier : Nat) (m : Moment) (steps : List Step) :
    Except JobError Outcome → Prop where
  | well {outcome : Outcome}
      (unrefused : ∀ q e, (Steps.calls w m.submits steps).getLast? ≠ some ⟨q, .error e⟩)
      (unfailed : ∀ operation e, ¬ LastFailure w m steps operation e) :
      Verdict w limit earlier m steps (.ok outcome)
  | refused {q : Request} {e : SubmissionError}
      (answer : (Steps.calls w m.submits steps).getLast? = some ⟨q, .error e⟩) :
      Verdict w limit earlier m steps (.error (.submission e))
  | fatal {operation : String} {e : ExecutionError} (last : LastFailure w m steps operation e)
      (fatal : e.retriable = false) : Verdict w limit earlier m steps (.error (.execution e))
  | exhausted {operation : String} {e : ExecutionError} (last : LastFailure w m steps operation e)
      (retriable : e.retriable = true)
      (spent : earlier + (Steps.calls w m.submits steps).length = limit) :
      Verdict w limit earlier m steps (.error (.execution (e.exhausted limit)))
  | interrupted {operation : String} {e : ExecutionError}
      (last : LastFailure w m steps operation e) (retriable : e.retriable = true)
      (remains : earlier + (Steps.calls w m.submits steps).length < limit)
      (cancelled : (m.after w (Steps.throughFailure
        (earlier + (Steps.calls w m.submits steps).length) steps)).isCancelled = true) :
      Verdict w limit earlier m steps (.error (.execution e.final))

namespace Controller

section

variable {w : World} {c : Controller} {request : Request} {s : AttemptState} {m : Moment}
  {operation : String} {failure : Option ExecutionError} {steps rest : List Step}
  {result : Except JobError Outcome}

theorem Final.calls_eq (final : Final w c request s m steps result) :
    Steps.calls w m.submits steps =
      [⟨attemptRequest request s, (w.submit m.submits (attemptRequest request s)).result⟩] :=
  Steps.calls_of_submissions w m.submits final.submissions_eq

/-- After the wait of an attempt there is none. -/
theorem Waited.endings_eq (waited : Waited w c request s m operation failure steps)
    (quiet : Steps.waits rest = []) :
    Steps.endings w m.waits (steps ++ rest) = [⟨operation, failure⟩] := by
  have one : Steps.waits (steps ++ rest) = [operation] := by
    rw [Steps.waits_append, waited.waits_eq, quiet, List.append_nil]
  rw [Steps.endings_of_waits w m.waits one, waited.failure_eq]

theorem Waited.lastFailure {e : ExecutionError}
    (waited : Waited w c request s m operation (some e) steps) (quiet : Steps.waits rest = [])
    (one : Steps.submissions (steps ++ rest) = [attemptRequest request s]) :
    LastFailure w m (steps ++ rest) operation e := by
  have calls := Steps.calls_of_submissions w m.submits one
  have endings := waited.endings_eq quiet
  refine ⟨⟨attemptRequest request s, ?_⟩, ?_, ?_⟩
  · rw [calls, waited.result_eq]
    rfl
  · rw [endings]
    rfl
  · rw [endings, calls]
    rfl

theorem unrefused_of_calls {q : Request}
    (calls : Steps.calls w m.submits steps = [⟨q, .ok operation⟩]) (q' : Request)
    (e : SubmissionError) : (Steps.calls w m.submits steps).getLast? ≠ some ⟨q', .error e⟩ := by
  rw [calls]
  intro same
  cases same

theorem Final.verdict (final : Final w c request s m steps result) {earlier : Nat}
    (number : s.attempt.toNat = earlier + 1) (same : s.budget = c.budget)
    (within : s.attempt.toNat ≤ s.budget.total.toNat) :
    Verdict w c.budget.total.toNat earlier m steps result := by
  have one := final.submissions_eq
  have calls := final.calls_eq
  have last : earlier + (Steps.calls w m.submits steps).length = s.attempt.toNat := by
    rw [calls, number]
    rfl
  cases final with
  | rejected answer =>
      rw [answer] at calls
      exact .refused (congrArg List.getLast? calls)
  | @left operation first accepted leaves =>
      have unwaited : Steps.waits (first ++ [successReport s operation]) = [] := by
        rw [Steps.waits_append, accepted.waits_eq]
        rfl
      rw [accepted.result_eq] at calls
      refine .well (unrefused_of_calls calls) fun _ _ ⟨_, failed, _⟩ => ?_
      rw [Steps.endings_of_unwaited w m.waits unwaited] at failed
      cases failed
  | @succeeded operation steps waited =>
      have quiet : Steps.waits [successReport s operation] = [] := rfl
      rw [waited.result_eq] at calls
      refine .well (unrefused_of_calls calls) fun _ _ ⟨_, failed, _⟩ => ?_
      rw [waited.endings_eq quiet] at failed
      cases failed
  | fatal waited fatal => exact .fatal (waited.lastFailure rfl one) fatal
  | exhausted waited retriable spent =>
      have all := UInt32.le_iff_toNat_le.mp spent
      refine .exhausted (waited.lastFailure rfl one) retriable ?_
      rw [last, ← same]
      exact Nat.le_antisymm within all
  | @interrupted operation e steps logs waited retriable remains quiet cancelled =>
      have left := UInt32.lt_iff_toNat_lt.mp remains
      rw [List.append_assoc, List.cons_append] at one last ⊢
      have unwaited : Steps.waits (failureReport s operation e ::
          (logs ++ [endReport s (.execution e.final)])) = [] := by
        rw [Steps.waits_cons, Steps.waits_append, quiet.waits_eq]
        rfl
      refine .interrupted (waited.lastFailure unwaited one) retriable ?_ ?_
      · rw [last, ← same]
        exact left
      · rw [last, waited.throughFailure_eq]
        exact cancelled

/-- The last attempt is one of those that follow an attempt which is repeated. -/
theorem Repeated.lastFailure_iff (repeated : Repeated w c request s m steps) {next : Call}
    {others : List Call} (follow : Steps.calls w (m.after w steps).submits rest = next :: others)
    (operation : String) (e : ExecutionError) :
    LastFailure w m (steps ++ rest) operation e ↔
      LastFailure w (m.after w steps) rest operation e := by
  obtain ⟨first, one, -⟩ := repeated.waits_eq
  have calls := Steps.calls_append w m.submits repeated.submissions_eq rest
  have endings := Steps.endings_append w m.waits one rest
  rw [← repeated.submits_after] at calls
  rw [← repeated.waits_after] at endings
  rw [follow] at calls
  rw [LastFailure, LastFailure, calls, follow, endings]
  cases Steps.endings w (m.after w steps).waits rest with
  | nil =>
      -- One wait less than there are submissions: the last of these was refused, or not waited for.
      refine iff_of_false ?_ ?_
      · rintro ⟨-, -, waited⟩
        cases waited
      · rintro ⟨-, failed, -⟩
        cases failed
  | cons ending others =>
      simp only [List.getLast?_cons_cons, List.length_cons, Nat.add_right_cancel_iff]

theorem Repeated.verdict {earlier : Nat} (repeated : Repeated w c request s m steps)
    (number : s.attempt.toNat = earlier + 1) {next : Call} {others : List Call}
    (follow : Steps.calls w (m.after w steps).submits rest = next :: others) {limit : Nat}
    (verdict : Verdict w limit (earlier + 1) (m.after w steps) rest result) :
    Verdict w limit earlier m (steps ++ rest) result := by
  have calls := Steps.calls_append w m.submits repeated.submissions_eq rest
  rw [← repeated.submits_after, follow] at calls
  have last : (Steps.calls w m.submits (steps ++ rest)).getLast? =
      (Steps.calls w (m.after w steps).submits rest).getLast? := by
    rw [calls, follow, List.getLast?_cons_cons]
  have count : earlier + (Steps.calls w m.submits (steps ++ rest)).length =
      earlier + 1 + (Steps.calls w (m.after w steps).submits rest).length := by
    rw [calls, follow, List.length_cons]
    omega
  have failure := repeated.lastFailure_iff follow
  cases verdict with
  | well unrefused unfailed =>
      refine .well (fun q e refused => unrefused q e (last.symm.trans refused)) ?_
      exact fun operation e failed => unfailed operation e ((failure operation e).mp failed)
  | refused answer => exact .refused (last.trans answer)
  | fatal failed fatal => exact .fatal ((failure _ _).mpr failed) fatal
  | exhausted failed retriable spent =>
      exact .exhausted ((failure _ _).mpr failed) retriable (count.trans spent)
  | interrupted failed retriable remains cancelled =>
      have later : earlier + 1 + (Steps.calls w (m.after w steps).submits rest).length ≠
          s.attempt.toNat := by
        rw [follow, number, List.length_cons]
        omega
      refine .interrupted ((failure _ _).mpr failed) retriable ?_ ?_
      · rwa [count]
      · rwa [count, repeated.throughFailure_eq later, Moment.after_append]

theorem Course.verdict (course : Course w c request s m steps result) {earlier : Nat}
    (number : s.attempt.toNat = earlier + 1) (same : s.budget = c.budget)
    (within : s.attempt.toNat ≤ s.budget.total.toNat) :
    Verdict w c.budget.total.toNat earlier m steps result := by
  induction course generalizing earlier with
  | last final => exact final.verdict number same within
  | again repeated follows ih =>
      have next := AttemptState.toNat_next repeated.remains
      have left := UInt32.lt_iff_toNat_lt.mp repeated.remains
      obtain ⟨answer, others, follow⟩ := follows.calls_eq
      have later := ih (next.trans (congrArg (· + 1) number)) same (by dsimp only; omega)
      exact repeated.verdict number follow later

end

/-- Every run ends by its last attempt. -/
theorem verdict_of_execute (w : World) (c : Controller) (request : Request) (r : Run) :
    Verdict w c.budget.total.toNat 0 r.moment (c.trace w request r) (c.execute w request r).1 := by
  cases allowed : c.budget.isEmpty with
  | true =>
      obtain ⟨result, quiet⟩ := execute_of_isEmpty w c request r allowed
      have calls : Steps.calls w r.submitted (c.trace w request r) = [] := by
        rw [Steps.calls, quiet.submissions_eq]
        rfl
      rw [result]
      refine .well (fun q e refused => ?_) fun operation e finished => ?_
      · change (Steps.calls w r.submitted _).getLast? = _ at refused
        rw [calls] at refused
        cases refused
      · obtain ⟨⟨q, accepted⟩, -⟩ := finished
        change (Steps.calls w r.submitted _).getLast? = _ at accepted
        rw [calls] at accepted
        cases accepted
  | false =>
      have course := execute_course w c request r allowed
      exact course.verdict rfl rfl (AttemptBudget.total_pos allowed)

end Controller

/-- A note is added to a reason, and so the reason is another one. -/
theorem ExecutionError.reason_ne_exhausted (e : ExecutionError) (attempts : Nat) :
    e.reason ≠ (e.exhausted attempts).reason := by
  intro same
  have lengths := congrArg String.length same
  simp only [exhausted, String.length_append] at lengths
  have note : " (attempt budget of ".length = 20 := by decide
  omega

section

variable {w : World} {limit earlier : Nat} {m : Moment} {steps : List Step}
  {result : Except JobError Outcome}

theorem Verdict.of_execution {e : ExecutionError}
    (verdict : Verdict w limit earlier m steps (.error (.execution e))) :
    let number := earlier + (Steps.calls w m.submits steps).length
    e.retriable = false ∧
      ∃ operation failure, LastFailure w m steps operation failure ∧
        e.operation = failure.operation ∧
        (failure.retriable = false ∧ e.reason = failure.reason ∨
          failure.retriable = true ∧ number < limit ∧ e.reason = failure.reason ∧
            (m.after w (Steps.throughFailure number steps)).isCancelled = true ∨
          failure.retriable = true ∧ number = limit) ∧
        (e.reason = (failure.exhausted limit).reason ↔
          failure.retriable = true ∧ number = limit) := by
  intro number
  cases verdict with
  | fatal last fatal =>
      refine ⟨fatal, _, e, last, rfl, .inl ⟨fatal, rfl⟩, ?_⟩
      refine iff_of_false (e.reason_ne_exhausted limit) ?_
      rw [fatal]
      exact fun other => nomatch other.1
  | @exhausted operation failure last retriable spent =>
      exact ⟨rfl, operation, failure, last, rfl, .inr (.inr ⟨retriable, spent⟩),
        iff_of_true rfl ⟨retriable, spent⟩⟩
  | @interrupted operation failure last retriable remains cancelled =>
      refine ⟨rfl, operation, failure, last, rfl, ?_, ?_⟩
      · exact .inr (.inl ⟨retriable, remains, rfl, cancelled⟩)
      · exact iff_of_false (failure.reason_ne_exhausted limit)
          fun other => Nat.lt_irrefl limit (other.2 ▸ remains)

theorem Verdict.of_lastFailure {operation : String} {failure : ExecutionError}
    (verdict : Verdict w limit earlier m steps result)
    (failed : LastFailure w m steps operation failure) : ∃ e, result = .error (.execution e) := by
  cases verdict with
  | well unrefused unfailed => exact absurd failed (unfailed operation failure)
  | refused answer =>
      obtain ⟨⟨q, accepted⟩, -⟩ := failed
      cases answer.symm.trans accepted
  | fatal last fatal => exact ⟨_, rfl⟩
  | exhausted last retriable spent => exact ⟨_, rfl⟩
  | interrupted last retriable remains cancelled => exact ⟨_, rfl⟩

theorem Verdict.submission_iff (verdict : Verdict w limit earlier m steps result)
    (e : SubmissionError) : result = .error (.submission e) ↔
      ∃ q, (Steps.calls w m.submits steps).getLast? = some ⟨q, .error e⟩ := by
  have other {operation : String} {failure : ExecutionError} {x : ExecutionError}
      (last : LastFailure w m steps operation failure) :
      (Except.error (JobError.execution x) : Except JobError Outcome) = .error (.submission e) ↔
        ∃ q, (Steps.calls w m.submits steps).getLast? = some ⟨q, .error e⟩ := by
    refine iff_of_false nofun ?_
    rintro ⟨q, answer⟩
    obtain ⟨⟨q', accepted⟩, -⟩ := last
    cases answer.symm.trans accepted
  cases verdict with
  | well unrefused unfailed =>
      exact iff_of_false nofun fun ⟨q, answer⟩ => unrefused q e answer
  | @refused q e' answer =>
      constructor
      · intro same
        cases same
        exact ⟨q, answer⟩
      · rintro ⟨q', last⟩
        cases answer.symm.trans last
        rfl
  | fatal last fatal => exact other last
  | exhausted last retriable spent => exact other last
  | interrupted last retriable remains cancelled => exact other last

theorem Verdict.error_cases {e : JobError} (verdict : Verdict w limit earlier m steps (.error e)) :
    (∃ refusal, e = .submission refusal) ∨ ∃ failure, e = .execution failure := by
  cases verdict with
  | refused answer => exact .inl ⟨_, rfl⟩
  | fatal last fatal => exact .inr ⟨_, rfl⟩
  | exhausted last retriable spent => exact .inr ⟨_, rfl⟩
  | interrupted last retriable remains cancelled => exact .inr ⟨_, rfl⟩

end

/--
The error of a run. An error of an operation is that of the last wait, with its operation and its
reason, and allows no other attempt; to the reason a note is added exactly if another attempt might
have succeeded but all that the budget allows have been made. If some are left, then the token is
cancelled. Every failure of the last wait ends the run with an error, every refusal of the last
submission ends it with that refusal as it is, and there are no other errors.
-/
theorem Controller.error_of_execute (w : World) (c : Controller) (request : Request) (r : Run) :
    let steps := c.trace w request r
    let calls := Steps.calls w r.submitted steps
    let limit := min (c.budget.preemptible.toNat + c.budget.standard.toNat) (UInt32.size - 1)
    let result := (c.execute w request r).1
    (∀ e, result = .error (.execution e) → e.retriable = false ∧
      ∃ operation failure, LastFailure w r.moment steps operation failure ∧
        e.operation = failure.operation ∧
        (failure.retriable = false ∧ e.reason = failure.reason ∨
          failure.retriable = true ∧ calls.length < limit ∧ e.reason = failure.reason ∧
            (r.moment.after w (Steps.throughFailure calls.length steps)).isCancelled = true ∨
          failure.retriable = true ∧ calls.length = limit) ∧
        (e.reason = failure.reason ++ " (attempt budget of " ++ toString limit ++ " exhausted)" ↔
          failure.retriable = true ∧ calls.length = limit)) ∧
    (∀ operation failure, LastFailure w r.moment steps operation failure →
      ∃ e, result = .error (.execution e)) ∧
    (∀ e, result = .error (.submission e) ↔ ∃ q, calls.getLast? = some ⟨q, .error e⟩) ∧
    (∀ e, result = .error e → (∃ refusal, e = .submission refusal) ∨
      ∃ failure, e = .execution failure) := by
  intro steps calls limit result
  have total : c.budget.total.toNat = limit := c.budget.toNat_total
  have verdict : Verdict w limit 0 r.moment steps result := total ▸ verdict_of_execute w c request r
  refine ⟨fun e same => ?_, fun operation failure last => verdict.of_lastFailure last,
    verdict.submission_iff, fun e same => ?_⟩
  · rw [same] at verdict
    have said := verdict.of_execution
    rw [Nat.zero_add] at said
    exact said
  · rw [same] at verdict
    exact verdict.error_cases

end BatchJob
