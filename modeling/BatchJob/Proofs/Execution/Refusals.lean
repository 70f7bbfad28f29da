import BatchJob.Proofs.Execution.Events

set_option autoImplicit false

/-!
A refused cancel call is reported, and that is all that comes of it. Two runs whose cancel calls are
answered differently differ at most in these reports. Those who hear of a refusal may cancel the
token once more, but by then it is cancelled already.
-/

namespace BatchJob

/-- Whether a step tells that the service refused to cancel an operation: it reports the refusal, or
is the line of the log about it. -/
def Step.tellsRefusal : Step → Bool
  | event (.cancelFailed ..) => true
  | log .warn message => message == "Failed to cancel operation"
  | _ => false

def Step.isCall : Step → Bool
  | submit _ | wait .. | cancel _ => true
  | _ => false

namespace Steps

/-- Steps without those that tell of refusals. -/
def apart (steps : List Step) : List Step := steps.filter fun s => !s.tellsRefusal

theorem apart_append (first second : List Step) :
    apart (first ++ second) = apart first ++ apart second :=
  List.filter_append first second

theorem apart_reverse (steps : List Step) : apart steps.reverse = (apart steps).reverse :=
  List.filter_reverse

theorem apart_cons_congr (s : Step) {first second : List Step} (same : apart first = apart second) :
    apart (s :: first) = apart (s :: second) := by
  rw [apart, apart, List.filter_cons, List.filter_cons]
  exact congrArg (fun rest => if !s.tellsRefusal then s :: rest else rest) same

/-- No call is left out. -/
theorem filter_isCall_apart (steps : List Step) :
    (apart steps).filter Step.isCall = steps.filter Step.isCall := by
  rw [apart, List.filter_filter]
  refine List.filter_congr fun s _ => ?_
  cases s <;> rfl

/-- No event is left out but the refusals. -/
theorem events_apart (steps : List Step) :
    events (apart steps) = (events steps).filter (·.name != "operation.cancel_failed") := by
  rw [events, events, apart, List.filterMap_filter, List.filter_filterMap]
  congr 1
  funext s
  cases s with
  | event e => cases e <;> rfl
  | log level message => exact ite_self none
  | _ => rfl

end Steps

namespace Run

/-- A run and another one that differs from it at most in what it tells of refusals, and only after
the token is cancelled. -/
inductive Alike (r : Run) : Run → Prop where
  | intro (history : List Step) (same : Steps.apart history = Steps.apart r.history)
      (calm : r.token.isCancelled = false → history = r.history) :
      Alike r { r with history := history }

def Match {α : Type} (p q : α × Run) : Prop := p.1 = q.1 ∧ Alike p.2 q.2

section

variable {r t u : Run}

theorem Alike.refl (r : Run) : Alike r r := .intro r.history rfl fun _ => rfl

theorem Alike.symm (alike : Alike r t) : Alike t r := by
  obtain ⟨history, same, calm⟩ := alike
  exact .intro (r := { r with history := history }) r.history same.symm fun fresh =>
    (calm fresh).symm

theorem Alike.trans (first : Alike r t) (second : Alike t u) : Alike r u := by
  obtain ⟨history, same, calm⟩ := first
  obtain ⟨later, sameLater, calmLater⟩ := second
  exact .intro later (sameLater.trans same) fun fresh => (calmLater fresh).trans (calm fresh)

/-- As long as the token is not cancelled there is no difference. -/
theorem Alike.eq_of_calm (alike : Alike r t) (fresh : r.token.isCancelled = false) : t = r := by
  obtain ⟨history, same, calm⟩ := alike
  rw [calm fresh]

theorem Alike.token_eq (alike : Alike r t) : t.token = r.token := by
  obtain ⟨history, same, calm⟩ := alike
  rfl

theorem Alike.called_eq (alike : Alike r t) : t.called = r.called := by
  obtain ⟨history, same, calm⟩ := alike
  rfl

theorem Alike.apart_steps (alike : Alike r t) : Steps.apart t.steps = Steps.apart r.steps := by
  obtain ⟨history, same, calm⟩ := alike
  rw [steps, steps, Steps.apart_reverse, Steps.apart_reverse, same]

theorem Alike.isCancelled (alike : Alike r t) (cancelled : r.token.isCancelled = true) :
    t.token.isCancelled = true := by
  rw [alike.token_eq, cancelled]

theorem Alike.record (alike : Alike r t) (s : Step) : Alike (r.record s) (t.record s) := by
  obtain ⟨history, same, calm⟩ := alike
  exact .intro (s :: history) (Steps.apart_cons_congr s same) fun fresh =>
    congrArg (s :: ·) (calm fresh)

theorem Alike.cancelToken (alike : Alike r t) (reason : String) :
    Alike (r.cancelToken reason) (t.cancelToken reason) := by
  cases cancelled : r.token.isCancelled with
  | false =>
      rw [alike.eq_of_calm cancelled]
      exact .refl _
  | true =>
      rw [cancelToken_of_isCancelled r reason cancelled,
        cancelToken_of_isCancelled t reason (alike.isCancelled cancelled)]
      exact alike

theorem Alike.emit (alike : Alike r t) (w : World) (e : Event) :
    Alike (r.emit w e) (t.emit w e) := by
  cases cancelled : r.token.isCancelled with
  | false =>
      rw [alike.eq_of_calm cancelled]
      exact .refl _
  | true =>
      rw [emit_of_isCancelled w r e cancelled,
        emit_of_isCancelled w t e (alike.isCancelled cancelled)]
      exact alike.record _

theorem Alike.submit (alike : Alike r t) (w : World) (request : Request) :
    Match (r.submit w request) (t.submit w request) := by
  obtain ⟨history, same, calm⟩ := alike
  have counted : Alike { r with submitted := r.submitted + 1 }
      { r with submitted := r.submitted + 1, history := history } :=
    .intro history same calm
  unfold Run.submit
  dsimp only
  cases (w.submit r.submitted request).cancelled with
  | none => exact ⟨rfl, counted.record _⟩
  | some reason => exact ⟨rfl, (counted.record _).cancelToken reason⟩

theorem Alike.recordCancel (alike : Alike r t) (operation : String) :
    Alike ({ r with cancelled := r.cancelled + 1 }.record (.cancel operation))
      ({ t with cancelled := t.cancelled + 1 }.record (.cancel operation)) := by
  obtain ⟨history, same, calm⟩ := alike
  have counted : Alike { r with cancelled := r.cancelled + 1 }
      { r with cancelled := r.cancelled + 1, history := history } :=
    .intro history same calm
  exact counted.record _

theorem Alike.askedToCancel (alike : Alike r t) (w : World) (operation : String) :
    Alike (r.askedToCancel w operation) (t.askedToCancel w operation) :=
  ((alike.record _).emit w _).recordCancel operation

theorem isCancelled_askedToCancel (w : World) (operation : String)
    (cancelled : r.token.isCancelled = true) :
    (r.askedToCancel w operation).token.isCancelled = true := by
  have announced : (r.log .info "Cancelling operation...").token.isCancelled = true := cancelled
  rw [Run.askedToCancel, emit_of_isCancelled w _ _ announced]
  exact cancelled

/-- Whatever the service answers, only reports of it are added. -/
theorem alike_cancelOperation (w : World) (operation : String)
    (cancelled : r.token.isCancelled = true) :
    Alike (r.askedToCancel w operation) (r.cancelOperation w operation) := by
  have asked := isCancelled_askedToCancel w operation cancelled
  unfold Run.cancelOperation
  dsimp only
  split
  · exact .refl _
  · next e refused =>
    change Alike _ (((r.askedToCancel w operation).log .warn "Failed to cancel operation").emit w
      (.cancelFailed operation e.message))
    have logged : ((r.askedToCancel w operation).log .warn
        "Failed to cancel operation").token.isCancelled = true := asked
    -- Nobody who hears of the refusal can cancel the token, so two steps are all that is added.
    rw [emit_of_isCancelled w _ _ logged]
    exact .intro _ rfl fun fresh => absurd (asked.symm.trans fresh) Bool.noConfusion

variable (w : World) (refusals : Nat → String → Option JobError)

theorem Alike.cancelOperation (alike : Alike r t) (cancelled : r.token.isCancelled = true)
    (operation : String) :
    Alike (r.cancelOperation w operation)
      (t.cancelOperation { w with cancel := refusals } operation) :=
  ((alike_cancelOperation w operation cancelled).symm.trans (alike.askedToCancel w operation)).trans
    (alike_cancelOperation { w with cancel := refusals } operation (alike.isCancelled cancelled))

theorem Alike.react (alike : Alike r t) (told : r.pending = true → r.token.isCancelled = true)
    (operation : String) (sent : Bool) :
    Match (react w operation sent r) (react { w with cancel := refusals } operation sent t) := by
  have cleared : Alike { r with pending := false } { t with pending := false } := by
    obtain ⟨history, same, calm⟩ := alike
    exact .intro history same calm
  have pending : t.pending = r.pending := by
    obtain ⟨history, same, calm⟩ := alike
    rfl
  unfold Run.react
  rw [pending]
  split
  · next reacts =>
    have cancelled := told (Bool.and_eq_true_iff.mp reacts).1
    exact ⟨rfl, cleared.cancelOperation w refusals cancelled operation⟩
  · exact ⟨rfl, alike⟩

theorem Match.reactions (operation : String) (reasons : List String) {p q : Bool × Run}
    (paired : Match p q) :
    Match (reactions w operation reasons p)
      (reactions { w with cancel := refusals } operation reasons q) := by
  unfold Run.reactions
  induction reasons generalizing p q with
  | nil => exact paired
  | cons reason rest ih =>
      obtain ⟨sent, r⟩ := p
      obtain ⟨sent', t⟩ := q
      obtain ⟨rfl, alike⟩ := paired
      rw [List.foldl_cons, List.foldl_cons]
      exact ih ((alike.cancelToken reason).react w refusals
        (fun _ => isCancelled_cancelToken r reason) operation sent)

theorem Alike.begunToWait (alike : Alike r t) (operation : String) :
    Alike (r.begunToWait operation) (t.begunToWait operation) := by
  obtain ⟨history, same, calm⟩ := alike
  exact .intro (_ :: history) (Steps.apart_cons_congr _ same) fun fresh =>
    congrArg (_ :: ·) (calm ((isCancelled_begunToWait r operation).symm.trans fresh))

theorem Alike.drop (alike : Alike r t) (number : Nat) :
    Alike { r with token := r.token.drop number } { t with token := t.token.drop number } := by
  obtain ⟨history, same, calm⟩ := alike
  exact .intro history same calm

theorem Alike.waitFor (alike : Alike r t) (operation : String) :
    Match (r.waitFor w operation) (t.waitFor { w with cancel := refusals } operation) := by
  have told : (r.begunToWait operation).pending = (r.begunToWait operation).token.isCancelled :=
    (pending_begunToWait r operation).trans (isCancelled_begunToWait r operation).symm
  have reacted := (alike.begunToWait operation).react w refusals told.symm.trans operation false
  have ended := reacted.reactions w refusals operation (w.wait r.waited operation).cancelled
  obtain ⟨sameNumber, sameCount⟩ : t.token.next = r.token.next ∧ t.waited = r.waited := by
    obtain ⟨history, same, calm⟩ := alike
    exact ⟨rfl, rfl⟩
  rw [waitFor_eq, waitFor_eq, sameNumber, sameCount]
  exact ⟨rfl, ended.2.drop r.token.next⟩

end

end Run

namespace Controller

open Run (Alike Match)

section

variable (w : World) (c : Controller) (request : Request) (s : AttemptState)

def afterFailure (operation : String) (e : ExecutionError) (r : Run) :
    Except JobError Outcome × Run :=
  let r := r.emit w (.attemptFailed operation s.attempt.toNat e.retriable e.reason)
  match s.afterFailure e.retriable with
  | (.fail, _) => fail w s r (.execution e)
  | (.exhausted, _) => fail w s r (.execution (e.exhausted c.budget.total.toNat))
  | (.retry, next) =>
    if r.token.isCancelled then
      fail w s (r.log .info "Run cancelled, not retrying") (.execution e.final)
    else
      attempt w c request next ((r.log .warn ("Execution failed: " ++ e.message)).emit w
        (.attemptRetrying next.attempt.toNat next.isPreemptible))

def afterWait (operation : String) : Option ExecutionError × Run → Except JobError Outcome × Run
  | (none, r) =>
    (.ok (.succeeded operation s.attempt),
      r.emit w (.runSucceeded operation s.attempt.toNat s.isPreemptible))
  | (some e, r) => afterFailure w c request s operation e r

def afterSubmit : Except SubmissionError String × Run → Except JobError Outcome × Run
  | (.error e, r) => fail w s r (.submission e)
  | (.ok operation, r) =>
    let r := (c.announce operation s r).emit w
      (.attemptSubmitted operation s.attempt.toNat s.isPreemptible)
    if !c.wait then
      (.ok (.submitted operation s.attempt),
        r.emit w (.runSucceeded operation s.attempt.toNat s.isPreemptible))
    else afterWait w c request s operation (r.waitFor w operation)

theorem attempt_eq (r : Run) :
    attempt w c request s r =
      afterSubmit w c request s (r.submit w (attemptRequest request s)) := by
  rw [attempt]
  unfold attemptRequest
  generalize r.submit w (request.setPreemptible s.isPreemptible) = answer
  obtain ⟨_ | operation, submitted⟩ := answer
  · rfl
  · dsimp only [afterSubmit]
    generalize (c.announce operation s submitted).emit w
      (.attemptSubmitted operation s.attempt.toNat s.isPreemptible) = reported
    split
    · rfl
    · generalize reported.waitFor w operation = answer
      obtain ⟨_ | e, ended⟩ := answer
      · rfl
      · dsimp only [afterWait, afterFailure]
        split
        all_goals
          next decision => rw [decision]

end

section

variable (w : World) (refusals : Nat → String → Option JobError) (c : Controller)
  (request : Request)

theorem alike_announce {r t : Run} (alike : Alike r t) (operation : String) (s : AttemptState) :
    Alike (c.announce operation s r) (c.announce operation s t) := by
  unfold announce
  cases c.output with
  | none => exact alike.record _
  | some output => exact (alike.record _).record _

theorem match_fail {r t : Run} (alike : Alike r t) (s : AttemptState) (e : JobError) :
    Match (fail w s r e) (fail { w with cancel := refusals } s t e) :=
  ⟨rfl, alike.emit w _⟩

section

variable {s : AttemptState}
  (follows : ∀ retriable next r t, s.afterFailure retriable = (.retry, next) → Alike r t →
    Match (attempt w c request next r) (attempt { w with cancel := refusals } c request next t))

include follows

theorem match_afterFailure (operation : String) (e : ExecutionError) {r t : Run}
    (alike : Alike r t) :
    Match (afterFailure w c request s operation e r)
      (afterFailure { w with cancel := refusals } c request s operation e t) := by
  have failed := alike.emit w (.attemptFailed operation s.attempt.toNat e.retriable e.reason)
  unfold afterFailure
  dsimp only
  split
  · exact match_fail w refusals failed s _
  · exact match_fail w refusals failed s _
  · next next decision =>
    change Match (if _ then _ else _) (if (t.emit w _).token.isCancelled then _ else _)
    rw [failed.token_eq]
    split
    · exact match_fail w refusals (failed.record _) s _
    · exact follows _ next _ _ decision ((failed.record _).emit w _)

theorem match_afterWait (operation : String) {p q : Option ExecutionError × Run}
    (paired : Match p q) :
    Match (afterWait w c request s operation p)
      (afterWait { w with cancel := refusals } c request s operation q) := by
  obtain ⟨failure, r⟩ := p
  obtain ⟨failure', t⟩ := q
  obtain ⟨rfl, alike⟩ := paired
  cases failure with
  | none => exact ⟨rfl, alike.emit w _⟩
  | some e => exact match_afterFailure w refusals c request follows operation e alike

theorem match_afterSubmit {p q : Except SubmissionError String × Run} (paired : Match p q) :
    Match (afterSubmit w c request s p)
      (afterSubmit { w with cancel := refusals } c request s q) := by
  obtain ⟨result, r⟩ := p
  obtain ⟨result', t⟩ := q
  obtain ⟨rfl, alike⟩ := paired
  cases result with
  | error e => exact match_fail w refusals alike s _
  | ok operation =>
      have reported := (alike_announce c alike operation s).emit w
        (.attemptSubmitted operation s.attempt.toNat s.isPreemptible)
      unfold afterSubmit
      dsimp only
      split
      · exact ⟨rfl, reported.emit w _⟩
      · exact match_afterWait w refusals c request follows operation
          (reported.waitFor w refusals operation)

end

/-- From runs that are alike, an attempt and all that follow it come to the same result. -/
theorem match_attempt (s : AttemptState) {r t : Run} (alike : Alike r t) :
    Match (attempt w c request s r) (attempt { w with cancel := refusals } c request s t) := by
  rw [attempt_eq, attempt_eq]
  refine match_afterSubmit w refusals c request ?_ (alike.submit w (attemptRequest request s))
  -- A retry leaves fewer attempts, on which the induction is.
  intro retriable next r t decision alike
  have decreases := AttemptState.remaining_lt_of_retry decision
  exact match_attempt next alike
termination_by s.remaining

theorem match_execute {r t : Run} (alike : Alike r t) :
    Match (c.execute w request r) (c.execute { w with cancel := refusals } request t) := by
  unfold execute
  split
  · exact ⟨rfl, alike.record _⟩
  · exact match_attempt w refusals c request (.start c.budget) alike

end

/--
Two executions that differ only in how the service answers the cancel calls come to the same result,
by the same calls with the same arguments, and leave the token in the same state, with the same
callbacks run. Their steps differ at most in those that tell of refusals. This holds whatever those
who watch do when they hear of one.
-/
theorem sameCourse_of_refusals (w : World) (first second : Nat → String → Option JobError)
    (c : Controller) (request : Request) (r : Run) :
    let once := c.execute { w with cancel := first } request r
    let again := c.execute { w with cancel := second } request r
    let steps := c.trace { w with cancel := first } request r
    let others := c.trace { w with cancel := second } request r
    again.1 = once.1 ∧
    others.filter Step.isCall = steps.filter Step.isCall ∧
    (Steps.events others).filter (·.name != "operation.cancel_failed") =
      (Steps.events steps).filter (·.name != "operation.cancel_failed") ∧
    Steps.apart others = Steps.apart steps ∧
    again.2.token = once.2.token ∧
    again.2.called = once.2.called := by
  intro once again steps others
  have paired : Match once again :=
    match_execute { w with cancel := first } second c request (.refl r)
  obtain ⟨result, alike⟩ := paired
  have apart : Steps.apart others = Steps.apart steps := by
    have whole := alike.apart_steps
    rw [steps_execute, steps_execute, Steps.apart_append, Steps.apart_append] at whole
    exact List.append_cancel_left whole
  refine ⟨result.symm, ?_, ?_, apart, alike.token_eq, alike.called_eq⟩
  · rw [← Steps.filter_isCall_apart, apart, Steps.filter_isCall_apart]
  · rw [← Steps.events_apart, apart, Steps.events_apart]

end Controller

end BatchJob
