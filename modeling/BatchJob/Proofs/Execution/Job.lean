import BatchJob.Execution.Job
import BatchJob.Proofs.Assembly.Steps
import BatchJob.Proofs.Execution.Events
import BatchJob.Proofs.Request

set_option autoImplicit false

/-!
A job from its configuration to its end: what is written out is what runs. The request is written
and flushed before anything else is heard of it, and every submission is that request but for the
kind of machine.
-/

namespace BatchJob

namespace Step

/-- Whether a step may occur while a request runs: it calls the service, waits, reports an event, or
is a line of the log. That the request was built is reported before. -/
def Runs : Step → Prop
  | event (.requestBuilt ..) => False
  | submit _ | wait .. | cancel _ | event _ | log .. => True
  | _ => False

/-- Whether a step tells anybody of a request: it calls the service, waits, or reports an event. -/
def Tells : Step → Prop
  | submit _ | wait .. | cancel _ | event _ => True
  | _ => False

def written? : Step → Option String
  | write text => some text
  | _ => none

theorem Gathers.not_tells {s : Step} (gathers : s.Gathers) : ¬ s.Tells := by
  cases s with
  | read _ | readInput | list _ _ | log _ _ => exact id
  | _ => exact gathers.elim

theorem Gathers.submitted?_eq {s : Step} (gathers : s.Gathers) : s.submitted? = none := by
  cases s with
  | submit request => exact gathers.elim
  | _ => rfl

theorem Gathers.written?_eq {s : Step} (gathers : s.Gathers) : s.written? = none := by
  cases s with
  | write text => exact gathers.elim
  | _ => rfl

theorem Runs.written?_eq {s : Step} (runs : s.Runs) : s.written? = none := by
  cases s with
  | write text => exact runs.elim
  | _ => rfl

end Step

theorem Steps.Logs.runs {logs : List Step} (quiet : Logs logs) : ∀ x ∈ logs, x.Runs :=
  quiet.forall_mem fun _ _ => trivial

namespace Controller

section

variable {w : World} {c : Controller} {request : Request} {s : AttemptState} {m : Moment}
  {operation : String} {failure : Option ExecutionError} {steps : List Step}
  {result : Except JobError Outcome}

theorem Accepted.runs (accepted : Accepted w request s m operation steps) :
    ∀ x ∈ steps, x.Runs := by
  obtain ⟨quiet, -⟩ := accepted
  simp only [List.forall_mem_append, List.forall_mem_cons]
  exact ⟨⟨trivial, quiet.runs⟩, trivial, List.forall_mem_nil _⟩

theorem Waited.runs (waited : Waited w c request s m operation failure steps) :
    ∀ x ∈ steps, x.Runs := by
  obtain ⟨-, accepted, reacts⟩ := waited
  simp only [List.forall_mem_append, List.forall_mem_cons]
  refine ⟨accepted.runs, trivial, ?_⟩
  exact reacts.forall_mem Step.Runs (fun _ _ => trivial) trivial trivial (fun _ => trivial)

theorem Final.runs (final : Final w c request s m steps result) : ∀ x ∈ steps, x.Runs := by
  cases final with
  | rejected answer =>
      simp only [List.forall_mem_cons]
      exact ⟨trivial, trivial, List.forall_mem_nil _⟩
  | left accepted leaves =>
      simp only [List.forall_mem_append, List.forall_mem_cons]
      exact ⟨accepted.runs, trivial, List.forall_mem_nil _⟩
  | succeeded waited =>
      simp only [List.forall_mem_append, List.forall_mem_cons]
      exact ⟨waited.runs, trivial, List.forall_mem_nil _⟩
  | fatal waited fatal =>
      simp only [List.forall_mem_append, List.forall_mem_cons]
      exact ⟨waited.runs, trivial, trivial, List.forall_mem_nil _⟩
  | exhausted waited retriable spent =>
      simp only [List.forall_mem_append, List.forall_mem_cons]
      exact ⟨waited.runs, trivial, trivial, List.forall_mem_nil _⟩
  | interrupted waited retriable remains quiet cancelled =>
      simp only [List.forall_mem_append, List.forall_mem_cons]
      exact ⟨⟨waited.runs, trivial, quiet.runs⟩, trivial, List.forall_mem_nil _⟩

theorem Repeated.runs (repeated : Repeated w c request s m steps) : ∀ x ∈ steps, x.Runs := by
  obtain ⟨waited, -, -, quiet, -⟩ := repeated
  simp only [List.forall_mem_append, List.forall_mem_cons]
  exact ⟨⟨waited.runs, trivial, quiet.runs⟩, trivial, List.forall_mem_nil _⟩

theorem Course.runs (course : Course w c request s m steps result) : ∀ x ∈ steps, x.Runs := by
  induction course with
  | last final => exact final.runs
  | again repeated follows ih => exact List.forall_mem_append.mpr ⟨repeated.runs, ih⟩

end

/-- An execution reads, lists and writes nothing. -/
theorem runs_of_execute (w : World) (c : Controller) (request : Request) (r : Run) :
    ∀ x ∈ c.trace w request r, x.Runs := by
  cases allowed : c.budget.isEmpty with
  | true => exact (execute_of_isEmpty w c request r allowed).2.runs
  | false => exact (execute_course w c request r allowed).runs

end Controller

/-- What is written and flushed once, and nothing else, is all that there is to read. -/
theorem writtenText_of_once {before after : List Step} {text : String}
    (unwritten : ∀ s ∈ before, s.written? = none) (kept : ∀ s ∈ after, s.written? = none) :
    writtenText (before ++ .write text :: .flush :: after) = text := by
  have flushed : Step.flush ∈ before ++ .write text :: .flush :: after :=
    List.mem_append_right before (List.mem_cons_of_mem _ List.mem_cons_self)
  have texts : (before ++ .write text :: .flush :: after).filterMap Step.written? = [text] := by
    have none := List.filterMap_eq_nil_iff.mpr kept
    rw [List.filterMap_append, List.filterMap_eq_nil_iff.mpr unwritten, List.nil_append]
    exact congrArg (text :: ·) none
  rw [writtenText, if_pos flushed]
  exact (congrArg "".intercalate texts).trans String.intercalate_singleton

namespace Run

theorem steps_record (r : Run) (s : Step) : (r.record s).steps = r.steps ++ [s] :=
  List.reverse_cons

theorem steps_emit (w : World) (r : Run) (e : Event) :
    (r.emit w e).steps = r.steps ++ [.event e] := by
  have history : (r.emit w e).history = .event e :: r.history :=
    congrArg Moment.history (moment_emit w r e)
  rw [steps, history]
  exact List.reverse_cons

end Run

namespace Job

def builtEvent (request : Request) : Event :=
  .requestBuilt request.pipeline.actions.length request.pipeline.resources.projectId

theorem isDryRun_eq_false_iff (c : Config) : c.isDryRun = false ↔
    c.dryRun = false ∧ ¬(c.pvmAttempts = 0 ∧ c.attempts = 0) := by
  have empty : (c.attemptBudget == 0) = true ↔ c.pvmAttempts = 0 ∧ c.attempts = 0 :=
    (AttemptBudget.ofConfig c).isEmpty_iff
  rw [Config.isDryRun, Bool.or_eq_false_iff, ← empty, Bool.not_eq_true]

/-- After a request was written out, that is reported, and then it runs unless it was only to be
written. -/
theorem steps_runWritten (c : Config) (w : World) (request : Request) (r : Run) :
    ∃ after, (runWritten c w request r).2.steps =
        r.steps ++ .event (builtEvent request) :: after ∧
      (∀ s ∈ after, s.Runs) ∧
      (0 < (Steps.submissions after).length ↔
        c.dryRun = false ∧ ¬(c.pvmAttempts = 0 ∧ c.attempts = 0)) ∧
      ∀ q ∈ Steps.submissions after, ∃ preemptible,
        q = { request with pipeline.resources.virtualMachine.preemptible := preemptible } := by
  let reported := r.emit w (builtEvent request)
  have begun : reported.steps = r.steps ++ [.event (builtEvent request)] := Run.steps_emit w r _
  rw [← isDryRun_eq_false_iff]
  unfold runWritten
  dsimp only
  split
  · next dry =>
      refine ⟨[.log .info "Dry run, not submitting"], ?_, (Run.logs_singleton _ _).runs, ?_, ?_⟩
      · change (reported.record _).steps = _
        rw [Run.steps_record, begun, List.append_assoc]
        rfl
      · simp only [dry, Bool.true_eq_false, iff_false]
        exact Nat.lt_irrefl 0
      · exact fun q member => absurd member List.not_mem_nil
  · next wet =>
      let controller := Controller.ofConfig c
      refine ⟨controller.trace w request reported, ?_,
        Controller.runs_of_execute w controller request reported, ?_, ?_⟩
      · change (controller.execute w request reported).2.steps = _
        rw [Controller.steps_execute, begun, List.append_assoc]
        rfl
      · rw [Controller.submissions_pos_of_execute]
        have filled := ((isDryRun_eq_false_iff c).mp (Bool.eq_false_iff.mpr wet)).2
        exact iff_of_true filled (Bool.eq_false_iff.mpr wet)
      · intro q member
        obtain ⟨n, submitted⟩ := List.mem_iff_getElem?.mp member
        exact ⟨_, Controller.request_of_execute w controller request reported n q submitted⟩

theorem write_of_fault {o : Output} (fails : o.writeFault ≠ none ∨ o.flushFault ≠ none)
    (request : Request) (r : Run) :
    (∃ e, (write o request r).1 = .error e) ∧
      ∀ s ∈ (write o request r).2.steps, s ∈ r.steps ∨ s = .write (request.pretty ++ "\n") := by
  unfold write
  cases first : o.writeFault with
  | some fault => exact ⟨⟨_, rfl⟩, fun s member => .inl member⟩
  | none =>
      cases second : o.flushFault with
      | some fault =>
          refine ⟨⟨_, rfl⟩, fun s member => ?_⟩
          change s ∈ (r.record (.write (request.pretty ++ "\n"))).steps at member
          rwa [Run.steps_record, List.mem_append, List.mem_singleton] at member
      | none =>
          rw [first, second] at fails
          rcases fails with fault | fault <;> exact absurd rfl fault

theorem write_of_sound {o : Output} (writes : o.writeFault = none) (flushes : o.flushFault = none)
    (request : Request) (r : Run) :
    write o request r =
      (.ok (), (r.record (.write (request.pretty ++ "\n"))).record .flush) := by
  simp only [write, writes, flushes]

/-- The run of a job while its request is assembled. -/
def gathered (c : Config) (h : Host) (token : Token Callback) : Run :=
  { token := token, history := (Assembly.compile c h).steps.reverse }

theorem steps_gathered (c : Config) (h : Host) (token : Token Callback) :
    (gathered c h token).steps = (Assembly.compile c h).steps :=
  List.reverse_reverse _

theorem gathers_gathered (c : Config) (h : Host) (token : Token Callback) :
    ∀ s ∈ (gathered c h token).steps, s.Gathers := by
  rw [steps_gathered]
  exact Assembly.gathers_compile c h

section

variable (c : Config) (h : Host) (w : World) (o : Output) (token : Token Callback)

theorem run_of_error {e : JobError} (failed : (Assembly.compile c h).result = .error e) :
    run c h w o token = (.error e, gathered c h token) := by
  simp only [run, failed, gathered]

theorem run_of_unwritten {request : Request} {e : JobError} {r : Run}
    (compiled : (Assembly.compile c h).result = .ok request)
    (failed : write o request (gathered c h token) = (.error e, r)) :
    run c h w o token = (.error e, r) := by
  rw [gathered] at failed
  simp only [run, compiled, failed]

theorem run_of_written {request : Request} {r : Run}
    (compiled : (Assembly.compile c h).result = .ok request)
    (written : write o request (gathered c h token) = (.ok (), r)) :
    run c h w o token = runWritten c w request r := by
  rw [gathered] at written
  simp only [run, compiled, written]

/-- Nobody is told of a request that cannot be assembled, written or flushed. -/
theorem not_tells_of_failure (fails : (∃ e, (Assembly.compile c h).result = .error e) ∨
      o.writeFault ≠ none ∨ o.flushFault ≠ none) :
    (∃ e, (run c h w o token).1 = .error e) ∧ ∀ s ∈ (run c h w o token).2.steps, ¬ s.Tells := by
  have silent : ∀ s ∈ (gathered c h token).steps, ¬ s.Tells := fun s member =>
    (gathers_gathered c h token s member).not_tells
  cases compiled : (Assembly.compile c h).result with
  | error e =>
      rw [run_of_error c h w o token compiled]
      exact ⟨⟨e, rfl⟩, silent⟩
  | ok request =>
      have faulty : o.writeFault ≠ none ∨ o.flushFault ≠ none := by
        rcases fails with ⟨e, failed⟩ | faulty
        · rw [compiled] at failed
          cases failed
        · exact faulty
      obtain ⟨⟨e, failed⟩, steps⟩ := write_of_fault faulty request (gathered c h token)
      rw [run_of_unwritten c h w o token compiled (Prod.ext failed rfl)]
      refine ⟨⟨e, rfl⟩, fun s member => ?_⟩
      rcases steps s member with before | rfl
      · exact silent s before
      · exact id

/-- A job whose request is written and flushed gathers it, writes it, reports it, and runs it. -/
theorem steps_of_written {request : Request}
    (compiled : (Assembly.compile c h).result = .ok request) (writes : o.writeFault = none)
    (flushes : o.flushFault = none) :
    ∃ after, (run c h w o token).2.steps = (gathered c h token).steps ++
        .write (request.pretty ++ "\n") :: .flush :: .event (builtEvent request) :: after ∧
      (∀ s ∈ after, s.Runs) ∧
      (0 < (Steps.submissions after).length ↔
        c.dryRun = false ∧ ¬(c.pvmAttempts = 0 ∧ c.attempts = 0)) ∧
      ∀ q ∈ Steps.submissions after, ∃ preemptible,
        q = { request with pipeline.resources.virtualMachine.preemptible := preemptible } := by
  obtain ⟨after, steps, others⟩ := steps_runWritten c w request
    (((gathered c h token).record (.write (request.pretty ++ "\n"))).record .flush)
  refine ⟨after, ?_, others⟩
  rw [run_of_written c h w o token compiled (write_of_sound writes flushes _ _), steps,
    Run.steps_record, Run.steps_record, List.append_assoc, List.append_assoc]
  rfl

theorem submissions_gathered : Steps.submissions (gathered c h token).steps = [] := by
  apply List.filterMap_eq_nil_iff.mpr
  exact fun s member => (gathers_gathered c h token s member).submitted?_eq

end

/--
What a job does. If its request cannot be assembled, written or flushed, it fails, and the service
is not called, nothing is waited for and no event is reported. Otherwise what is written out is the
text of the request and a line break, from which the request can be read; it is written and flushed
before the first event and before anything is submitted; something is submitted exactly if the
configuration asks for more than the text and allows an attempt; and whatever is submitted, and
however often, is that request but for the kind of machine.
-/
theorem written_of_run (c : Config) (h : Host) (w : World) (o : Output) (token : Token Callback) :
    let result := (run c h w o token).1
    let steps := (run c h w o token).2.steps
    ((∃ e, (Assembly.compile c h).result = .error e) ∨ o.writeFault ≠ none ∨
        o.flushFault ≠ none → (∃ e, result = .error e) ∧ ∀ s ∈ steps, ¬ s.Tells) ∧
    ∀ request, (Assembly.compile c h).result = .ok request → o.writeFault = none →
      o.flushFault = none →
      (∃ before after, steps = before ++ .write (request.pretty ++ "\n") :: .flush ::
        .event (builtEvent request) :: after ∧ ∀ s ∈ before, ¬ s.Tells) ∧
      writtenText steps = request.pretty ++ "\n" ∧
      Request.parse? (writtenText steps) = some request ∧
      (0 < (Steps.submissions steps).length ↔
        c.dryRun = false ∧ ¬(c.pvmAttempts = 0 ∧ c.attempts = 0)) ∧
      ∀ q ∈ Steps.submissions steps, ∃ preemptible,
        q = { request with pipeline.resources.virtualMachine.preemptible := preemptible } := by
  intro result steps
  refine ⟨not_tells_of_failure c h w o token, fun request compiled writes flushes => ?_⟩
  have gathers := gathers_gathered c h token
  obtain ⟨after, shape, acts, submits, same⟩ :=
    steps_of_written c h w o token compiled writes flushes
  have text : writtenText steps = request.pretty ++ "\n" := by
    apply (congrArg writtenText shape).trans
    apply writtenText_of_once
    · exact fun s member => (gathers s member).written?_eq
    · exact List.forall_mem_cons.mpr ⟨rfl, fun s member => (acts s member).written?_eq⟩
  have submissions : Steps.submissions steps = Steps.submissions after := by
    apply (congrArg Steps.submissions shape).trans
    rw [Steps.submissions_append, submissions_gathered]
    rfl
  refine ⟨⟨_, after, shape, fun s member => (gathers s member).not_tells⟩, text, ?_, ?_, ?_⟩
  · rw [text]
    exact request.parse?_line
  · rw [submissions]
    exact submits
  · rw [submissions]
    exact same

end Job

end BatchJob
