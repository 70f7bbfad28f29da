import BatchJob.Proofs.Execution.Job

set_option autoImplicit false

/-!
The conduct of a run: whether it is a dry run, whether it waits, and how many attempts it may make.
No stage before the run reads these settings, so what is written out does not depend on them, and a
dry run writes the request that any other run submits.
-/

namespace BatchJob

/-- The settings that say how a request runs, but not what it is. -/
structure Conduct where
  dryRun : Bool
  wait : Bool
  attempts : UInt32
  pvmAttempts : UInt32
  deriving DecidableEq

def Config.conducted (c : Config) (s : Conduct) : Config :=
  { c with
    dryRun := s.dryRun
    wait := s.wait
    attempts := s.attempts
    pvmAttempts := s.pvmAttempts }

section

variable (c : Config) (s : Conduct) (h : Host)

theorem Config.validate_conducted : (c.conducted s).validate = c.validate := rfl

theorem Staging.stageInput_conducted : stageInput (c.conducted s) h = stageInput c h := rfl

theorem Staging.stageOutput_conducted : stageOutput (c.conducted s) = stageOutput c := rfl

theorem Staging.ofStaged_conducted : Plan.ofStaged (c.conducted s) = Plan.ofStaged c := rfl

theorem Staging.plan_conducted : plan (c.conducted s) h = plan c h := by
  unfold plan
  rw [stageInput_conducted, stageOutput_conducted, ofStaged_conducted]
  rfl

theorem Placement.resolve_conducted : resolve (c.conducted s) h = resolve c h := rfl

namespace Assembly

theorem arrange_conducted : arrange (c.conducted s) = arrange c := rfl

theorem machine_conducted : machine (c.conducted s) = machine c := rfl

theorem build_conducted : build (c.conducted s) = build c := by
  funext plan job place
  unfold build
  rw [arrange_conducted, machine_conducted]
  rfl

theorem assemble_conducted (job : List Action) :
    assemble (c.conducted s) h job = assemble c h job := by
  unfold assemble
  rw [Config.validate_conducted, Staging.plan_conducted, Placement.resolve_conducted,
    build_conducted]

theorem compileJob_conducted (job : Script.Job) :
    compileJob (c.conducted s) h job = compileJob c h job := by
  cases job with
  | request r => rfl
  | actions job =>
      exact congrArg (Traced.mapError JobError.config) (assemble_conducted c s h job)

/-- A job is compiled in the same way, with the same steps, whatever the conduct of its run. -/
theorem compile_conducted : compile (c.conducted s) h = compile c h := by
  unfold compile compileSource
  simp only [compileJob_conducted]
  rfl

end Assembly

end

/-- Whether a step announces a request: it writes to the output, or reports that the request was
built. -/
def Step.announces : Step → Bool
  | write _ | flush | event (.requestBuilt ..) => true
  | _ => false

theorem Step.Gathers.announces_eq {s : Step} (gathers : s.Gathers) : s.announces = false := by
  cases s with
  | write _ | flush | event _ => exact gathers.elim
  | _ => rfl

theorem Step.Runs.announces_eq {s : Step} (runs : s.Runs) : s.announces = false := by
  cases s with
  | write _ | flush => exact runs.elim
  | event e =>
      cases e with
      | requestBuilt actions project => exact runs.elim
      | _ => rfl
  | _ => rfl

def Steps.announcement (steps : List Step) : List Step := steps.filter Step.announces

theorem Steps.announcement_append (first second : List Step) :
    announcement (first ++ second) = announcement first ++ announcement second :=
  List.filter_append first second

theorem Steps.announcement_eq_nil {steps : List Step} (silent : ∀ s ∈ steps, s.announces = false) :
    announcement steps = [] :=
  List.filter_eq_nil_iff.mpr fun s member => Bool.eq_false_iff.mp (silent s member)

namespace Job

/-- The announcement of a request over an output: it is written, flushed, and reported, up to the
first fault. -/
def announcementOf (o : Output) (request : Request) : List Step :=
  match o.writeFault, o.flushFault with
  | some _, _ => []
  | none, some _ => [.write (request.pretty ++ "\n")]
  | none, none => [.write (request.pretty ++ "\n"), .flush, .event (builtEvent request)]

section

variable (c : Config) (h : Host) (w : World) (o : Output) (token : Token Callback)

theorem announcement_gathered : Steps.announcement (gathered c h token).steps = [] :=
  Steps.announcement_eq_nil fun s member => (gathers_gathered c h token s member).announces_eq

/-- A job that cannot be compiled is not announced. -/
theorem announcement_of_error {e : JobError} (failed : (Assembly.compile c h).result = .error e) :
    Steps.announcement (run c h w o token).2.steps = [] := by
  rw [run_of_error c h w o token failed]
  exact announcement_gathered c h token

theorem announcement_of_ok {request : Request}
    (compiled : (Assembly.compile c h).result = .ok request) :
    Steps.announcement (run c h w o token).2.steps = announcementOf o request := by
  have none := announcement_gathered c h token
  unfold announcementOf
  cases writes : o.writeFault with
  | some fault =>
      have failed : write o request (gathered c h token) =
          (.error (.input fault), gathered c h token) := by
        simp only [write, writes]
      rw [run_of_unwritten c h w o token compiled failed]
      exact none
  | none =>
      cases flushes : o.flushFault with
      | some fault =>
          have failed : write o request (gathered c h token) =
              (.error (.input fault),
                (gathered c h token).record (.write (request.pretty ++ "\n"))) := by
            simp only [write, writes, flushes]
          rw [run_of_unwritten c h w o token compiled failed, Run.steps_record,
            Steps.announcement_append, none]
          rfl
      | none =>
          obtain ⟨after, steps, runs, -⟩ := steps_of_written c h w o token compiled writes flushes
          have later : Steps.announcement after = [] :=
            Steps.announcement_eq_nil fun s member => (runs s member).announces_eq
          rw [steps, Steps.announcement_append, none]
          exact congrArg (fun rest => .write (request.pretty ++ "\n") :: .flush ::
            .event (builtEvent request) :: rest) later

/-- Whatever is submitted was written out and flushed before, but for the kind of machine. -/
theorem written_of_submitted {q : Request}
    (submitted : q ∈ Steps.submissions (run c h w o token).2.steps) :
    ∃ request preemptible, (Assembly.compile c h).result = .ok request ∧ o.writeFault = none ∧
      o.flushFault = none ∧
      q = { request with pipeline.resources.virtualMachine.preemptible := preemptible } := by
  have sound : ¬((∃ e, (Assembly.compile c h).result = .error e) ∨ o.writeFault ≠ none ∨
      o.flushFault ≠ none) := by
    intro fails
    obtain ⟨s, member, submits⟩ := List.mem_filterMap.mp submitted
    have silent := (not_tells_of_failure c h w o token fails).2 s member
    cases s with
    | submit request => exact silent trivial
    | _ => cases submits
  rw [not_or, not_or, not_not, not_not] at sound
  obtain ⟨succeeds, writes, flushes⟩ := sound
  cases compiled : (Assembly.compile c h).result with
  | error e => exact absurd ⟨e, compiled⟩ succeeds
  | ok request =>
      obtain ⟨after, steps, -, -, same⟩ := steps_of_written c h w o token compiled writes flushes
      rw [steps, Steps.submissions_append, submissions_gathered, List.nil_append] at submitted
      obtain ⟨preemptible, differs⟩ := same q submitted
      exact ⟨request, preemptible, rfl, writes, flushes, differs⟩

end

/-- The text that is written out can be read off the announcement. -/
theorem writtenText_announcement (steps : List Step) :
    writtenText (Steps.announcement steps) = writtenText steps := by
  have flushed : Step.flush ∈ Steps.announcement steps ↔ Step.flush ∈ steps :=
    List.mem_filter.trans (and_iff_left rfl)
  have texts : (Steps.announcement steps).filterMap Step.written? =
      steps.filterMap Step.written? := by
    rw [Steps.announcement, List.filterMap_filter]
    congr 1
    funext s
    cases s with
    | event e => cases e <;> rfl
    | _ => rfl
  exact ite_congr (propext flushed) (fun _ => congrArg "".intercalate texts) fun _ => rfl

/--
Two jobs that differ only in the conduct of their runs, with any services, any sinks of events and
any cancellations. Either both fail with the error in which the request cannot be compiled, and
nothing is written out or reported of it; or both write the same text and report the same about the
request, up to the same fault of the output. What the one submits is what can be read from the
output of the other, be it a dry run or not, but for the kind of machine.
-/
theorem sameAnnouncement_of_run (c : Config) (s t : Conduct) (h : Host) (o : Output) (v w : World)
    (first second : Token Callback) :
    let one := run (c.conducted s) h v o first
    let two := run (c.conducted t) h w o second
    ((∃ e, (Assembly.compile c h).result = .error e ∧ one.1 = .error e ∧ two.1 = .error e ∧
        Steps.announcement one.2.steps = [] ∧ Steps.announcement two.2.steps = []) ∨
      ∃ request, (Assembly.compile c h).result = .ok request ∧
        Steps.announcement one.2.steps = announcementOf o request ∧
        Steps.announcement two.2.steps = announcementOf o request) ∧
    ∀ q ∈ Steps.submissions two.2.steps, ∃ printed preemptible,
      Request.parse? (writtenText one.2.steps) = some printed ∧
        q = { printed with pipeline.resources.virtualMachine.preemptible := preemptible } := by
  intro one two
  have sameOne := congrArg Traced.result (Assembly.compile_conducted c s h)
  have sameTwo := congrArg Traced.result (Assembly.compile_conducted c t h)
  refine ⟨?_, ?_⟩
  · cases compiled : (Assembly.compile c h).result with
    | error e =>
        have failedOne := sameOne.trans compiled
        have failedTwo := sameTwo.trans compiled
        exact .inl ⟨e, rfl, congrArg Prod.fst (run_of_error _ h v o first failedOne),
          congrArg Prod.fst (run_of_error _ h w o second failedTwo),
          announcement_of_error _ h v o first failedOne,
          announcement_of_error _ h w o second failedTwo⟩
    | ok request =>
        exact .inr ⟨request, rfl, announcement_of_ok _ h v o first (sameOne.trans compiled),
          announcement_of_ok _ h w o second (sameTwo.trans compiled)⟩
  · intro q submitted
    obtain ⟨request, preemptible, compiled, writes, flushes, differs⟩ :=
      written_of_submitted _ h w o second submitted
    have announced := announcement_of_ok (c.conducted s) h v o first
      (sameOne.trans (sameTwo.symm.trans compiled))
    have text : writtenText one.2.steps = request.pretty ++ "\n" := by
      rw [← writtenText_announcement, announced, announcementOf, writes, flushes]
      exact writtenText_of_once (List.forall_mem_nil _) fun s member => by
        rw [List.mem_singleton.mp member]
        rfl
    refine ⟨request, preemptible, ?_, differs⟩
    rw [text]
    exact request.parse?_line

end Job

end BatchJob
