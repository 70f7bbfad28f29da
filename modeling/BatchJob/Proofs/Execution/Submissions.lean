import BatchJob.Proofs.Execution.Course

set_option autoImplicit false

/-!
Submissions: which requests a run submits, and when it submits once more.
-/

namespace BatchJob

/-- Whether the number in an event agrees with the number of submissions up to then. -/
def Event.Counts (submissions : Nat) : Event → Prop
  | attemptSubmitted _ number _ | attemptFailed _ number _ _ | runSucceeded _ number _
  | runFailed number _ => number = submissions
  | attemptRetrying number _ => number = submissions + 1
  | _ => True

def Step.Counts (submissions : Nat) : Step → Prop
  | event e => e.Counts submissions
  | _ => True

namespace Steps

/-- Whether a step reports that the attempt of a given number failed. -/
def isFailureOf (number : Nat) : Step → Bool
  | .event (.attemptFailed _ n _ _) => n == number
  | _ => false

/-- The steps up to the report that the attempt of a given number failed. -/
def throughFailure (number : Nat) : List Step → List Step
  | [] => []
  | s :: rest => if isFailureOf number s then [s] else s :: throughFailure number rest

theorem throughFailure_append {number : Nat} {first : List Step} (second : List Step)
    (unreported : ∀ s ∈ first, isFailureOf number s = false) :
    throughFailure number (first ++ second) = first ++ throughFailure number second := by
  induction first with
  | nil => rfl
  | cons s rest ih =>
      have head := unreported s List.mem_cons_self
      have tail := ih fun x member => unreported x (List.mem_cons_of_mem s member)
      simp only [List.cons_append, throughFailure, head, Bool.false_eq_true, if_false, tail]

theorem throughFailure_cons {number : Nat} {s : Step} (rest : List Step)
    (reported : isFailureOf number s = true) : throughFailure number (s :: rest) = [s] := by
  simp only [throughFailure, reported, if_true]

theorem Logs.counts {logs : List Step} (quiet : Logs logs) :
    ∀ s ∈ logs, ∀ n, s.Counts n :=
  quiet.forall_mem fun _ _ _ => trivial

theorem Logs.not_failure {logs : List Step} (quiet : Logs logs) (number : Nat) :
    ∀ s ∈ logs, isFailureOf number s = false :=
  quiet.forall_mem fun _ _ => rfl

end Steps

namespace Controller

/--
Whether the submission at a place was accepted and waited for, and the wait failed with an error
that allows another attempt.
-/
def Recoverable (w : World) (c : Controller) (m : Moment) (steps : List Step) (n : Nat) : Prop :=
  ∃ q operation e, (Steps.submissions steps)[n]? = some q ∧
    (w.submit (m.submits + n) q).result = .ok operation ∧ c.wait = true ∧
    (w.wait (m.waits + n) operation).failure = some e ∧ e.retriable = true

section

variable {w : World} {c : Controller} {request : Request} {s : AttemptState} {m : Moment}
  {operation : String} {failure : Option ExecutionError} {steps : List Step}
  {result : Except JobError Outcome}

theorem Waited.not_failure (waited : Waited w c request s m operation failure steps)
    (number : Nat) : ∀ x ∈ steps, Steps.isFailureOf number x = false := by
  obtain ⟨-, ⟨quiet, -⟩, reacts⟩ := waited
  intro x member
  simp only [List.mem_append, List.mem_cons, List.not_mem_nil, or_false] at member
  rcases member with ((rfl | member) | rfl) | rfl | member
  · rfl
  · exact quiet.not_failure number x member
  · rfl
  · rfl
  · exact reacts.forall_mem (Steps.isFailureOf number · = false) (fun _ _ => rfl) rfl rfl
      (fun _ => rfl) x member

theorem Waited.throughFailure_eq (waited : Waited w c request s m operation failure steps)
    (e : ExecutionError) (rest : List Step) :
    Steps.throughFailure s.attempt.toNat (steps ++ failureReport s operation e :: rest) =
      steps ++ [failureReport s operation e] := by
  rw [Steps.throughFailure_append _ (waited.not_failure _), Steps.throughFailure_cons]
  exact beq_self_eq_true s.attempt.toNat

theorem Repeated.throughFailure_eq (repeated : Repeated w c request s m steps) {number : Nat}
    (later : number ≠ s.attempt.toNat) (rest : List Step) :
    Steps.throughFailure number (steps ++ rest) = steps ++ Steps.throughFailure number rest := by
  apply Steps.throughFailure_append
  obtain ⟨waited, -, -, quiet, -⟩ := repeated
  intro x member
  simp only [List.mem_append, List.mem_cons, List.not_mem_nil, or_false] at member
  rcases member with (member | rfl | member) | rfl
  · exact waited.not_failure number x member
  · exact decide_eq_false (Ne.symm later)
  · exact quiet.not_failure number x member
  · rfl

theorem Repeated.waits_eq (repeated : Repeated w c request s m steps) :
    ∃ operation, Steps.waits steps = [operation] ∧
      (w.submit m.submits (attemptRequest request s)).result = .ok operation := by
  obtain ⟨waited, -, -, quiet, -⟩ := repeated
  refine ⟨_, ?_, waited.result_eq⟩
  simp only [Steps.waits_append, Steps.waits_cons, waited.waits_eq, quiet.waits_eq]
  rfl

theorem Repeated.remains (repeated : Repeated w c request s m steps) :
    s.attempt < s.budget.total := by
  obtain ⟨-, -, remains, -, -⟩ := repeated
  exact remains

/-- The requests of a course differ in nothing but what kind of machine they ask for. -/
theorem Course.request_eq (course : Course w c request s m steps result) (n : Nat) (q : Request)
    (submitted : (Steps.submissions steps)[n]? = some q) :
    q = request.setPreemptible
      (decide (s.attempt.toNat + n ≤ s.budget.preemptible.toNat)) := by
  induction course generalizing n with
  | last final =>
      rw [final.submissions_eq, List.getElem?_singleton] at submitted
      split at submitted
      · next first =>
        subst first
        cases submitted
        rw [attemptRequest, AttemptState.isPreemptible_eq, Nat.add_zero]
      · cases submitted
  | @again s m steps rest result repeated follows ih =>
      rw [Steps.submissions_append, repeated.submissions_eq, List.singleton_append] at submitted
      cases n with
      | zero =>
          cases submitted
          rw [attemptRequest, AttemptState.isPreemptible_eq, Nat.add_zero]
      | succ n =>
          rw [ih n submitted]
          dsimp only
          rw [AttemptState.toNat_next repeated.remains, Nat.add_right_comm, Nat.add_assoc]

theorem Course.submissions_pos (course : Course w c request s m steps result) :
    0 < (Steps.submissions steps).length := by
  cases course with
  | last final =>
      rw [final.submissions_eq]
      exact Nat.zero_lt_one
  | again repeated follows =>
      rw [Steps.submissions_append, repeated.submissions_eq, List.singleton_append]
      exact Nat.zero_lt_succ _

/-- A course makes no more attempts than the budget has left. -/
theorem Course.length_le (course : Course w c request s m steps result)
    (within : s.attempt.toNat ≤ s.budget.total.toNat) :
    s.attempt.toNat + (Steps.submissions steps).length ≤ s.budget.total.toNat + 1 := by
  induction course with
  | last final =>
      rw [final.submissions_eq, List.length_singleton]
      exact Nat.succ_le_succ within
  | again repeated follows ih =>
      have remains := repeated.remains
      have next := AttemptState.toNat_next remains
      have lt := UInt32.lt_iff_toNat_lt.mp remains
      have rest := ih (by dsimp only; omega)
      dsimp only at rest
      rw [Steps.submissions_append, repeated.submissions_eq, List.length_append,
        List.length_singleton]
      omega

theorem Repeated.submits_after (repeated : Repeated w c request s m steps) :
    (m.after w steps).submits = m.submits + 1 := by
  rw [Moment.submits_after, repeated.submissions_eq, List.length_singleton]

theorem Repeated.waits_after (repeated : Repeated w c request s m steps) :
    (m.after w steps).waits = m.waits + 1 := by
  obtain ⟨operation, waits, -⟩ := repeated.waits_eq
  rw [Moment.waits_after, waits, List.length_singleton]

theorem Repeated.getElem?_succ (repeated : Repeated w c request s m steps) (rest : List Step)
    (n : Nat) : (Steps.submissions (steps ++ rest))[n + 1]? = (Steps.submissions rest)[n]? := by
  rw [Steps.submissions_append, repeated.submissions_eq, List.singleton_append,
    List.getElem?_cons_succ]

theorem Repeated.recoverable_zero (repeated : Repeated w c request s m steps) (rest : List Step) :
    Recoverable w c m (steps ++ rest) 0 := by
  have first : (Steps.submissions (steps ++ rest))[0]? = some (attemptRequest request s) := by
    rw [Steps.submissions_append, repeated.submissions_eq]
    rfl
  obtain ⟨waited, retriable, -, -, -⟩ := repeated
  exact ⟨_, _, _, first, waited.result_eq, waited.waiting, waited.failure_eq, retriable⟩

theorem Repeated.recoverable_succ (repeated : Repeated w c request s m steps) (rest : List Step)
    (n : Nat) :
    Recoverable w c m (steps ++ rest) (n + 1) ↔ Recoverable w c (m.after w steps) rest n := by
  simp only [Recoverable, repeated.getElem?_succ, repeated.submits_after, repeated.waits_after,
    Nat.add_assoc, Nat.add_comm 1 n]

/-- What ends a course: the attempt cannot be repeated, or the budget is spent, or the token is
cancelled. -/
theorem Final.not_resubmitted (final : Final w c request s m steps result)
    (recoverable : Recoverable w c m steps 0)
    (remains : s.attempt.toNat < s.budget.total.toNat) :
    (m.after w (Steps.throughFailure s.attempt.toNat steps)).isCancelled = true := by
  obtain ⟨q, operation, e, first, accepted, waits, failure, retriable⟩ := recoverable
  rw [final.submissions_eq] at first
  cases first
  cases final with
  | rejected answer =>
      rw [Nat.add_zero, answer] at accepted
      cases accepted
  | left _ leaves =>
      rw [leaves] at waits
      cases waits
  | succeeded waited =>
      have same := waited.result_eq.symm.trans accepted
      cases same
      have answer := waited.failure_eq.symm.trans failure
      cases answer
  | fatal waited fatal =>
      have same := waited.result_eq.symm.trans accepted
      cases same
      have answer := waited.failure_eq.symm.trans failure
      cases answer
      rw [fatal] at retriable
      cases retriable
  | exhausted _ _ spent =>
      have le := UInt32.le_iff_toNat_le.mp spent
      omega
  | interrupted waited _ _ _ cancelled =>
      rw [List.append_assoc, List.cons_append, waited.throughFailure_eq]
      exact cancelled

/-- A course submits once more exactly when the attempt before failed in a way that allows it, the
budget is not spent, and the token is not cancelled when that failure has been reported. -/
theorem Course.resubmits_iff (course : Course w c request s m steps result) (n : Nat) :
    n + 1 < (Steps.submissions steps).length ↔
      Recoverable w c m steps n ∧ s.attempt.toNat + n < s.budget.total.toNat ∧
        (m.after w (Steps.throughFailure (s.attempt.toNat + n) steps)).isCancelled = false := by
  induction course generalizing n with
  | @last s m steps result final =>
      have single : (Steps.submissions steps).length = 1 := by
        rw [final.submissions_eq, List.length_singleton]
      constructor
      · intro more
        omega
      · rintro ⟨recoverable, remains, calm⟩
        have inside : n < 1 := by
          obtain ⟨q, -, -, submitted, -⟩ := recoverable
          have bound := (List.getElem?_eq_some_iff.mp submitted).1
          omega
        obtain rfl : n = 0 := by omega
        rw [Nat.add_zero, final.not_resubmitted recoverable remains] at calm
        cases calm
  | @again s m steps rest result repeated follows ih =>
      have remains := repeated.remains
      have next := AttemptState.toNat_next remains
      have length : (Steps.submissions (steps ++ rest)).length =
          (Steps.submissions rest).length + 1 := by
        rw [Steps.submissions_append, repeated.submissions_eq, List.singleton_append,
          List.length_cons]
      cases n with
      | zero =>
          have more := follows.submissions_pos
          have calm : (m.after w
              (Steps.throughFailure s.attempt.toNat (steps ++ rest))).isCancelled = false := by
            obtain ⟨waited, -, -, -, calm⟩ := repeated
            rw [List.append_assoc, List.append_assoc, List.cons_append, waited.throughFailure_eq]
            exact calm
          have lt := UInt32.lt_iff_toNat_lt.mp remains
          exact ⟨fun _ => ⟨repeated.recoverable_zero rest, lt, calm⟩, fun _ => by omega⟩
      | succ n =>
          -- The report in question has a higher number, so no step of this attempt is it.
          have number : s.attempt.toNat + (n + 1) = (s.attempt + 1).toNat + n := by omega
          have later : s.attempt.toNat + (n + 1) ≠ s.attempt.toNat := by omega
          rw [length, Nat.add_lt_add_iff_right, ih n, repeated.recoverable_succ,
            repeated.throughFailure_eq later, Moment.after_append, number]

/-- An accepted attempt is waited for, and its failure is reported under its number. -/
def Followed (w : World) (m : Moment) (steps : List Step) (n number : Nat) (operation : String) :
    Prop :=
  (Steps.waits steps)[n]? = some operation ∧
    ∀ e, (w.wait (m.waits + n) operation).failure = some e →
      .event (.attemptFailed operation number e.retriable e.reason) ∈ steps

theorem Waited.followed_of_reported {e : ExecutionError}
    (waited : Waited w c request s m operation (some e) steps) (rest : List Step) :
    Followed w m (steps ++ failureReport s operation e :: rest) 0 s.attempt.toNat operation := by
  refine ⟨?_, ?_⟩
  · rw [Steps.waits_append, waited.waits_eq]
    rfl
  · intro e' failure
    rw [Nat.add_zero, waited.failure_eq] at failure
    cases failure
    exact List.mem_append_right steps List.mem_cons_self

theorem Final.followed (final : Final w c request s m steps result) (waits : c.wait = true)
    (accepted : (w.submit m.submits (attemptRequest request s)).result = .ok operation) :
    Followed w m steps 0 s.attempt.toNat operation := by
  cases final with
  | rejected answer =>
      rw [answer] at accepted
      cases accepted
  | left _ leaves =>
      rw [leaves] at waits
      cases waits
  | succeeded waited =>
      have same := waited.result_eq.symm.trans accepted
      cases same
      refine ⟨?_, ?_⟩
      · rw [Steps.waits_append, waited.waits_eq]
        rfl
      · intro e failure
        rw [Nat.add_zero, waited.failure_eq] at failure
        cases failure
  | fatal waited _ =>
      have same := waited.result_eq.symm.trans accepted
      cases same
      exact waited.followed_of_reported _
  | exhausted waited _ _ =>
      have same := waited.result_eq.symm.trans accepted
      cases same
      exact waited.followed_of_reported _
  | interrupted waited _ _ _ _ =>
      have same := waited.result_eq.symm.trans accepted
      cases same
      rw [List.append_assoc, List.cons_append]
      exact waited.followed_of_reported _

theorem Repeated.followed (repeated : Repeated w c request s m steps)
    (accepted : (w.submit m.submits (attemptRequest request s)).result = .ok operation)
    (rest : List Step) : Followed w m (steps ++ rest) 0 s.attempt.toNat operation := by
  obtain ⟨waited, -, -, -, -⟩ := repeated
  have same := waited.result_eq.symm.trans accepted
  cases same
  rw [List.append_assoc, List.append_assoc, List.cons_append]
  exact waited.followed_of_reported _

theorem Course.followed (course : Course w c request s m steps result) (waits : c.wait = true)
    (n : Nat) (q : Request) (submitted : (Steps.submissions steps)[n]? = some q)
    (accepted : (w.submit (m.submits + n) q).result = .ok operation) :
    Followed w m steps n (s.attempt.toNat + n) operation := by
  induction course generalizing n with
  | @last s m steps result final =>
      rw [final.submissions_eq, List.getElem?_singleton] at submitted
      split at submitted
      · next first =>
        subst first
        cases submitted
        exact final.followed waits accepted
      · cases submitted
  | @again s m steps rest result repeated follows ih =>
      cases n with
      | zero =>
          rw [Steps.submissions_append, repeated.submissions_eq] at submitted
          cases submitted
          exact repeated.followed accepted rest
      | succ n =>
          rw [repeated.getElem?_succ] at submitted
          have place : m.submits + (n + 1) = (m.after w steps).submits + n := by
            rw [repeated.submits_after]
            omega
          rw [place] at accepted
          obtain ⟨waited, reported⟩ := ih n submitted accepted
          obtain ⟨first, waits_eq, -⟩ := repeated.waits_eq
          refine ⟨?_, ?_⟩
          · rw [Steps.waits_append, waits_eq, List.singleton_append, List.getElem?_cons_succ]
            exact waited
          · intro e failure
            have turn : (m.after w steps).waits + n = m.waits + (n + 1) := by
              rw [repeated.waits_after]
              omega
            have number : (s.attempt + 1).toNat + n = s.attempt.toNat + (n + 1) := by
              rw [AttemptState.toNat_next repeated.remains]
              omega
            have member := reported e (by rw [turn]; exact failure)
            dsimp only at member
            rw [number] at member
            exact List.mem_append_right steps member

/-- Whether all numbers in some steps agree with the submissions among these steps, after so many
earlier ones. -/
def Counted (earlier : Nat) (steps : List Step) : Prop :=
  Steps.Everywhere (fun before x _ => x.Counts (earlier + (Steps.submissions before).length)) steps

/-- Steps without a submission agree with the submissions before them. -/
theorem Counted.append {earlier : Nat} {first rest : List Step} (counted : Counted earlier first)
    (silent : ∀ x ∈ rest, x.submitted? = none)
    (counts : ∀ x ∈ rest, x.Counts (earlier + (Steps.submissions first).length)) :
    Counted earlier (first ++ rest) := by
  refine (Steps.everywhere_append _ first rest).mpr ⟨counted, ?_⟩
  intro before x after split
  have none : Steps.submissions before = [] := by
    apply List.filterMap_eq_nil_iff.mpr
    intro y member
    apply silent y
    rw [split]
    exact List.mem_append_left _ member
  rw [Steps.submissions_append, none, List.append_nil]
  exact counts x (split ▸ List.mem_append_cons_self)

theorem Accepted.counted {first : List Step} (accepted : Accepted w request s m operation first)
    {earlier : Nat} (number : s.attempt.toNat = earlier + 1) : Counted earlier first := by
  obtain ⟨quiet, -⟩ := accepted
  have submitted : Counted earlier [.submit (attemptRequest request s)] :=
    (Steps.everywhere_cons _ _ _).mpr ⟨trivial, Steps.everywhere_nil _⟩
  rw [← List.singleton_append, List.append_assoc]
  apply submitted.append
  · intro x member
    rcases List.mem_append.mp member with inLogs | report
    · exact List.filterMap_eq_nil_iff.mp quiet.submissions_eq x inLogs
    · rw [List.mem_singleton.mp report]
      rfl
  · intro x member
    rcases List.mem_append.mp member with inLogs | report
    · exact quiet.counts x inLogs _
    · rw [List.mem_singleton.mp report]
      exact number

theorem Waited.counted (waited : Waited w c request s m operation failure steps) {earlier : Nat}
    (number : s.attempt.toNat = earlier + 1) : Counted earlier steps := by
  obtain ⟨-, accepted, reacts⟩ := waited
  apply (accepted.counted number).append
  · intro x member
    rcases List.mem_cons.mp member with rfl | inReaction
    · rfl
    · exact List.filterMap_eq_nil_iff.mp reacts.submissions_eq x inReaction
  · intro x member
    rcases List.mem_cons.mp member with rfl | inReaction
    · trivial
    · exact reacts.forall_mem (fun x => ∀ n, x.Counts n) (fun _ _ _ => trivial) (fun _ => trivial)
        (fun _ => trivial) (fun _ _ => trivial) x inReaction _

/-- After a wait the failure is reported, and then one thing more. -/
theorem Waited.counted_reported (waited : Waited w c request s m operation failure steps)
    {earlier : Nat} (number : s.attempt.toNat = earlier + 1) (e : ExecutionError) {logs : List Step}
    (quiet : Steps.Logs logs) (final : Step) (silent : final.submitted? = none)
    (counts : final.Counts s.attempt.toNat) :
    Counted earlier (steps ++ failureReport s operation e :: logs ++ [final]) := by
  rw [List.append_assoc]
  apply (waited.counted number).append
  · intro x member
    simp only [List.cons_append, List.mem_append, List.mem_cons, List.not_mem_nil, or_false]
      at member
    rcases member with rfl | inLogs | rfl
    · rfl
    · exact List.filterMap_eq_nil_iff.mp quiet.submissions_eq x inLogs
    · exact silent
  · rw [waited.submissions_eq, List.length_singleton, ← number]
    intro x member
    simp only [List.cons_append, List.mem_append, List.mem_cons, List.not_mem_nil, or_false]
      at member
    rcases member with rfl | inLogs | rfl
    · rfl
    · exact quiet.counts x inLogs _
    · exact counts

theorem Final.counted (final : Final w c request s m steps result) {earlier : Nat}
    (number : s.attempt.toNat = earlier + 1) : Counted earlier steps := by
  have none : Steps.Logs [] := fun _ member => absurd member List.not_mem_nil
  cases final with
  | rejected answer =>
      exact (Steps.everywhere_cons _ _ _).mpr
        ⟨trivial, (Steps.everywhere_cons _ _ _).mpr ⟨number, Steps.everywhere_nil _⟩⟩
  | left accepted leaves =>
      apply (accepted.counted number).append
      · simp only [List.mem_singleton, forall_eq]
        rfl
      · rw [accepted.submissions_eq, List.length_singleton, ← number]
        simp only [List.mem_singleton, forall_eq]
        rfl
  | succeeded waited =>
      apply (waited.counted number).append
      · simp only [List.mem_singleton, forall_eq]
        rfl
      · rw [waited.submissions_eq, List.length_singleton, ← number]
        simp only [List.mem_singleton, forall_eq]
        rfl
  | @fatal _ e _ waited _ =>
      have counted := waited.counted_reported number e none (endReport s (.execution e)) rfl rfl
      simpa only [List.append_assoc, List.cons_append, List.nil_append] using counted
  | @exhausted _ e _ waited _ _ =>
      have counted := waited.counted_reported number e none
        (endReport s (.execution (e.exhausted c.budget.total.toNat))) rfl rfl
      simpa only [List.append_assoc, List.cons_append, List.nil_append] using counted
  | interrupted waited _ _ quiet _ => exact waited.counted_reported number _ quiet _ rfl rfl

theorem Repeated.counted (repeated : Repeated w c request s m steps) {earlier : Nat}
    (number : s.attempt.toNat = earlier + 1) : Counted earlier steps := by
  have next := AttemptState.toNat_next repeated.remains
  obtain ⟨waited, -, -, quiet, -⟩ := repeated
  exact waited.counted_reported number _ quiet _ rfl next

theorem Course.counted (course : Course w c request s m steps result) {earlier : Nat}
    (number : s.attempt.toNat = earlier + 1) : Counted earlier steps := by
  induction course generalizing earlier with
  | last final => exact final.counted number
  | again repeated follows ih =>
      have next := AttemptState.toNat_next repeated.remains
      refine (Steps.everywhere_append _ _ _).mpr ⟨repeated.counted number, ?_⟩
      have rest := ih (next.trans (congrArg (· + 1) number))
      intro before x after split
      rw [Steps.submissions_append, repeated.submissions_eq, List.length_append,
        List.length_singleton, ← Nat.add_assoc]
      exact rest before x after split

end

section

variable (w : World) (c : Controller) (request : Request) (r : Run)

theorem submissions_of_isEmpty (empty : c.budget.isEmpty = true) :
    Steps.submissions (c.trace w request r) = [] :=
  (execute_of_isEmpty w c request r empty).2.submissions_eq

/-- The requests of a run ask for preemptible machines as long as such attempts are left. -/
theorem request_of_execute (n : Nat) (q : Request)
    (submitted : (Steps.submissions (c.trace w request r))[n]? = some q) :
    q = { request with
      pipeline.resources.virtualMachine.preemptible :=
        decide (n + 1 ≤ c.budget.preemptible.toNat) } := by
  cases allowed : c.budget.isEmpty with
  | true =>
      rw [submissions_of_isEmpty w c request r allowed] at submitted
      cases submitted
  | false =>
      have course := execute_course w c request r allowed
      rw [course.request_eq n q submitted, Nat.add_comm n 1]
      rfl

/-- A run submits something unless its budget is empty. -/
theorem submissions_pos_of_execute :
    0 < (Steps.submissions (c.trace w request r)).length ↔
      ¬(c.budget.preemptible = 0 ∧ c.budget.standard = 0) := by
  rw [← c.budget.isEmpty_iff]
  cases allowed : c.budget.isEmpty with
  | true =>
      rw [submissions_of_isEmpty w c request r allowed]
      simp only [List.length_nil, Nat.lt_irrefl, not_true_eq_false]
  | false =>
      have positive := (execute_course w c request r allowed).submissions_pos
      exact iff_of_true positive Bool.false_ne_true

theorem resubmits_of_execute (n : Nat) :
    n + 1 < (Steps.submissions (c.trace w request r)).length ↔
      Recoverable w c r.moment (c.trace w request r) n ∧ n + 1 < c.budget.total.toNat ∧
        (r.moment.after w
          (Steps.throughFailure (n + 1) (c.trace w request r))).isCancelled = false := by
  cases allowed : c.budget.isEmpty with
  | true =>
      have none := submissions_of_isEmpty w c request r allowed
      constructor
      · intro more
        rw [none] at more
        exact absurd more (Nat.not_lt_zero (n + 1))
      · rintro ⟨⟨q, -, -, submitted, -⟩, -⟩
        rw [none] at submitted
        cases submitted
  | false =>
      have again := (execute_course w c request r allowed).resubmits_iff n
      change _ ↔ _ ∧ 1 + n < _ ∧ (Moment.after w _ (Steps.throughFailure (1 + n) _)).isCancelled =
        false at again
      rw [Nat.add_comm 1 n] at again
      exact again

theorem followed_of_execute (waits : c.wait = true) (n : Nat) (q : Request) (operation : String)
    (submitted : (Steps.submissions (c.trace w request r))[n]? = some q)
    (accepted : (w.submit (r.submitted + n) q).result = .ok operation) :
    Followed w r.moment (c.trace w request r) n (n + 1) operation := by
  cases allowed : c.budget.isEmpty with
  | true =>
      rw [submissions_of_isEmpty w c request r allowed] at submitted
      cases submitted
  | false =>
      have course := execute_course w c request r allowed
      have followed := course.followed waits n q submitted accepted
      change Followed w r.moment _ n (1 + n) operation at followed
      rw [Nat.add_comm 1 n] at followed
      exact followed

/-- The budget bounds the submissions. -/
theorem length_submissions_of_execute :
    (Steps.submissions (c.trace w request r)).length ≤ c.budget.total.toNat := by
  cases allowed : c.budget.isEmpty with
  | true =>
      rw [submissions_of_isEmpty w c request r allowed]
      exact Nat.zero_le _
  | false =>
      have course := execute_course w c request r allowed
      have bound := course.length_le (AttemptBudget.total_pos allowed)
      change 1 + _ ≤ c.budget.total.toNat + 1 at bound
      omega

theorem counted_of_execute : Counted 0 (c.trace w request r) := by
  cases allowed : c.budget.isEmpty with
  | true =>
      have quiet := (execute_of_isEmpty w c request r allowed).2
      exact Steps.everywhere_of_forall fun x member _ _ => quiet.counts x member _
  | false => exact (execute_course w c request r allowed).counted rfl

end

/--
What a run submits, and when. Attempt `n + 1` is submitted as the request with a preemptible machine
exactly if it is one of the preemptible attempts; the first is made unless the budget is empty; and
another follows exactly when the last was accepted and waited for and failed in a way that allows
it, attempts are left, and the token is not cancelled once the failure has been reported. So the
budget bounds the submissions, and the number of an attempt, which is a word, never wraps around: in
every event it is the number of submissions up to then.
-/
theorem submissions_of_execute (w : World) (c : Controller) (request : Request) (r : Run) :
    let steps := c.trace w request r
    let calls := Steps.submissions steps
    let limit := min (c.budget.preemptible.toNat + c.budget.standard.toNat) (UInt32.size - 1)
    (∀ n q, calls[n]? = some q →
      q = { request with
        pipeline.resources.virtualMachine.preemptible :=
          decide (n + 1 ≤ c.budget.preemptible.toNat) }) ∧
    (0 < calls.length ↔ ¬(c.budget.preemptible = 0 ∧ c.budget.standard = 0)) ∧
    (∀ n, n + 1 < calls.length ↔
      (∃ q operation e, calls[n]? = some q ∧
        (w.submit (r.submitted + n) q).result = .ok operation ∧ c.wait = true ∧
        (w.wait (r.waited + n) operation).failure = some e ∧ e.retriable = true) ∧
      n + 1 < limit ∧
      (r.moment.after w (Steps.throughFailure (n + 1) steps)).isCancelled = false) ∧
    (∀ n q operation, calls[n]? = some q →
      (w.submit (r.submitted + n) q).result = .ok operation → c.wait = true →
      (Steps.waits steps)[n]? = some operation ∧
        ∀ e, (w.wait (r.waited + n) operation).failure = some e →
          .event (.attemptFailed operation (n + 1) e.retriable e.reason) ∈ steps) ∧
    calls.length ≤ limit ∧
    (∀ before e after, steps = before ++ .event e :: after →
      e.Counts (Steps.submissions before).length) := by
  intro steps calls limit
  have total : c.budget.total.toNat = limit := c.budget.toNat_total
  refine ⟨request_of_execute w c request r, submissions_pos_of_execute w c request r, ?_, ?_, ?_,
    ?_⟩
  · intro n
    rw [← total]
    exact resubmits_of_execute w c request r n
  · intro n q operation submitted accepted waits
    exact followed_of_execute w c request r waits n q operation submitted accepted
  · rw [← total]
    exact length_submissions_of_execute w c request r
  · intro before e after split
    have counts := counted_of_execute w c request r before (.event e) after split
    dsimp only at counts
    rw [Nat.zero_add] at counts
    exact counts

end Controller

end BatchJob
