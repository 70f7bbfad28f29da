import BatchJob.Proofs.Execution.Course

set_option autoImplicit false

/-!
Cancellation: however often and whenever the token is cancelled, a run asks the service once at most
to cancel an operation, and does so while it waits for that operation.
-/

namespace BatchJob

namespace Steps

/-- The operation that is waited for after one more step. The report of its end ends the wait. -/
def nextUnderWay (now : Option String) : Step → Option String
  | .wait operation _ => some operation
  | .event (.attemptFailed ..) | .event (.runSucceeded ..) => none
  | _ => now

/-- The operation whose wait has begun and has not been reported to have ended. -/
def underWay (steps : List Step) : Option String := steps.foldl nextUnderWay none

def Uncalled (steps : List Step) : Prop :=
  ∀ s ∈ steps, s.submitted? = none ∧ s.waited? = none ∧ s.cancelled? = none

theorem underWay_append (first second : List Step) :
    underWay (first ++ second) = second.foldl nextUnderWay (underWay first) :=
  List.foldl_append

theorem foldl_nextUnderWay {steps : List Step} {now : Option String}
    (kept : ∀ s ∈ steps, nextUnderWay now s = now) : steps.foldl nextUnderWay now = now := by
  induction steps with
  | nil => rfl
  | cons s rest ih =>
      rw [List.foldl_cons, kept s List.mem_cons_self]
      exact ih fun x member => kept x (List.mem_cons_of_mem s member)

/-- Where no wait begins, none is under way. -/
theorem foldl_none {steps : List Step} (unwaited : waits steps = []) :
    steps.foldl nextUnderWay none = none := by
  apply foldl_nextUnderWay
  intro s member
  have none := List.filterMap_eq_nil_iff.mp unwaited s member
  cases s with
  | wait operation registered => cases none
  | event e => cases e <;> rfl
  | _ => rfl

namespace Uncalled

variable {steps : List Step}

theorem submissions_eq (uncalled : Uncalled steps) : submissions steps = [] :=
  List.filterMap_eq_nil_iff.mpr fun s member => (uncalled s member).1

theorem waits_eq (uncalled : Uncalled steps) : waits steps = [] :=
  List.filterMap_eq_nil_iff.mpr fun s member => (uncalled s member).2.1

theorem cancels_eq (uncalled : Uncalled steps) : cancels steps = [] :=
  List.filterMap_eq_nil_iff.mpr fun s member => (uncalled s member).2.2

end Uncalled

theorem Logs.uncalled {logs : List Step} (quiet : Logs logs) : Uncalled logs :=
  quiet.forall_mem fun _ _ => ⟨rfl, rfl, rfl⟩

theorem uncalled_event (e : Event) : Uncalled [.event e] := by
  intro s member
  rw [List.mem_singleton.mp member]
  exact ⟨rfl, rfl, rfl⟩

theorem Uncalled.append {first second : List Step} (left : Uncalled first)
    (right : Uncalled second) : Uncalled (first ++ second) := by
  intro s member
  rcases List.mem_append.mp member with inFirst | inSecond
  · exact left s inFirst
  · exact right s inSecond

end Steps

section

variable {w : World} {m : Moment} {number : Nat} {operation : String} {steps : List Step}

theorem CancelCall.cancels_eq (call : CancelCall w number operation steps) :
    Steps.cancels steps = [operation] := by
  cases call with
  | accepted quiet answer =>
      simp only [Steps.cancels_append, Steps.cancels_cons, quiet.cancels_eq]
      rfl
  | refused quiet answer quietLater =>
      simp only [Steps.cancels_append, Steps.cancels_cons, quiet.cancels_eq, quietLater.cancels_eq]
      rfl

theorem Reaction.cancels_eq (reacts : Reaction w m operation steps) :
    Steps.cancels steps = if m.isCancelled then [operation] else [] := by
  by_cases cancelled : m.isCancelled = true
  · rw [Reaction, if_pos cancelled] at reacts
    rw [if_pos cancelled, reacts.cancels_eq]
  · rw [Reaction, if_neg cancelled] at reacts
    rw [if_neg cancelled, reacts]
    rfl

theorem Reaction.nil_of_calm (reacts : Reaction w m operation steps)
    (calm : m.isCancelled = false) : steps = [] := by
  rwa [Reaction, if_neg (Bool.eq_false_iff.mp calm)] at reacts

/-- While a wait lasts, it stays under way. -/
theorem Reaction.underWay_eq (reacts : Reaction w m operation steps) {before : List Step}
    (within : ∀ x ∈ before, x ∈ steps) (now : Option String) :
    before.foldl Steps.nextUnderWay now = now := by
  apply Steps.foldl_nextUnderWay
  intro x member
  exact reacts.forall_mem (fun x => ∀ now, Steps.nextUnderWay now x = now) (fun _ _ _ => rfl)
    (fun _ => rfl) (fun _ => rfl) (fun _ _ => rfl) x (within x member) now

end

namespace Controller

/-- How a run that starts at a given moment deals with cancellations, by the steps that it makes. -/
structure CancelsOnce (w : World) (m : Moment) (steps : List Step) : Prop where
  /-- There is one cancel call at most. -/
  once : (Steps.cancels steps).length ≤ 1
  /-- It is made when the token is cancelled, for the operation that is waited for, which is the one
  that was submitted last. -/
  during : ∀ before operation after, steps = before ++ .cancel operation :: after →
    (m.after w before).isCancelled = true ∧ Steps.underWay before = some operation ∧
      ∃ earlier q later, before = earlier ++ .submit q :: later ∧ Steps.submissions later = [] ∧
        (w.submit (m.after w earlier).submits q).result = .ok operation
  /-- When the token is cancelled while an operation is waited for, or was so before, then there is
  a cancel call, and nothing is submitted any more. -/
  reached : ∀ before after operation, steps = before ++ after →
    Steps.underWay before = some operation → (m.after w before).isCancelled = true →
      (Steps.cancels steps).length = 1 ∧ Steps.submissions after = []
  /-- There is no cancel call when the token is never cancelled. -/
  never : (m.after w steps).isCancelled = false → Steps.cancels steps = []
  /-- A submission that starts with the token cancelled is the last one. -/
  last : ∀ before q after, steps = before ++ .submit q :: after →
    (m.after w before).isCancelled = true → Steps.submissions after = []

/-- The steps of one attempt: it is not waited for, or it is until its end is reported. -/
inductive Single (w : World) (request : Request) (s : AttemptState) (m : Moment) :
    List Step → Prop where
  | brief {rest : List Step} (uncalled : Steps.Uncalled rest) :
      Single w request s m (.submit (attemptRequest request s) :: rest)
  | waited {operation : String} {first reaction rest : List Step} {registered : Nat} {report : Step}
      (accepted : Accepted w request s m operation first)
      (reacts : Reaction w (m.after w (first ++ [.wait operation registered])) operation reaction)
      (ends : ∀ now, Steps.nextUnderWay now report = none)
      (uncalled : Steps.Uncalled (report :: rest)) :
      Single w request s m (first ++ .wait operation registered :: (reaction ++ report :: rest))

section

variable {w : World} {c : Controller} {request : Request} {s : AttemptState} {m : Moment}
  {operation : String} {failure : Option ExecutionError} {steps rest : List Step}
  {result : Except JobError Outcome}

theorem Waited.single (waited : Waited w c request s m operation failure steps) {report : Step}
    (ends : ∀ now, Steps.nextUnderWay now report = none)
    (uncalled : Steps.Uncalled (report :: rest)) :
    Single w request s m (steps ++ report :: rest) := by
  obtain ⟨-, accepted, reacts⟩ := waited
  rw [List.append_assoc, List.cons_append]
  exact .waited accepted reacts ends uncalled

theorem Final.single (final : Final w c request s m steps result) :
    Single w request s m steps := by
  cases final with
  | rejected answer => exact .brief (Steps.uncalled_event _)
  | left accepted leaves =>
      obtain ⟨quiet, -⟩ := accepted
      rw [List.append_assoc, List.cons_append]
      exact .brief
        (quiet.uncalled.append ((Steps.uncalled_event _).append (Steps.uncalled_event _)))
  | succeeded waited => exact waited.single (fun _ => rfl) (Steps.uncalled_event _)
  | fatal waited fatal =>
      exact waited.single (fun _ => rfl) ((Steps.uncalled_event _).append (Steps.uncalled_event _))
  | exhausted waited retriable spent =>
      exact waited.single (fun _ => rfl) ((Steps.uncalled_event _).append (Steps.uncalled_event _))
  | interrupted waited retriable remains quiet cancelled =>
      rw [List.append_assoc]
      exact waited.single (fun _ => rfl)
        ((Steps.uncalled_event _).append (quiet.uncalled.append (Steps.uncalled_event _)))

theorem Repeated.single (repeated : Repeated w c request s m steps) :
    Single w request s m steps := by
  obtain ⟨waited, -, -, quiet, -⟩ := repeated
  rw [List.append_assoc]
  exact waited.single (fun _ => rfl)
    ((Steps.uncalled_event _).append (quiet.uncalled.append (Steps.uncalled_event _)))

theorem Accepted.cancels_eq {first : List Step}
    (accepted : Accepted w request s m operation first) : Steps.cancels first = [] := by
  obtain ⟨quiet, -⟩ := accepted
  simp only [Steps.cancels_append, Steps.cancels_cons, quiet.cancels_eq]
  rfl

theorem Accepted.underWay_eq {first : List Step}
    (accepted : Accepted w request s m operation first) : Steps.underWay first = none :=
  Steps.foldl_none accepted.waits_eq

end

namespace Single

variable {w : World} {request : Request} {s : AttemptState} {m : Moment} {steps : List Step}

theorem head_eq (single : Single w request s m steps) :
    ∃ rest, steps = .submit (attemptRequest request s) :: rest ∧ Steps.submissions rest = [] := by
  cases single with
  | brief uncalled => exact ⟨_, rfl, uncalled.submissions_eq⟩
  | waited accepted reacts ends uncalled =>
      obtain ⟨quiet, -⟩ := accepted
      refine ⟨_, rfl, ?_⟩
      change Steps.submissions (_ ++ _ ++ _ :: (_ ++ _)) = []
      simp only [Steps.submissions_append, Steps.submissions_cons, quiet.submissions_eq,
        reacts.submissions_eq, uncalled.submissions_eq]
      rfl

/-- Nothing is submitted after any of the steps. -/
theorem submissions_after (single : Single w request s m steps) {before after : List Step}
    (split : steps = before ++ after) (begun : before ≠ []) : Steps.submissions after = [] := by
  obtain ⟨rest, opens, none⟩ := single.head_eq
  rw [opens] at split
  cases before with
  | nil => exact absurd rfl begun
  | cons x before =>
      rw [List.cons_append] at split
      injection split with _ tails
      rw [tails, Steps.submissions_append] at none
      exact (List.append_eq_nil_iff.mp none).2

/-- Nothing precedes the submission. -/
theorem nil_of_submit (single : Single w request s m steps) {before after : List Step}
    {q : Request} (split : steps = before ++ .submit q :: after) : before = [] := by
  cases before with
  | nil => rfl
  | cons x before =>
      have none := single.submissions_after split (List.cons_ne_nil x before)
      rw [Steps.submissions_cons] at none
      cases none

theorem underWay_of_brief {rest before after : List Step} {q : Request}
    (uncalled : Steps.Uncalled rest) (split : .submit q :: rest = before ++ after) :
    Steps.underWay before = none := by
  apply Steps.foldl_none
  have waits : Steps.waits (.submit q :: rest) = [] := by
    rw [Steps.waits_cons, uncalled.waits_eq]
    rfl
  rw [split, Steps.waits_append] at waits
  exact (List.append_eq_nil_iff.mp waits).1

/-- A wait that is under way after it has begun has not been reported to have ended. -/
theorem prefix_of_underWay {named operation : String} {reaction rest seen after : List Step}
    {report : Step} (reacts : Reaction w m named reaction)
    (ends : ∀ now, Steps.nextUnderWay now report = none)
    (uncalled : Steps.Uncalled (report :: rest))
    (split : reaction ++ report :: rest = seen ++ after)
    (waiting : seen.foldl Steps.nextUnderWay (some named) = some operation) :
    named = operation ∧ seen <+: reaction := by
  rcases List.append_eq_append_iff.mp split with ⟨left, rfl, ended⟩ | ⟨left, rfl, -⟩
  · rw [List.foldl_append, reacts.underWay_eq fun _ member => member] at waiting
    cases left with
    | nil =>
        rw [List.append_nil]
        exact ⟨Option.some.inj waiting, List.prefix_refl reaction⟩
    | cons x left =>
        rw [List.cons_append] at ended
        injection ended with same ended
        subst same
        have unwaited := uncalled.waits_eq
        rw [ended, ← List.cons_append, Steps.waits_append, Steps.waits_cons] at unwaited
        have later := (List.append_eq_nil_iff.mp (List.append_eq_nil_iff.mp unwaited).1).2
        rw [List.foldl_cons, ends, Steps.foldl_none later] at waiting
        cases waiting
  · rw [reacts.underWay_eq fun _ member => List.mem_append_left left member] at waiting
    exact ⟨Option.some.inj waiting, List.prefix_append seen left⟩

/-- Only the reaction calls for a cancellation. -/
theorem cancels_of_waited {operation : String} {first reaction : List Step} {registered : Nat}
    (accepted : Accepted w request s m operation first) (uncalled : Steps.Uncalled steps) :
    Steps.cancels (first ++ .wait operation registered :: (reaction ++ steps)) =
      Steps.cancels reaction := by
  rw [Steps.cancels_append, accepted.cancels_eq, Steps.cancels_cons, Steps.cancels_append,
    uncalled.cancels_eq, List.append_nil]
  rfl

/-- A wait that is under way has begun, and its reaction is not over. -/
theorem split_of_underWay (single : Single w request s m steps) {before after : List Step}
    {operation : String} (split : steps = before ++ after)
    (waiting : Steps.underWay before = some operation) :
    ∃ first registered seen reaction, before = first ++ .wait operation registered :: seen ∧
      Reaction w (m.after w (first ++ [.wait operation registered])) operation reaction ∧
      seen <+: reaction ∧ Steps.cancels steps = Steps.cancels reaction := by
  cases single with
  | brief uncalled =>
      rw [underWay_of_brief uncalled split] at waiting
      cases waiting
  | @waited named first reaction rest registered report accepted reacts ends uncalled =>
      have unwaited := accepted.waits_eq
      rcases List.append_eq_append_iff.mp split with ⟨_ | ⟨x, seen⟩, rfl, later⟩ | ⟨more, rfl, -⟩
      · rw [List.append_nil, accepted.underWay_eq] at waiting
        cases waiting
      · rw [List.cons_append] at later
        injection later with same later
        subst same
        rw [Steps.underWay_append, List.foldl_cons] at waiting
        obtain ⟨rfl, seenOnly⟩ := prefix_of_underWay reacts ends uncalled later waiting
        exact ⟨first, registered, seen, reaction, rfl, reacts, seenOnly,
          cancels_of_waited accepted uncalled⟩
      · rw [Steps.waits_append] at unwaited
        rw [Steps.underWay, Steps.foldl_none (List.append_eq_nil_iff.mp unwaited).1] at waiting
        cases waiting

/-- A wait under way at which the token is cancelled is answered by one cancel call. -/
theorem cancels_of_underWay (single : Single w request s m steps) {before after : List Step}
    {operation : String} (split : steps = before ++ after)
    (waiting : Steps.underWay before = some operation)
    (cancelled : (m.after w before).isCancelled = true) :
    Steps.cancels steps = [operation] := by
  obtain ⟨first, registered, seen, reaction, rfl, reacts, seenOnly, cancels⟩ :=
    single.split_of_underWay split waiting
  cases atWait : (m.after w (first ++ [.wait operation registered])).isCancelled with
  | true => rw [cancels, reacts.cancels_eq, if_pos atWait]
  | false =>
      rw [reacts.nil_of_calm atWait, List.prefix_nil] at seenOnly
      rw [seenOnly, atWait] at cancelled
      cases cancelled

/-- There is a cancel call only as the reaction to a cancelled token. -/
theorem cancels_eq_or (single : Single w request s m steps) :
    Steps.cancels steps = [] ∨
      (∃ operation, Steps.cancels steps = [operation]) ∧ (m.after w steps).isCancelled = true := by
  cases single with
  | brief uncalled =>
      left
      rw [Steps.cancels_cons, uncalled.cancels_eq]
      rfl
  | @waited operation first reaction rest registered report accepted reacts ends uncalled =>
      rw [cancels_of_waited accepted uncalled]
      cases atWait : (m.after w (first ++ [.wait operation registered])).isCancelled with
      | true =>
          right
          refine ⟨⟨operation, by rw [reacts.cancels_eq, if_pos atWait]⟩, ?_⟩
          rw [List.append_cons, Moment.after_append]
          exact Moment.isCancelled_after w _ _ atWait
      | false =>
          left
          rw [reacts.nil_of_calm atWait]
          rfl

/-- A cancel call is made for the operation of the attempt, after its wait has begun. -/
theorem cancelled_during (single : Single w request s m steps) :
    Steps.Everywhere (fun before x _ => ∀ operation, x = .cancel operation →
      (m.after w before).isCancelled = true ∧ Steps.underWay before = some operation ∧
        ∃ later, before = .submit (attemptRequest request s) :: later ∧
          Steps.submissions later = [] ∧
          (w.submit m.submits (attemptRequest request s)).result = .ok operation) steps := by
  have never {some : List Step} (none : Steps.cancels some = []) {P : List Step → String → Prop} :
      Steps.Everywhere (fun before x _ => ∀ operation, x = .cancel operation → P before operation)
        some := by
    apply Steps.everywhere_of_forall
    rintro x member before - operation rfl
    exact nomatch List.filterMap_eq_nil_iff.mp none _ member
  cases single with
  | brief uncalled =>
      apply never
      rw [Steps.cancels_cons, uncalled.cancels_eq]
      rfl
  | @waited named first reaction rest registered report accepted reacts ends uncalled =>
      rw [Steps.everywhere_append, Steps.everywhere_cons, Steps.everywhere_append]
      refine ⟨never accepted.cancels_eq, ?_, ?_, never uncalled.cancels_eq⟩
      · intro operation other
        cases other
      rintro before x after rfl operation rfl
      cases atWait : (m.after w (first ++ [.wait named registered])).isCancelled with
      | false =>
          have nothing := reacts.nil_of_calm atWait
          cases before <;> cases nothing
      | true =>
          have cancels := reacts.cancels_eq
          rw [if_pos atWait, Steps.cancels_append, Steps.cancels_cons] at cancels
          have same : operation = named := by
            have member : operation ∈ [named] := by
              rw [← cancels]
              exact List.mem_append_right _ List.mem_cons_self
            exact List.mem_singleton.mp member
          subst same
          refine ⟨?_, ?_, ?_⟩
          · rw [List.append_cons, Moment.after_append]
            exact Moment.isCancelled_after w _ _ atWait
          · rw [Steps.underWay_append, List.foldl_cons]
            exact reacts.underWay_eq (fun _ member => List.mem_append_left _ member) _
          · have quiet := reacts.submissions_eq
            rw [Steps.submissions_append] at quiet
            have answer := accepted.result_eq
            obtain ⟨silent, -⟩ := accepted
            refine ⟨_, rfl, ?_, answer⟩
            change Steps.submissions (_ ++ _ ++ _ :: before) = []
            simp only [Steps.submissions_append, Steps.submissions_cons, silent.submissions_eq,
              (List.append_eq_nil_iff.mp quiet).1]
            rfl

theorem cancelsOnce (single : Single w request s m steps) : CancelsOnce w m steps where
  once := by
    rcases single.cancels_eq_or with none | ⟨⟨operation, one⟩, -⟩
    · rw [none]
      exact Nat.zero_le 1
    · rw [one]
      exact Nat.le_refl 1
  during := by
    intro before operation after split
    obtain ⟨cancelled, waiting, later, rfl, quiet, answer⟩ :=
      single.cancelled_during before _ after split operation rfl
    exact ⟨cancelled, waiting, [], _, later, rfl, quiet, answer⟩
  reached := by
    intro before after operation split waiting cancelled
    refine ⟨by rw [single.cancels_of_underWay split waiting cancelled]; rfl, ?_⟩
    apply single.submissions_after split
    rintro rfl
    cases waiting
  never := by
    intro calm
    rcases single.cancels_eq_or with none | ⟨-, cancelled⟩
    · exact none
    · rw [calm] at cancelled
      cases cancelled
  last := by
    intro before q after split _
    have tails : steps = (before ++ [.submit q]) ++ after := by simp [split]
    exact single.submissions_after tails (by simp)

end Single

/-- A wait that ends before the token is cancelled makes no cancel call. -/
theorem Waited.calm {w : World} {c : Controller} {request : Request} {s : AttemptState}
    {m : Moment} {operation : String} {failure : Option ExecutionError} {steps : List Step}
    (waited : Waited w c request s m operation failure steps)
    (calm : (m.after w steps).isCancelled = false) : Steps.cancels steps = [] := by
  obtain ⟨-, accepted, reacts⟩ := waited
  have atWait := calm
  rw [List.append_cons, Moment.after_append] at atWait
  rw [reacts.nil_of_calm (Moment.isCancelled_of_after w _ atWait), Steps.cancels_append,
    accepted.cancels_eq]
  rfl

/-- An attempt that another one follows is not cancelled before it has failed. -/
theorem Repeated.calm {w : World} {c : Controller} {request : Request} {s : AttemptState}
    {m : Moment} {steps : List Step} (repeated : Repeated w c request s m steps) :
    Steps.cancels steps = [] ∧ Steps.underWay steps = none ∧ m.isCancelled = false := by
  obtain ⟨waited, -, -, quiet, calm⟩ := repeated
  rw [Moment.after_append] at calm
  have ended := Moment.isCancelled_of_after w _ calm
  refine ⟨?_, ?_, Moment.isCancelled_of_after w _ ended⟩
  · simp only [Steps.cancels_append, Steps.cancels_cons, waited.calm ended, quiet.cancels_eq]
    rfl
  · rw [List.append_assoc, Steps.underWay_append, List.cons_append, List.foldl_cons]
    apply Steps.foldl_none
    rw [Steps.waits_append, quiet.waits_eq]
    rfl

namespace CancelsOnce

variable {w : World} {m : Moment} {first rest : List Step}

/-- Steps without a cancel call, whose submissions start before the token is cancelled, may
precede. -/
theorem append (earlier : CancelsOnce w m first) (uncancelled : Steps.cancels first = [])
    (idle : Steps.underWay first = none)
    (calm : ∀ before q after, first = before ++ .submit q :: after →
      (m.after w before).isCancelled = false)
    (later : CancelsOnce w (m.after w first) rest) : CancelsOnce w m (first ++ rest) where
  once := by
    rw [Steps.cancels_append, uncancelled]
    exact later.once
  during := by
    intro before operation after split
    rcases Steps.split_append split with ⟨left, rfl, -⟩ | ⟨begun, rfl, tail⟩
    · rw [Steps.cancels_append, Steps.cancels_cons] at uncancelled
      cases (List.append_eq_nil_iff.mp uncancelled).2
    · obtain ⟨cancelled, waiting, start, q, since, rfl, quiet, answer⟩ :=
        later.during begun operation after tail
      rw [← Moment.after_append] at cancelled answer
      refine ⟨cancelled, ?_, first ++ start, q, since, (List.append_assoc ..).symm, quiet, answer⟩
      rw [Steps.underWay_append, idle]
      exact waiting
  reached := by
    intro before after operation split waiting cancelled
    rw [Steps.cancels_append, uncancelled]
    rcases List.append_eq_append_iff.mp split with ⟨begun, rfl, tail⟩ | ⟨left, rfl, rfl⟩
    · rw [Steps.underWay_append, idle] at waiting
      rw [Moment.after_append] at cancelled
      exact later.reached begun after operation tail waiting cancelled
    · have one := (earlier.reached before left operation rfl waiting cancelled).1
      rw [uncancelled] at one
      cases one
  never := by
    intro quiet
    rw [Moment.after_append] at quiet
    rw [Steps.cancels_append, uncancelled]
    exact later.never quiet
  last := by
    intro before q after split cancelled
    rcases Steps.split_append split with ⟨left, opens, -⟩ | ⟨begun, rfl, tail⟩
    · rw [calm before q left opens] at cancelled
      cases cancelled
    · rw [Moment.after_append] at cancelled
      exact later.last begun q after tail cancelled

end CancelsOnce

theorem Course.cancelsOnce {w : World} {c : Controller} {request : Request} {s : AttemptState}
    {m : Moment} {steps : List Step} {result : Except JobError Outcome}
    (course : Course w c request s m steps result) : CancelsOnce w m steps := by
  induction course with
  | last final => exact final.single.cancelsOnce
  | again repeated follows ih =>
      obtain ⟨uncancelled, idle, calm⟩ := repeated.calm
      refine repeated.single.cancelsOnce.append uncancelled idle ?_ ih
      intro before q after split
      rw [repeated.single.nil_of_submit split]
      exact calm

theorem cancelsOnce_of_logs {w : World} {m : Moment} {logs : List Step}
    (quiet : Steps.Logs logs) : CancelsOnce w m logs := by
  have idle {before after : List Step} (split : logs = before ++ after) :
      Steps.underWay before = none := by
    have unwaited := quiet.waits_eq
    rw [split, Steps.waits_append] at unwaited
    exact Steps.foldl_none (List.append_eq_nil_iff.mp unwaited).1
  refine ⟨?_, ?_, ?_, fun _ => quiet.cancels_eq, ?_⟩
  · rw [quiet.cancels_eq]
    exact Nat.zero_le 1
  · intro before operation after split
    cases quiet (.cancel operation) (split ▸ List.mem_append_cons_self)
  · intro before after operation split waiting
    rw [idle split] at waiting
    cases waiting
  · intro before q after split
    cases quiet (.submit q) (split ▸ List.mem_append_cons_self)

/-- Every execution asks for one cancellation at most, exactly if a wait is under way when the token
is cancelled, and submits nothing after it. -/
theorem cancelsOnce_of_execute (w : World) (c : Controller) (request : Request) (r : Run) :
    CancelsOnce w r.moment (c.trace w request r) := by
  cases allowed : c.budget.isEmpty with
  | true => exact cancelsOnce_of_logs (execute_of_isEmpty w c request r allowed).2
  | false => exact (execute_course w c request r allowed).cancelsOnce

end Controller

end BatchJob
